import TelemetryCheck.Proofs.Requests.Validated

/-!
# Where requests go

The URL of an input is its scheme, its host, the port of the application and its path, one written
after the other.  Whoever reads a URL takes what stands before the first slash, question mark or
hash as the host and the port.  Validation asks of a path only that there is one, so what a path has
before its first such character is read as more of the port, or turns the host and the port into the
name of a user.
-/

namespace TelemetryCheck

/-! ## Reading URLs -/

namespace Url

def endsAuthority (c : Char) : Bool := c == '/' || c == '?' || c == '#'

def afterScheme : List Char → List Char
  | [] => []
  | c :: rest => if "://".toList.isPrefixOf (c :: rest) then rest.drop 2 else afterScheme rest

def authority (url : List Char) : List Char :=
  (afterScheme url).takeWhile fun c => !endsAuthority c

def beyond (url : List Char) : List Char :=
  (afterScheme url).dropWhile fun c => !endsAuthority c

/-- The characters that the parts of a URL are told apart by. -/
def marks : List Char := ['/', '?', '#', '@', ':']

def Unmarked (cs : List Char) : Prop := ∀ c ∈ cs, c ∉ marks

instance (cs : List Char) : Decidable (Unmarked cs) := List.decidableBAll _ _

/-- The host and the port that an authority names, with a user before them or without one. -/
inductive Names : List Char → List Char → List Char → Prop
  | direct {host port : List Char} : '@' ∉ host ++ port → ':' ∉ host ++ port →
      Names (host ++ ':' :: port) host port
  | user {info host port : List Char} : '@' ∉ host ++ port → ':' ∉ host ++ port →
      Names (info ++ '@' :: (host ++ ':' :: port)) host port

variable {scheme rest host port front : List Char}

theorem afterScheme_append (h : ':' ∉ scheme) (rest : List Char) :
    afterScheme (scheme ++ ("://".toList ++ rest)) = rest := by
  induction scheme with
  | nil => exact if_pos (List.isPrefixOf_iff_prefix.mpr (List.prefix_append _ _))
  | cons c scheme ih =>
    rw [List.mem_cons, not_or] at h
    rw [List.cons_append, afterScheme, if_neg, ih h.2]
    intro hstarts
    exact h.1 (List.cons_prefix_cons.mp (List.isPrefixOf_iff_prefix.mp hstarts)).1

theorem not_mem_endpoint {c : Char} (h : c ∉ host ++ port) (hc : c ≠ ':') :
    c ∉ host ++ ':' :: port := by
  rw [List.mem_append] at h
  rw [List.mem_append, List.mem_cons]
  rintro (hhost | hsign | hport)
  · exact h (.inl hhost)
  · exact hc hsign
  · exact h (.inr hport)

theorem splitOn_endpoint (h : ':' ∉ host ++ port) :
    (host ++ ':' :: port).splitOn ':' = [host, port] := by
  rw [List.mem_append, not_or] at h
  rw [List.splitOn_append_cons_self, List.splitOn_eq_singleton h.1, List.splitOn_eq_singleton h.2]
  rfl

/-- What is named is what stands behind the last `@`, taken apart at its colon. -/
theorem Names.splitOn {whole : List Char} (h : Names whole host port) :
    ((whole.splitOn '@').getLast?.getD []).splitOn ':' = [host, port] := by
  cases h with
  | direct hat hcolon =>
    rw [List.splitOn_eq_singleton (not_mem_endpoint hat (by decide))]
    exact splitOn_endpoint hcolon
  | user hat hcolon =>
    rw [List.splitOn_append_cons_self,
      List.splitOn_eq_singleton (not_mem_endpoint hat (by decide)), List.getLast?_concat]
    exact splitOn_endpoint hcolon

theorem Names.unique {whole host' port' : List Char} (h : Names whole host port)
    (h' : Names whole host' port') : host' = host ∧ port' = port := by
  have hsame : [host', port'] = [host, port] := h'.splitOn.symm.trans h.splitOn
  simpa using hsame

/-- Text behind a host and a port leaves them what is named only if they come once more. -/
theorem names_append_iff (hat : '@' ∉ host ++ port) (hcolon : ':' ∉ host ++ port) :
    Names (host ++ ':' :: port ++ front) host port ↔
      front = [] ∨ ∃ info, front = info ++ '@' :: (host ++ ':' :: port) := by
  constructor
  · intro h
    generalize hwhole : host ++ ':' :: port ++ front = whole at h
    cases h with
    | direct => exact .inl (List.append_right_eq_self.mp hwhole)
    | user =>
      rcases List.append_eq_append_iff.mp hwhole with ⟨info, rfl, hfront⟩ | ⟨more, hends, hfront⟩
      · exact .inr ⟨info, hfront⟩
      · -- the sign that ends the user would stand in the host or in the port
        cases more with
        | nil => exact .inr ⟨[], hfront.symm⟩
        | cons c more =>
          obtain ⟨rfl, -⟩ := List.cons.inj hfront
          have hmem : '@' ∈ host ++ ':' :: port :=
            hends ▸ List.mem_append_right _ List.mem_cons_self
          exact absurd hmem (not_mem_endpoint hat (by decide))
  · rintro (rfl | ⟨info, rfl⟩)
    · rw [List.append_nil]
      exact .direct hat hcolon
    · rw [← List.append_assoc]
      exact .user hat hcolon

end Url

/-! ## URLs of inputs -/

variable {i : Input} {inputs : List Input}

namespace Input

def portText (ports : Ports) : List Char := (Decimal.natText ports.application).toList

def endpoint (i : Input) (ports : Ports) : List Char :=
  i.effectiveHost.toList ++ ':' :: portText ports

def pathFront (i : Input) : List Char := i.path.toList.takeWhile fun c => !Url.endsAuthority c

theorem isDigit_of_mem_portText {ports : Ports} {c : Char} (h : c ∈ portText ports) :
    Text.isDigit c = true := by
  rw [portText, Decimal.natText, String.toList_ofList] at h
  exact Decimal.isDigit_of_mem_toDigits h

theorem inputUrl_eq (i : Input) (ports : Ports) : (inputUrl i ports).toList =
    i.effectiveScheme.toList ++ ("://".toList ++ (i.endpoint ports ++ i.path.toList)) := by
  simp only [inputUrl, endpoint, portText, String.toList_append, List.append_assoc]
  rfl

variable {ports : Ports}

theorem unmarked_effectiveHost (h : Url.Unmarked i.host.toList) :
    Url.Unmarked i.effectiveHost.toList := by
  rw [effectiveHost, orDefault_eq]
  split
  · decide
  · exact h

theorem unmarked_portText (ports : Ports) : Url.Unmarked (portText ports) := by
  intro c hc hmark
  have hdigit := isDigit_of_mem_portText hc
  simp only [Url.marks, List.mem_cons, List.not_mem_nil, or_false] at hmark
  rcases hmark with rfl | rfl | rfl | rfl | rfl <;> exact absurd hdigit (by decide)

/-- Neither the host nor the port has a character that a URL is read by. -/
theorem mark_not_mem (h : Url.Unmarked i.host.toList) {c : Char} (hc : c ∈ Url.marks) :
    c ∉ i.effectiveHost.toList ++ portText ports := by
  rw [List.mem_append]
  rintro (hhost | hport)
  · exact unmarked_effectiveHost h c hhost hc
  · exact unmarked_portText ports c hport hc

theorem not_endsAuthority (h : Url.Unmarked i.host.toList) :
    ∀ c ∈ i.endpoint ports, (!Url.endsAuthority c) = true := by
  intro c hc
  rw [Bool.not_eq_true', ← Bool.not_eq_true]
  intro hends
  have hcases : c = '/' ∨ c = '?' ∨ c = '#' := by
    simpa [Url.endsAuthority, or_assoc] using hends
  rcases hcases with rfl | rfl | rfl <;>
    exact Url.not_mem_endpoint (mark_not_mem h (by decide)) (by decide) hc

/-- A path has nothing before its first such character exactly if it begins with one. -/
theorem pathFront_eq_nil (hne : i.path ≠ "") :
    i.pathFront = [] ↔ ∃ c ∈ i.path.toList.head?, Url.endsAuthority c = true := by
  rw [pathFront]
  generalize hpath : i.path.toList = path
  cases path with
  | nil => exact absurd (String.toList_eq_nil_iff.mp hpath) hne
  | cons c rest =>
    rw [List.head?_cons, List.takeWhile_cons]
    cases hc : Url.endsAuthority c <;> simp [hc]

end Input

theorem no_colon_of_mem : ∀ scheme ∈ httpSchemes, ':' ∉ scheme.toList := by decide

/-- The authority of the URL of a valid input is its host and its port with the front of the path
behind them.  It is the host and the port, with the path beyond, exactly where the path begins with
a character that ends an authority; elsewhere a request goes to the same host and port only if the
path names them once more. -/
theorem inputUrl_authority (h : validateInputs inputs = .ok []) (hi : i ∈ inputs)
    (hhost : Url.Unmarked i.host.toList) (ports : Ports) :
    Url.authority (inputUrl i ports).toList = i.endpoint ports ++ i.pathFront ∧
      i.pathFront ++ Url.beyond (inputUrl i ports).toList = i.path.toList ∧
      ((Url.authority (inputUrl i ports).toList = i.endpoint ports ∧
          Url.beyond (inputUrl i ports).toList = i.path.toList) ↔
        ∃ c ∈ i.path.toList.head?, Url.endsAuthority c = true) ∧
      (Url.Names (Url.authority (inputUrl i ports).toList) i.effectiveHost.toList
          (Input.portText ports) ↔
        i.pathFront = [] ∨ ∃ info, i.pathFront = info ++ '@' :: i.endpoint ports) := by
  have hvalid : i.Valid := validateInputs_eq_nil.mp h i hi
  have hafter : Url.afterScheme (inputUrl i ports).toList = i.endpoint ports ++ i.path.toList := by
    rw [Input.inputUrl_eq]
    exact Url.afterScheme_append (no_colon_of_mem _ hvalid.effectiveScheme_mem) _
  have hauthority : Url.authority (inputUrl i ports).toList = i.endpoint ports ++ i.pathFront := by
    rw [Url.authority, hafter, List.takeWhile_append_of_pos (Input.not_endsAuthority hhost)]
    rfl
  have hbeyond : i.pathFront ++ Url.beyond (inputUrl i ports).toList = i.path.toList := by
    rw [Url.beyond, hafter, List.dropWhile_append_of_pos (Input.not_endsAuthority hhost)]
    exact List.takeWhile_append_dropWhile
  refine ⟨hauthority, hbeyond, ?_, ?_⟩
  · rw [← Input.pathFront_eq_nil hvalid.path, hauthority, List.append_right_eq_self]
    constructor
    · exact And.left
    · intro hfront
      rw [hfront, List.nil_append] at hbeyond
      exact ⟨hfront, hbeyond⟩
  · rw [hauthority]
    exact Url.names_append_iff (Input.mark_not_mem hhost (by decide))
      (Input.mark_not_mem hhost (by decide))

def lookup : Input := { host := "app", path := "?mail=a@b:1" }

theorem lookup_authority : validateInputs [lookup] = .ok [] ∧ Url.Unmarked lookup.host.toList ∧
    Url.authority (inputUrl lookup {}).toList = "app:8080".toList ∧
    Url.beyond (inputUrl lookup {}).toList = "?mail=a@b:1".toList ∧
    Url.Names (Url.authority (inputUrl lookup {}).toList) "app".toList "8080".toList := by
  have hvalid : validateInputs [lookup] = .ok [] := by decide +kernel
  have hhost : Url.Unmarked lookup.host.toList := by decide +kernel
  obtain ⟨-, -, hkept, hnames⟩ := inputUrl_authority hvalid List.mem_cons_self hhost {}
  obtain ⟨hauthority, hbeyond⟩ := hkept.mpr ⟨'?', by decide +kernel, by decide⟩
  exact ⟨hvalid, hhost, hauthority.trans (by decide +kernel), hbeyond,
    hnames.mpr (.inl (by decide +kernel))⟩

def detour : Input := { path := "@elsewhere:81/x" }

/-- Such a path is let through, and it takes the request to its own endpoint. -/
theorem detour_elsewhere : validateInputs [detour] = .ok [] ∧ Url.Unmarked detour.host.toList ∧
    Url.Names (Url.authority (inputUrl detour {}).toList) "elsewhere".toList "81".toList ∧
    ¬Url.Names (Url.authority (inputUrl detour {}).toList) "localhost".toList "8080".toList ∧
    Url.authority (inputUrl detour {}).toList ≠ detour.endpoint {} := by
  have hauthority : Url.authority (inputUrl detour {}).toList =
      "localhost:8080".toList ++ '@' :: ("elsewhere".toList ++ ':' :: "81".toList) := by
    decide +kernel
  have helsewhere : Url.Names (Url.authority (inputUrl detour {}).toList) "elsewhere".toList
      "81".toList := hauthority ▸ .user (by decide) (by decide)
  refine ⟨by decide +kernel, by decide +kernel, helsewhere, fun hmeant => ?_, by decide +kernel⟩
  exact absurd (helsewhere.unique hmeant).2 (by decide)

end TelemetryCheck
