import TelemetryCheck.Files
import TelemetryCheck.Proofs.FirstFailure

/-!
# What changes to files leave alone

A place is given by the names that lead down to it from the root.  A directory is made where there
is nothing yet, so whatever was at a place stays.  Taking a directory away takes away the place that
a walk to it ends at and the places below, and nothing else.
-/

namespace TelemetryCheck

variable {name : String} {names place rest : List String}

namespace FileTree

variable {t t' t'' below new : FileTree} {es : List (String × FileTree)}

inductive SameKind : FileTree → FileTree → Prop
  | file (content : FileContent) : SameKind (.file content) (.file content)
  | directory (es es' : List (String × FileTree)) : SameKind (.directory es) (.directory es')

theorem SameKind.refl : ∀ t : FileTree, SameKind t t
  | .file content => .file content
  | .directory es => .directory es es

theorem SameKind.trans (h : SameKind t t') (h' : SameKind t' t'') : SameKind t t'' := by
  cases h with
  | file => exact h'
  | directory =>
    cases h'
    exact .directory _ _

/-- What was at a place is there afterwards as well. -/
def KeptAt (before after : FileTree) (place : List String) : Prop :=
  ∀ t, before.at? place = some t → ∃ t', after.at? place = some t' ∧ SameKind t t'

theorem KeptAt.refl (t : FileTree) (place : List String) : KeptAt t t place :=
  fun found hfound => ⟨found, hfound, .refl found⟩

theorem KeptAt.trans (h : KeptAt t t' place) (h' : KeptAt t' t'' place) : KeptAt t t'' place := by
  intro found hfound
  obtain ⟨found', hfound', hkind⟩ := h found hfound
  obtain ⟨found'', hfound'', hkind'⟩ := h' found' hfound'
  exact ⟨found'', hfound'', hkind.trans hkind'⟩

theorem keptAt_nil (h : SameKind t t') : KeptAt t t' [] := by
  intro found hfound
  cases hfound
  exact ⟨t', rfl, h⟩

theorem keptAt_cons (h : ∀ below, t.child? name = some below →
    ∃ below', t'.child? name = some below' ∧ KeptAt below below' rest) :
    KeptAt t t' (name :: rest) := by
  intro found hfound
  rw [at?] at hfound
  obtain ⟨below, hchild, hfound⟩ := Option.bind_eq_some_iff.mp hfound
  obtain ⟨below', hchild', hkept⟩ := h below hchild
  rw [at?, hchild']
  exact hkept found hfound

theorem keptAt_of_child?_eq (h : t'.child? name = t.child? name) : KeptAt t t' (name :: rest) :=
  keptAt_cons fun below hchild => ⟨below, h.trans hchild, .refl below rest⟩

theorem at?_append (names rest : List String) (t : FileTree) :
    t.at? (names ++ rest) = (t.at? names).bind (at? rest) := by
  induction names generalizing t with
  | nil => rfl
  | cons name names ih =>
    rw [List.cons_append, at?, at?]
    cases t.child? name with
    | none => rfl
    | some below => exact ih below

/-! ## Taking away -/

theorem field?_filter_ne {other : String} (h : other ≠ name) (es : List (String × FileTree)) :
    Json.field? other (es.filter fun e => e.1 ≠ name) = Json.field? other es := by
  induction es with
  | nil => rfl
  | cons e rest ih =>
    obtain ⟨key, value⟩ := e
    by_cases hkey : key = name
    · rw [List.filter_cons_of_neg (by simpa using hkey), ih, Json.field?, if_neg]
      exact fun hother => h (hother.symm.trans hkey)
    · rw [List.filter_cons_of_pos (by simpa using hkey), Json.field?, Json.field?, ih]

theorem child?_remove_ne {other : String} (h : other ≠ name) (t : FileTree) :
    (remove (name :: rest) t).child? other = t.child? other := by
  cases rest with
  | nil => exact field?_filter_ne h t.entries
  | cons next rest =>
    rw [remove]
    · cases t.child? name with
      | none => rfl
      | some below => exact Json.field?_setField_ne _ _ h
    · exact List.cons_ne_nil _ _

theorem child?_remove_self (hne : rest ≠ []) (h : t.child? name = some below) :
    (remove (name :: rest) t).child? name = some (remove rest below) := by
  rw [remove, h]
  · exact Json.field?_setField _ _ _
  · exact hne

theorem sameKind_remove (es : List (String × FileTree)) :
    SameKind (.directory es) (remove (name :: rest) (.directory es)) := by
  cases rest with
  | nil => exact .directory _ _
  | cons next rest =>
    rw [remove]
    · cases (FileTree.directory es).child? name with
      | none => exact .directory _ _
      | some below => exact .directory _ _
    · exact List.cons_ne_nil _ _

/-- Taking away what is at some names keeps every place that is not at them or below. -/
theorem keptAt_remove (hthere : (t.at? names).isSome) (h : ¬names <+: place) :
    KeptAt t (remove names t) place := by
  induction names generalizing t place with
  | nil => exact absurd List.nil_prefix h
  | cons name rest ih =>
    rw [at?] at hthere
    cases hchild : t.child? name with
    | none =>
      rw [hchild] at hthere
      cases hthere
    | some below =>
    rw [hchild] at hthere
    cases t with
    | file content => cases hchild
    | directory es =>
    cases place with
    | nil => exact keptAt_nil (sameKind_remove es)
    | cons other more =>
      by_cases hother : other = name
      · -- nothing at the last name is left, so there are names to go on with
        subst hother
        have hmore : ¬rest <+: more := fun hle => h (List.cons_prefix_cons.mpr ⟨rfl, hle⟩)
        have hne : rest ≠ [] := fun hnil => hmore (hnil ▸ List.nil_prefix)
        refine keptAt_cons fun child hsame => ⟨_, child?_remove_self hne hsame, ?_⟩
        rw [hchild] at hsame
        cases hsame
        exact ih hthere hmore
      · exact keptAt_of_child?_eq (child?_remove_ne hother _)

/-! ## Putting something where nothing is -/

theorem child?_put_ne {other : String} (h : other ≠ name) (t : FileTree) :
    (put new (name :: rest) t).child? other = t.child? other :=
  Json.field?_setField_ne _ _ h

theorem child?_put_self (t : FileTree) :
    (put new (name :: rest) t).child? name =
      some (put new rest ((t.child? name).getD empty)) :=
  Json.field?_setField _ _ _

theorem keptAt_put (hthere : t.at? names = some (.directory es))
    (hnone : (FileTree.directory es).child? name = none) (new : FileTree) (place : List String) :
    KeptAt t (put new (names ++ [name]) t) place := by
  induction names generalizing t place with
  | nil =>
    cases hthere
    cases place with
    | nil => exact keptAt_nil (.directory _ _)
    | cons other more =>
      by_cases hother : other = name
      · subst hother
        refine keptAt_cons fun below hbelow => ?_
        rw [hnone] at hbelow
        cases hbelow
      · exact keptAt_of_child?_eq (child?_put_ne hother _)
  | cons first names ih =>
    rw [at?] at hthere
    obtain ⟨below, hchild, hbelow⟩ := Option.bind_eq_some_iff.mp hthere
    cases t with
    | file content => cases hchild
    | directory es' =>
    cases place with
    | nil => exact keptAt_nil (.directory _ _)
    | cons other more =>
      by_cases hother : other = first
      · subst hother
        refine keptAt_cons fun child hsame => ⟨_, child?_put_self _, ?_⟩
        rw [hchild] at hsame ⊢
        cases hsame
        exact ih hbelow more
      · exact keptAt_of_child?_eq (child?_put_ne hother _)

end FileTree

namespace Files

open FileTree (KeptAt)

variable {f f' f'' : Files} {p : Path} {root here t : FileTree}
  {above above' : List (String × FileTree)}

/-! ## Walks -/

/-- The directories above a place lead to it from the root, each to the next one. -/
inductive Leads (root : FileTree) : List (String × FileTree) → FileTree → Prop
  | root : Leads root [] root
  | down {above : List (String × FileTree)} {here t : FileTree} {name : String} :
      Leads root above here → here.child? name = some t → Leads root ((name, here) :: above) t

theorem namesOf_cons (name : String) (parent : FileTree) (above : List (String × FileTree)) :
    namesOf ((name, parent) :: above) = namesOf above ++ [name] := by
  rw [namesOf, List.map_cons, List.reverse_cons]
  rfl

theorem Leads.at? (h : Leads root above t) : root.at? (namesOf above) = some t := by
  induction h with
  | root => rfl
  | down _ hchild ih =>
    rw [namesOf_cons, FileTree.at?_append, ih]
    show ((FileTree.child? _ _).bind (FileTree.at? [])) = _
    rw [hchild]
    rfl

theorem walk_up (above : List (String × FileTree)) (es : List (String × FileTree)) :
    walk above (.directory es) (".." :: rest) =
      match above with
      | [] => walk [] (.directory es) rest
      | (_, parent) :: more => walk more parent rest := by
  cases above <;> simp only [walk, if_pos]

theorem walk_down (hname : name ≠ "..") (es : List (String × FileTree)) :
    walk above (.directory es) (name :: rest) =
      if maxName < name.utf8ByteSize then .error .nameTooLong
      else
        match (FileTree.directory es).child? name with
        | none => .error .missing
        | some t => walk ((name, .directory es) :: above) t rest := by
  rw [walk.eq_def]
  exact if_neg hname

/-- A walk down adds a directory to the ones above, and a walk up takes one back. -/
theorem Leads.walk (h : Leads root above here) (hwalk : walk above here names = .ok (above', t)) :
    Leads root above' t := by
  induction names generalizing above here with
  | nil =>
    cases hwalk
    exact h
  | cons name rest ih =>
    cases here with
    | file content => cases hwalk
    | directory es =>
    by_cases hname : name = ".."
    · subst hname
      rw [walk_up] at hwalk
      cases h with
      | root => exact ih .root hwalk
      | down hparent _ => exact ih hparent hwalk
    rw [walk_down hname] at hwalk
    split at hwalk
    · cases hwalk
    split at hwalk
    · cases hwalk
    · rename_i below hbelow
      exact ih (.down h hbelow) hwalk

theorem walk_append (names rest : List String) :
    walk above here (names ++ rest) = walk above here names >>= fun w => walk w.1 w.2 rest := by
  induction names generalizing above here with
  | nil => rfl
  | cons name names ih =>
    rw [List.cons_append]
    cases here with
    | file content => simp only [walk, bind, Except.bind]
    | directory es =>
    by_cases hname : name = ".."
    · subst hname
      rw [walk_up, walk_up]
      cases above with
      | nil => exact ih
      | cons e more => exact ih
    rw [walk_down hname, walk_down hname]
    split
    · rfl
    split
    · rfl
    · exact ih

/-- One name that is not `..` leads to an entry of the directory. -/
theorem walk_singleton (hname : name ≠ "..") (h : walk above here [name] = .ok (above', t)) :
    above' = (name, here) :: above ∧ here.child? name = some t := by
  cases here with
  | file content => cases h
  | directory es =>
  rw [walk_down hname] at h
  split at h
  · cases h
  split at h
  · cases h
  · rename_i below hbelow
    cases h
    exact ⟨rfl, hbelow⟩

/-- A name of which there is no entry is missing in a directory. -/
theorem walk_singleton_missing (h : walk above here [name] = .error .missing) :
    ∃ es, here = .directory es ∧ here.child? name = none := by
  cases here with
  | file content => cases h
  | directory es =>
  by_cases hname : name = ".."
  · subst hname
    rw [walk_up] at h
    cases above <;> cases h
  rw [walk_down hname] at h
  split at h
  · cases h
  split at h
  · rename_i hnone
    exact ⟨es, rfl, hnone⟩
  · cases h

/-- Where a path leads, as seen from the working directory. -/
def LeadsTo (f : Files) (p : Path) (place : List String) : Prop :=
  ∃ above t, walk [] f.tree (f.cwd ++ p).parts = .ok (above, t) ∧ namesOf above = place

theorem names_eq_ok (h : f.names p = .ok names) : names = (f.cwd ++ p).parts := by
  unfold Files.names at h
  split at h
  · cases h
  split at h
  · cases h
  · cases h
    rfl

/-- A name below a path leads to an entry of what the path leads to. -/
theorem LeadsTo.of_child (hname : name ≠ "..")
    (h : f.LeadsTo ⟨p.root, p.parts ++ [name]⟩ names) :
    ∃ place, f.LeadsTo p place ∧ names = place ++ [name] := by
  have hparts : (f.cwd ++ (⟨p.root, p.parts ++ [name]⟩ : Path)).parts =
      (f.cwd ++ p).parts ++ [name] := by
    show (f.cwd.append _).parts = (f.cwd.append p).parts ++ [name]
    unfold Path.append Path.isAbsolute
    split
    · rfl
    · exact (List.append_assoc _ _ _).symm
  obtain ⟨above, t, hwalk, rfl⟩ := h
  rw [hparts, walk_append] at hwalk
  obtain ⟨⟨above', here⟩, hroot, hlast⟩ := bind_eq_ok.mp hwalk
  obtain ⟨rfl, -⟩ := walk_singleton hname hlast
  exact ⟨namesOf above', ⟨above', here, hroot, rfl⟩, namesOf_cons _ _ _⟩

theorem find_eq_ok (h : f.find p = .ok (names, t)) :
    f.LeadsTo p names ∧ f.tree.at? names = some t := by
  obtain ⟨all, hall, hrest⟩ := bind_eq_ok.mp h
  obtain ⟨⟨above, found⟩, hwalk, hdone⟩ := bind_eq_ok.mp hrest
  cases hdone
  rw [names_eq_ok hall] at hwalk
  exact ⟨⟨above, t, hwalk, rfl⟩, (Leads.root.walk hwalk).at?⟩

/-! ## Directories taken away -/

theorem removeTree_eq_ok (h : f.removeTree p = .ok f') :
    f'.cwd = f.cwd ∧ ∃ names, f.LeadsTo p names ∧
      ∀ place, ¬names <+: place → KeptAt f.tree f'.tree place := by
  unfold removeTree at h
  split at h
  · rename_i names es hfind
    obtain ⟨hleads, hat⟩ := find_eq_ok hfind
    cases h
    refine ⟨rfl, names, hleads, fun place hplace => FileTree.keptAt_remove ?_ hplace⟩
    rw [hat]
    rfl
  · cases h
  · cases h

/-! ## Directories made -/

/-- Everything that was there is there afterwards as well. -/
structure Keeps (f f' : Files) : Prop where
  cwd : f'.cwd = f.cwd
  kept (place : List String) : KeptAt f.tree f'.tree place

theorem Keeps.refl (f : Files) : Keeps f f := ⟨rfl, KeptAt.refl f.tree⟩

theorem Keeps.trans (h : Keeps f f') (h' : Keeps f' f'') : Keeps f f'' :=
  ⟨h'.cwd.trans h.cwd, fun place => (h.kept place).trans (h'.kept place)⟩

/-- Something new can be made in a directory in which there is no entry of its name yet. -/
theorem place_eq_none (h : f.place p = .ok (names, none)) :
    ∃ above name es, names = namesOf above ++ [name] ∧
      f.tree.at? (namesOf above) = some (.directory es) ∧
        (FileTree.directory es).child? name = none := by
  obtain ⟨all, -, hrest⟩ := bind_eq_ok.mp h
  cases hlast : all.getLast? with
  | none =>
    rw [hlast] at hrest
    cases hrest
  | some name =>
    rw [hlast] at hrest
    obtain ⟨⟨above, parent⟩, hwalk, hrest⟩ := bind_eq_ok.mp hrest
    simp only at hrest
    split at hrest
    · cases hrest
    · rename_i hmissing
      cases hrest
      obtain ⟨es, rfl, hnone⟩ := walk_singleton_missing hmissing
      exact ⟨above, name, es, rfl, (Leads.root.walk hwalk).at?, hnone⟩
    · cases hrest

theorem keeps_makeDirectory (h : f.makeDirectory p = .ok f') : Keeps f f' := by
  obtain ⟨⟨names, found⟩, hplace, hrest⟩ := bind_eq_ok.mp h
  cases found with
  | some t => cases hrest
  | none =>
    cases hrest
    obtain ⟨above, name, es, rfl, hthere, hnone⟩ := place_eq_none hplace
    exact ⟨rfl, FileTree.keptAt_put hthere hnone .empty⟩

theorem keeps_settleDirectory {made : Except FileError Files}
    (hmade : ∀ f', made = .ok f' → Keeps f f') (h : f.settleDirectory p made = .ok f') :
    Keeps f f' := by
  unfold settleDirectory at h
  split at h
  · rename_i f₁
    cases h
    exact hmade _ rfl
  · cases h
  · cases h
  · obtain ⟨there, -, hrest⟩ := bind_eq_ok.mp h
    cases there with
    | true =>
      cases hrest
      exact .refl f
    | false => cases hrest

theorem keeps_makeDirectoriesFrom {count : Nat} (h : f.makeDirectoriesFrom count p = .ok f') :
    Keeps f f' := by
  induction count generalizing p f' with
  | zero => exact keeps_settleDirectory (fun _ => keeps_makeDirectory) h
  | succ count ih =>
    rw [makeDirectoriesFrom] at h
    split at h
    · split at h
      · cases h
      · obtain ⟨f₁, habove, hrest⟩ := bind_eq_ok.mp h
        exact (ih habove).trans (keeps_settleDirectory (fun _ => keeps_makeDirectory) hrest)
    · exact keeps_settleDirectory (fun _ => keeps_makeDirectory) h

theorem keeps_makeDirectories (h : f.makeDirectories p = .ok f') : Keeps f f' :=
  keeps_makeDirectoriesFrom h

/-! ## A directory made anew -/

def made (f : Files) (p : Path) : Files :=
  match f.makeDirectories p with
  | .ok f' => f'
  | .error _ => f

/-- The files once a directory is taken away, where there is one, and made again. -/
def remade (f : Files) (p : Path) : Files :=
  match f.isDirectory p with
  | .ok false => f.made p
  | .ok true =>
    match f.removeTree p with
    | .ok f' => f'.made p
    | .error _ => f
  | .error _ => f

theorem keeps_made (f : Files) (p : Path) : Keeps f (f.made p) := by
  unfold made
  split
  · rename_i hmade
    exact keeps_makeDirectories hmade
  · exact .refl f

/-- Only the place that the path leads to, and what is below, can be lost. -/
theorem keptAt_remade :
    KeptAt f.tree (f.remade p).tree place ∨ ∃ names, f.LeadsTo p names ∧ names <+: place := by
  unfold remade
  split
  · exact .inl ((keeps_made f p).kept place)
  · split
    · rename_i f' hremoved
      obtain ⟨-, names, hleads, hrest⟩ := removeTree_eq_ok hremoved
      by_cases hplace : names <+: place
      · exact .inr ⟨names, hleads, hplace⟩
      · exact .inl ((hrest place hplace).trans ((keeps_made f' p).kept place))
    · exact .inl (.refl _ _)
  · exact .inl (.refl _ _)

end Files
end TelemetryCheck
