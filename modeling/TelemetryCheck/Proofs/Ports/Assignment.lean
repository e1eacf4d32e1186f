import TelemetryCheck.Proofs.CommandLine.Endings
import TelemetryCheck.Proofs.Ports.Allocation

/-!
# Test cases with ports of their own

Test cases that run side by side get port sets from one allocator, before any of them is let in.
Letting in gives the default ports only to a test case that has none, so it takes no port set away,
and it can be asked for again at any time.
-/

namespace TelemetryCheck

/-! ## Letting in -/

namespace TestCase

variable {ω τ : Type}

/-- A test case after it was asked whether it can be let in, whatever the answer was. -/
def validated (c : TestCase τ) (b : Bench ω) : TestCase τ :=
  match (c.accept.runFrom b).1 with
  | .ok admitted => admitted
  | .error _ => c

theorem withPorts_of_some {c : TestCase τ} {ports : Ports} (h : c.portConfig = some ports) :
    c.withPorts = c := by
  unfold withPorts TestCase.ports
  rw [h]
  show { c with portConfig := some ports } = c
  rw [← h]

/-- A valid test case is let in with ports, any other stays as it is. -/
theorem accept_cases (c : TestCase τ) (b : Bench ω) :
    ((c.accept.runFrom b).1 = .ok c.withPorts ∧ c.validated b = c.withPorts) ∨
      ∃ f, (c.accept.runFrom b).1 = .error f ∧ c.validated b = c := by
  have haccept := runFrom_accept c b
  unfold validated
  split at haccept
  · split at haccept
    · rw [haccept]
      exact .inl ⟨rfl, rfl⟩
    · rw [haccept]
      exact .inr ⟨_, rfl, rfl⟩
  · rw [haccept]
    exact .inr ⟨_, rfl, rfl⟩

theorem validated_of_some {c : TestCase τ} {ports : Ports} (h : c.portConfig = some ports)
    (b : Bench ω) : c.validated b = c := by
  rcases c.accept_cases b with ⟨-, hvalidated⟩ | ⟨-, -, hvalidated⟩
  · rw [hvalidated, withPorts_of_some h]
  · exact hvalidated

/-- A test case that has ports stays as it is, however often it is asked about. -/
theorem foldl_validated {c : TestCase τ} {ports : Ports} (h : c.portConfig = some ports)
    (benches : List (Bench ω)) : benches.foldl validated c = c := by
  induction benches with
  | nil => rfl
  | cons b rest ih => rw [List.foldl_cons, validated_of_some h, ih]

theorem accept_congr (c : TestCase τ) {b b' : Bench ω} (hfiles : b'.files = b.files) :
    (c.accept.runFrom b').1 = (c.accept.runFrom b).1 := by
  rw [runFrom_accept, runFrom_accept, hfiles]

/-- Ports make no difference to whether a test case is let in. -/
theorem accept_withPorts (c : TestCase τ) (b : Bench ω) :
    (c.withPorts.accept.runFrom b).1 = (c.accept.runFrom b).1 := by
  rw [runFrom_accept, runFrom_accept, withPorts_of_some (rfl : c.withPorts.portConfig = _)]
  rfl

/-- Over the same files the same is answered again, and the test case does not change any more. -/
theorem accept_again (c : TestCase τ) {b b' : Bench ω} (hfiles : b'.files = b.files) :
    ((c.validated b).accept.runFrom b').1 = (c.accept.runFrom b).1 ∧
      (c.validated b).validated b' = c.validated b := by
  rcases c.accept_cases b with ⟨-, hvalidated⟩ | ⟨f, hrefused, hvalidated⟩
  · rw [hvalidated, accept_withPorts, c.accept_congr hfiles]
    exact ⟨rfl, validated_of_some rfl b'⟩
  · rw [hvalidated]
    refine ⟨c.accept_congr hfiles, ?_⟩
    unfold validated
    rw [c.accept_congr hfiles, hrefused]

end TestCase

/-! ## Ports for each test case -/

namespace CommandLine

open Commands

variable {ω τ : Type} {s : Surroundings ω}

theorem called_of_allocate {a a' : PortAllocator} {ports : Ports} {b b' : Bench ω}
    (h : (allocate s a).runFrom b = (.ok (ports, a'), b')) :
    ∃ rest, PortAllocator.Called a (s.offers b) (.allocated ports) a' rest := by
  have hcalled := PortAllocator.called_allocate a (s.offers b)
  rcases hrun : a.allocate (s.offers b) with ⟨o, a₁, rest⟩
  rw [hrun] at hcalled
  unfold allocate at h
  rcases Action.bind_cases h with ⟨f, hget, -⟩ | ⟨_, _, hget, h⟩
  · cases hget
  cases hget
  simp only [hrun] at h
  rcases Action.bind_cases h with ⟨f, -, hf⟩ | ⟨_, b₁, -, h⟩
  · cases hf
  rcases Action.bind_cases h with ⟨f, -, hf⟩ | ⟨taken, b₂, htaken, h⟩
  · cases hf
  rcases Action.bind_cases h with ⟨f, -, hf⟩ | ⟨checked, b₃, hchecked, h⟩
  · cases hf
  cases h
  cases o with
  | allocated p =>
    cases htaken
    cases hports : Conversion.checkedPorts taken with
    | failed complaints =>
      rw [hports] at hchecked
      cases hchecked
    | ok q =>
      rw [hports] at hchecked
      cases hchecked
      rw [Conversion.eq_of_checkedPorts hports]
      exact ⟨rest, hcalled⟩
  | exhausted => cases htaken
  | noOffers => cases htaken

/-- The test cases `prepared` are `cases` with the port sets `sets`, one each and in order, and all
ports of these are different. -/
structure Apart (cases prepared : List (TestCase τ)) (sets : List Ports) : Prop where
  length_eq : sets.length = cases.length
  prepared_eq : prepared = (cases.zip sets).map fun pair => { pair.1 with portConfig := some pair.2 }
  nodup : (sets.flatMap Ports.toList).Nodup

theorem Apart.exists_ports {cases prepared : List (TestCase τ)} {sets : List Ports}
    (h : Apart cases prepared sets) {c : TestCase τ} (hc : c ∈ prepared) :
    ∃ ports, c.portConfig = some ports := by
  rw [h.prepared_eq] at hc
  obtain ⟨⟨found, ports⟩, -, rfl⟩ := List.mem_map.mp hc
  exact ⟨ports, rfl⟩

/-- The induction is on the test cases.  What one gets is handed out when the others get theirs. -/
theorem apart_of_assignPorts {cases prepared : List (TestCase τ)} {a : PortAllocator}
    {b b' : Bench ω} (h : (assignPorts s a cases).runFrom b = (.ok prepared, b')) :
    ∃ sets, Apart cases prepared sets ∧ ∀ p ∈ sets.flatMap Ports.toList, p ∉ a.handedOut := by
  induction cases generalizing a prepared b with
  | nil =>
    cases h
    exact ⟨[], ⟨rfl, rfl, List.nodup_nil⟩, List.forall_mem_nil _⟩
  | cons c rest ih =>
    unfold assignPorts at h
    rcases Action.bind_cases h with ⟨f, -, hf⟩ | ⟨⟨ports, a'⟩, b₁, hallocate, h⟩
    · cases hf
    rcases Action.bind_cases h with ⟨f, -, hf⟩ | ⟨others, b₂, hothers, h⟩
    · cases hf
    cases h
    obtain ⟨left, hcalled⟩ := called_of_allocate hallocate
    obtain ⟨sets, hapart, hfresh⟩ := ih hothers
    cases hcalled with
    | allocated _ htaken =>
      have hnew : ∀ p ∈ sets.flatMap Ports.toList, p ∉ ports.toList ∧ p ∉ a.handedOut := by
        intro p hp
        have hout := hfresh p hp
        rw [List.mem_append, List.mem_reverse, not_or] at hout
        exact hout
      refine ⟨ports :: sets, ⟨congrArg (· + 1) hapart.length_eq, ?_, ?_⟩, ?_⟩
      · rw [hapart.prepared_eq]
        rfl
      · rw [List.flatMap_cons]
        exact htaken.nodup.append hapart.nodup fun p hp hlater => (hnew p hlater).1 hp
      · rw [List.flatMap_cons]
        intro p hp
        rcases List.mem_append.mp hp with hp | hp
        · exact htaken.fresh p hp
        · exact (hnew p hp).2

theorem apart_of_discover {settings : Settings} {order : Order} (horder : order.randomPorts = true)
    {b b' : Session ω} {prepared : List (TestCase Float)}
    (h : (discover s settings order).run.runFrom b = (.ok (.ok prepared), b')) :
    ∃ cases sets, (found settings (basePath settings order)).ending b = .ok (.ok cases) ∧
      Apart cases prepared sets := by
  unfold Job.ending
  rw [discover, Job.runFrom_bind] at h
  rcases hfound : (found settings (basePath settings order)).run.runFrom b with
    ⟨f | status | cases, b₁⟩
  all_goals rw [hfound] at h
  · cases h
  · cases h
  dsimp only at h
  rw [if_pos horder, Job.runFrom_outside] at h
  cases hassign : (assignPorts s { count := cases.length } cases).runFrom (inner b₁) with
  | mk ending i =>
    rw [hassign] at h
    cases ending with
    | error f => cases h
    | ok others =>
      cases h
      obtain ⟨sets, hapart, -⟩ := apart_of_assignPorts hassign
      exact ⟨cases, sets, rfl, hapart⟩

theorem letIn_of_some {c : TestCase τ} {ports : Ports} (h : c.portConfig = some ports)
    (files : Files) : letIn files c = c := by
  unfold letIn
  rw [TestCase.withPorts_of_some h, ite_self]

/-- Letting in all test cases gives none of them other ports. -/
theorem acceptAll_of_apart {cases prepared accepted : List (TestCase τ)} {sets : List Ports}
    (hapart : Apart cases prepared sets) {invalid : List Misconfiguration} {b b' : Bench ω}
    (h : (acceptAll prepared).runFrom b = (.ok (accepted, invalid), b')) :
    accepted = prepared := by
  obtain ⟨b₁, -, -, hrun⟩ := runFrom_acceptAll prepared b
  rw [hrun] at h
  have hlet : prepared.map (letIn b.files) = prepared := by
    refine (List.map_congr_left fun c hc => ?_).trans (List.map_id prepared)
    obtain ⟨ports, hports⟩ := hapart.exists_ports hc
    exact letIn_of_some hports _
  cases hfault : prepared.findSome? (unanswered? b.files) with
  | some f =>
    rw [hfault] at h
    cases h
  | none =>
    rw [hfault] at h
    cases h
    exact hlet

/-- Random ports never clash and are never taken away.  Whatever ports are offered, those that an
allocator gives are all different; as many calls succeed as it has port sets for and as there are
different ports for, and any more are refused and change nothing.  Test cases that were prepared with
random ports keep theirs however often they are let in or refused.  A test case without ports gets
the default ones when it is let in and none when it is refused, and over the same files it is
answered the same again. -/
theorem random_ports_apart (count : Int) {offers : List Nat}
    (hoffers : PortAllocator.Usable offers) (s : Surroundings ω) (settings : Settings)
    {order : Order} (horder : order.randomPorts = true) :
    (∀ n, ((PortAllocator.given { count } offers n).flatMap Ports.toList).Nodup) ∧
    (∀ n : Nat, n < count →
      ((∃ ports, PortAllocator.answerAt { count } offers n = .ok ports) ↔
        PortAllocator.portsPerCase * (n + 1) ≤ offers.toFinset.card)) ∧
    (∀ n : Nat, count ≤ n →
      PortAllocator.answerAt { count } offers n = .error (.fault (.portsExhausted count)) ∧
        PortAllocator.after { count } offers (n + 1) = PortAllocator.after { count } offers n) ∧
    (∀ (b b' : Session ω) prepared,
      (discover s settings order).run.runFrom b = (.ok (.ok prepared), b') →
        (∃ cases sets, (found settings (basePath settings order)).ending b = .ok (.ok cases) ∧
          Apart cases prepared sets) ∧
        (∀ c ∈ prepared, ∀ benches : List (Bench ω), benches.foldl TestCase.validated c = c) ∧
        ∀ (i i' : Bench ω) accepted invalid,
          (acceptAll prepared).runFrom i = (.ok (accepted, invalid), i') → accepted = prepared) ∧
    (∀ (c : TestCase τ) (b : Bench ω), c.portConfig = none →
      ((∃ f, (c.accept.runFrom b).1 = .error f) ∧ c.validated b = c) ∨
        ((c.accept.runFrom b).1 = .ok (c.validated b) ∧
          c.validated b = { c with portConfig := some {} })) ∧
    ∀ (c : TestCase τ) (b b' : Bench ω), b'.files = b.files →
      ((c.validated b).accept.runFrom b').1 = (c.accept.runFrom b).1 ∧
        (c.validated b).validated b' = c.validated b := by
  refine ⟨fun n => (PortAllocator.account_after count hoffers n).given_nodup,
    fun n hn => (PortAllocator.account_after count hoffers n).succeeds_iff hoffers
      (PortAllocator.called_allocate _ _) hn,
    fun n hn => ?_, fun b b' prepared hprepared => ?_, fun c b hnone => ?_,
    fun c b b' hfiles => c.accept_again hfiles⟩
  · obtain ⟨hanswer, hsame, hleft⟩ := (PortAllocator.account_after count hoffers n).refused
      (PortAllocator.called_allocate _ _) hn
    exact ⟨hanswer, Prod.ext hsame hleft⟩
  · obtain ⟨cases, sets, hfound, hapart⟩ := apart_of_discover horder hprepared
    refine ⟨⟨cases, sets, hfound, hapart⟩, fun c hc benches => ?_,
      fun i i' accepted invalid haccepted => acceptAll_of_apart hapart haccepted⟩
    obtain ⟨ports, hports⟩ := hapart.exists_ports hc
    exact TestCase.foldl_validated hports benches
  · rcases c.accept_cases b with ⟨hok, hvalidated⟩ | ⟨f, hrefused, hvalidated⟩
    · refine .inr ⟨hok.trans (congrArg _ hvalidated.symm), hvalidated.trans ?_⟩
      unfold TestCase.withPorts TestCase.ports
      rw [hnone]
      rfl
    · exact .inl ⟨⟨f, hrefused⟩, hvalidated⟩

/-! ### Two test cases, and every port offered twice -/

def offering : Surroundings (List Nat) where
  environment := []
  clock := ⟨pure 0.0, fun _ => pure ()⟩
  network := ⟨fun _ => throw .unfinished⟩
  runScript _ := throw .unfinished
  offers b := b.world
  takePorts n := modify fun b => { b with world := b.world.drop n }
  rounds := 0

def offeredTwice : List Nat := (List.range 12).flatMap fun i => [40000 + i, 40000 + i]

def pairSession : Session (List Nat) where
  world := { outside := offeredTwice }
  files :=
    { tree := .directory
        [("oats.yaml", .file (.bytes "matrix:\n- name: go\n- name: java\n".toUTF8))] }

def pairOrder : Order :=
  { command := .validate, path := some ⟨"/", ["oats.yaml"]⟩, randomPorts := true }

def foundPair (found : Except Failure (Except ExitStatus (List (TestCase Float)))) : Bool :=
  (found.toOption.bind Except.toOption).any fun prepared => prepared.length == 2

theorem pair_apart :
    (∃ ports, PortAllocator.answerAt { count := 2 } offeredTwice 1 = .ok ports) ∧
      PortAllocator.answerAt { count := 2 } offeredTwice 2 =
        .error (.fault (.portsExhausted 2)) ∧
      ∃ prepared b', (discover offering {} pairOrder).run.runFrom pairSession =
          (.ok (.ok prepared), b') ∧ prepared.length = 2 ∧
        ∃ cases sets, Apart cases prepared sets := by
  have husable : PortAllocator.Usable offeredTwice := by
    unfold PortAllocator.Usable
    decide
  obtain ⟨-, hsucceeds, hrefused, hprepared, -⟩ :=
    @random_ports_apart (List Nat) Float 2 offeredTwice husable offering {} pairOrder rfl
  refine ⟨(hsucceeds 1 (by decide)).mpr (by decide), (hrefused 2 le_rfl).1, ?_⟩
  have hpair : foundPair ((discover offering {} pairOrder).run.runFrom pairSession).1 = true := by
    decide +kernel
  generalize hrun : (discover offering {} pairOrder).run.runFrom pairSession = found at hpair ⊢
  rcases found with ⟨f | status | prepared, b'⟩
  · cases hpair
  · cases hpair
  · obtain ⟨⟨cases, sets, -, hapart⟩, -⟩ := hprepared _ _ _ hrun
    exact ⟨prepared, b', rfl, beq_iff_eq.mp hpair, cases, sets, hapart⟩

end CommandLine
end TelemetryCheck
