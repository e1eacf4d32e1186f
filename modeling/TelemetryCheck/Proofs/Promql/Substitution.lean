import TelemetryCheck.Promql

/-!
# Variables of dashboards

The variables of a query are replaced one after the other, each in the whole text.  That comes to
the same as one pass from the left which replaces all of them at once: a variable has one dollar
sign, at its front, and a wildcard has neither a dollar sign nor any character of a variable at its
own front.  So variables do not overlap, and none is put together from what replacing leaves behind.
-/

namespace TelemetryCheck
namespace Promql

/-- One pass over a text from the left: a name that stands there gives way to the wildcard, and a
character at which no name starts is copied. -/
inductive OnePass (names : List (List Char)) : List Char → List Char → Prop
  | done : OnePass names [] []
  | replaced {v text out : List Char} : v ∈ names → OnePass names text out →
      OnePass names (v ++ text) (wildcard.toList ++ out)
  | copied {c : Char} {text out : List Char} : (∀ v ∈ names, ¬v <+: c :: text) →
      OnePass names text out → OnePass names (c :: text) (c :: out)

def replaceInOrder (order : List String) (promql : String) : String :=
  String.ofList <| order.foldl (fun text v => replaceAll v.toList wildcard.toList text) promql.toList

/-- A dollar sign, and after it neither a second one nor what a wildcard begins with. -/
def IsVariable (v : List Char) : Prop := v.head? = some '$' ∧ '$' ∉ v.tail ∧ '.' ∉ v.tail

instance (v : List Char) : Decidable (IsVariable v) := inferInstanceAs (Decidable (_ ∧ _))

variable {names : List (List Char)} {v text mid out : List Char}

theorem IsVariable.exists_name (h : IsVariable v) :
    ∃ name, v = '$' :: name ∧ '$' ∉ name ∧ '.' ∉ name := by
  cases v with
  | nil => exact nomatch h.1
  | cons c name =>
    obtain rfl : c = '$' := Option.some.inj h.1
    exact ⟨name, rfl, h.2⟩

theorem isVariable_of_mem : ∀ v ∈ variableNames.map String.toList, IsVariable v := by decide

/-- No variable is the beginning of another one. -/
theorem eq_of_isPrefix : ∀ v ∈ variableNames.map String.toList,
    ∀ w ∈ variableNames.map String.toList, v <+: w → v = w := by decide

theorem dollar_not_mem_wildcard : '$' ∉ wildcard.toList := by decide

/-! ## One pass -/

namespace OnePass

theorem congr {names' : List (List Char)} (h : OnePass names text out)
    (hsame : ∀ v, v ∈ names ↔ v ∈ names') : OnePass names' text out := by
  induction h with
  | done => exact .done
  | replaced hv _ ih => exact .replaced ((hsame _).mp hv) ih
  | copied hnone _ ih => exact .copied (fun v hv => hnone v ((hsame v).mpr hv)) ih

theorem without_names (text : List Char) : OnePass [] text text := by
  induction text with
  | nil => exact .done
  | cons c rest ih => exact .copied (fun v hv => absurd hv List.not_mem_nil) ih

theorem nil_cases (hnames : ∀ v ∈ names, IsVariable v) (h : OnePass names [] out) : out = [] := by
  generalize htext : ([] : List Char) = text at h
  cases h with
  | done => rfl
  | replaced hv _ =>
    obtain ⟨name, rfl, -⟩ := (hnames _ hv).exists_name
    cases htext
  | copied => cases htext

/-- At a dollar sign with the rest of a variable behind it the variable is replaced, and any other
character is copied. -/
theorem cons_cases {c : Char} (hnames : ∀ v ∈ names, IsVariable v)
    (h : OnePass names (c :: text) out) :
    (∃ name rest out', '$' :: name ∈ names ∧ c = '$' ∧ text = name ++ rest ∧
        out = wildcard.toList ++ out' ∧ OnePass names rest out') ∨
      (∀ v ∈ names, ¬v <+: c :: text) ∧ ∃ out', out = c :: out' ∧ OnePass names text out' := by
  generalize htext : c :: text = whole at h
  cases h with
  | done => cases htext
  | replaced hv hrest =>
    obtain ⟨name, rfl, -⟩ := (hnames _ hv).exists_name
    obtain ⟨hc, hname⟩ := List.cons.inj htext
    exact .inl ⟨name, _, _, hv, hc, hname, rfl, hrest⟩
  | copied hnone hrest =>
    obtain ⟨rfl, rfl⟩ := List.cons.inj htext
    exact .inr ⟨hnone, _, rfl, hrest⟩

/-- What has no dollar sign is copied. -/
theorem append_left {front : List Char} (hnames : ∀ v ∈ names, IsVariable v)
    (hfront : '$' ∉ front) (h : OnePass names text out) :
    OnePass names (front ++ text) (front ++ out) := by
  induction front with
  | nil => exact h
  | cons c rest ih =>
    rw [List.mem_cons, not_or] at hfront
    refine .copied (fun v hv hstarts => ?_) (ih hfront.2)
    obtain ⟨name, rfl, -⟩ := (hnames v hv).exists_name
    exact hfront.1 (List.cons_prefix_cons.mp hstarts).1

theorem of_append_left {front : List Char} (hnames : ∀ v ∈ names, IsVariable v)
    (hfront : '$' ∉ front) (h : OnePass names (front ++ text) out) :
    ∃ rest, out = front ++ rest ∧ OnePass names text rest := by
  induction front generalizing out with
  | nil => exact ⟨out, rfl, h⟩
  | cons c front ih =>
    rw [List.mem_cons, not_or] at hfront
    rcases h.cons_cases hnames with ⟨-, -, -, -, rfl, -⟩ | ⟨-, out', rfl, hout'⟩
    · exact absurd rfl hfront.1
    · obtain ⟨rest, rfl, hpass⟩ := ih hfront.2 hout'
      exact ⟨rest, rfl, hpass⟩

/-- A wildcard does not begin like anything inside a variable, so what is left of one was there
before. -/
theorem of_append_right {name : List Char} (hname : '.' ∉ name)
    (h : OnePass names text (name ++ out)) :
    ∃ rest, text = name ++ rest ∧ OnePass names rest out := by
  induction name generalizing text with
  | nil => exact ⟨text, rfl, h⟩
  | cons c name ih =>
    rw [List.mem_cons, not_or] at hname
    generalize hout : c :: name ++ out = whole at h
    cases h with
    | done => cases hout
    | replaced => exact absurd (List.cons.inj hout).1.symm hname.1
    | copied _ hrest =>
      obtain ⟨rfl, rfl⟩ := List.cons.inj hout
      obtain ⟨rest, rfl, hpass⟩ := ih hname.2 hrest
      exact ⟨rest, rfl, hpass⟩

/-- A variable that stands in the result at a copied character stood in the text. -/
theorem prefix_of_prefix {c : Char} (hv : IsVariable v) (h : OnePass names text out)
    (hstarts : v <+: c :: out) : v <+: c :: text := by
  obtain ⟨name, rfl, -, hdot⟩ := hv.exists_name
  obtain ⟨rfl, rest, rfl⟩ := List.cons_prefix_cons.mp hstarts
  obtain ⟨rest', rfl, -⟩ := h.of_append_right hdot
  exact List.cons_prefix_cons.mpr ⟨rfl, List.prefix_append _ _⟩

/-- A pass for some variables and then one for a further one are one pass for all of them. -/
theorem trans (hnames : ∀ w ∈ names, IsVariable w) (hv : IsVariable v)
    (h : OnePass names text mid) (hlast : OnePass [v] mid out) :
    OnePass (v :: names) text out := by
  have hone : ∀ w ∈ [v], IsVariable w := fun w hw => List.mem_singleton.mp hw ▸ hv
  have hall : ∀ w ∈ v :: names, IsVariable w := List.forall_mem_cons.mpr ⟨hv, hnames⟩
  obtain ⟨name, rfl, hdollar, hdot⟩ := hv.exists_name
  induction h generalizing out with
  | done =>
    rw [hlast.nil_cases hone]
    exact .done
  | replaced hw _ ih =>
    obtain ⟨rest, rfl, hrest⟩ := hlast.of_append_left hone dollar_not_mem_wildcard
    exact .replaced (List.mem_cons_of_mem _ hw) (ih hrest)
  | @copied c text mid hnone hmid ih =>
    rcases hlast.cons_cases hone with
      ⟨other, rest, out', hother, rfl, rfl, rfl, hrest⟩ | ⟨hfree, out', rfl, hrest⟩
    · obtain rfl : other = name := List.cons.inj (List.mem_singleton.mp hother) |>.2
      -- the name was copied behind its dollar sign, so it stands in the text as well
      obtain ⟨text', rfl, -⟩ := hmid.of_append_right hdot
      obtain ⟨out'', hout, hpass⟩ :=
        (ih (hrest.append_left hone hdollar)).of_append_left hall hdollar
      rw [← List.append_cancel_left hout] at hpass
      exact hpass.replaced List.mem_cons_self
    · refine .copied (List.forall_mem_cons.mpr ⟨fun hstarts => ?_, hnone⟩) (ih hrest)
      obtain ⟨rfl, text', rfl⟩ := List.cons_prefix_cons.mp hstarts
      obtain ⟨mid', rfl, -⟩ := hmid.of_append_left hnames hdollar
      exact hfree _ List.mem_cons_self (List.cons_prefix_cons.mpr ⟨rfl, List.prefix_append _ _⟩)

/-- A text comes to one result only. -/
theorem unique {out' : List Char} (hnames : ∀ v ∈ names, IsVariable v)
    (hstarts : ∀ v ∈ names, ∀ w ∈ names, v <+: w → v = w) (h : OnePass names text out)
    (h' : OnePass names text out') : out = out' := by
  induction h generalizing out' with
  | done => exact (h'.nil_cases hnames).symm
  | @replaced v text out hv _ ih =>
    obtain ⟨name, rfl, -⟩ := (hnames v hv).exists_name
    rcases h'.cons_cases hnames with ⟨other, rest, out', hother, -, htext, rfl, hrest⟩ | ⟨hnone, -⟩
    · -- of two variables that stand at one place each is the beginning of the other
      have hname : name <+: other ++ rest := htext ▸ List.prefix_append name text
      obtain rfl : name = other := by
        rcases List.prefix_or_prefix_of_prefix hname (List.prefix_append other rest) with hle | hge
        · exact (List.cons.inj (hstarts _ hv _ hother (List.cons_prefix_cons.mpr ⟨rfl, hle⟩))).2
        · exact (List.cons.inj (hstarts _ hother _ hv (List.cons_prefix_cons.mpr ⟨rfl, hge⟩))).2.symm
      obtain rfl : text = rest := List.append_cancel_left htext
      rw [ih hrest]
    · exact absurd (List.prefix_append _ text) (hnone _ hv)
  | copied hnone _ ih =>
    rcases h'.cons_cases hnames with ⟨name, rest, -, hname, rfl, rfl, -⟩ | ⟨-, out', rfl, hrest⟩
    · exact absurd (List.prefix_append _ rest) (hnone _ hname)
    · rw [ih hrest]

theorem infix_of_infix_append {front : List Char} (hv : IsVariable v) (hfront : '$' ∉ front)
    (h : v <:+: front ++ out) : v <:+: out := by
  induction front with
  | nil => exact h
  | cons c rest ih =>
    rw [List.mem_cons, not_or] at hfront
    rcases List.infix_cons_iff.mp h with hstarts | hinside
    · obtain ⟨name, rfl, -⟩ := hv.exists_name
      exact absurd (List.cons_prefix_cons.mp hstarts).1 hfront.1
    · exact ih hfront.2 hinside

/-- Nothing that was replaced is left, and nothing of the kind came into being. -/
theorem not_isInfix (hnames : ∀ v ∈ names, IsVariable v) (h : OnePass names text out)
    (hv : v ∈ names) : ¬v <:+: out := by
  have hvariable : IsVariable v := hnames v hv
  induction h with
  | done =>
    intro hinside
    obtain ⟨name, rfl, -⟩ := hvariable.exists_name
    cases List.infix_nil.mp hinside
  | replaced _ _ ih =>
    exact fun hinside => ih (infix_of_infix_append hvariable dollar_not_mem_wildcard hinside)
  | copied hnone hrest ih =>
    intro hinside
    rcases List.infix_cons_iff.mp hinside with hstarts | hinside
    · exact hnone v hv (hrest.prefix_of_prefix hvariable hstarts)
    · exact ih hinside

/-- A text without any of the names is left as it is. -/
theorem of_not_isInfix (h : ∀ v ∈ names, ¬v <:+: text) : OnePass names text text := by
  induction text with
  | nil => exact .done
  | cons c rest ih =>
    refine .copied (fun v hv hstarts => h v hv hstarts.isInfix) (ih fun v hv hinside => ?_)
    exact h v hv (List.infix_cons_iff.mpr (.inr hinside))

end OnePass

/-! ## One variable after the other -/

theorem onePass_replaceAll (hv : IsVariable v) (text : List Char) :
    OnePass [v] text (replaceAll v wildcard.toList text) := by
  obtain ⟨name, hname, -⟩ := hv.exists_name
  fun_induction replaceAll v wildcard.toList text with
  | case1 => exact .done
  | case2 c rest hstarts ih =>
    obtain ⟨more, hmore⟩ := List.isPrefixOf_iff_prefix.mp hstarts
    have hdrop : rest.drop (v.length - 1) = more := by
      rw [hname, List.cons_append] at hmore
      cases hmore
      rw [hname]
      exact List.drop_left
    rw [hdrop] at ih ⊢
    rw [← hmore]
    exact .replaced List.mem_cons_self ih
  | case3 c rest hstarts ih =>
    refine .copied (fun w hw hw' => hstarts ?_) ih
    rw [List.mem_singleton.mp hw] at hw'
    exact List.isPrefixOf_iff_prefix.mpr hw'

theorem onePass_foldl {order : List (List Char)} (horder : ∀ v ∈ order, IsVariable v)
    (hnames : ∀ v ∈ names, IsVariable v) (h : OnePass names text mid) :
    OnePass (order.reverse ++ names) text
      (order.foldl (fun text v => replaceAll v wildcard.toList text) mid) := by
  induction order generalizing names mid with
  | nil => exact h
  | cons v rest ih =>
    obtain ⟨hv, hrest⟩ := List.forall_mem_cons.mp horder
    have hnext := h.trans hnames hv (onePass_replaceAll hv mid)
    rw [List.reverse_cons, List.append_assoc]
    exact ih hrest (List.forall_mem_cons.mpr ⟨hv, hnames⟩) hnext

/-- In whatever order the variables are replaced, it is one pass. -/
theorem onePass_replaceInOrder {order : List String} (h : order.Perm variableNames)
    (promql : String) :
    OnePass (variableNames.map String.toList) promql.toList
      (replaceInOrder order promql).toList := by
  have hsame : ∀ v, v ∈ order.map String.toList ↔ v ∈ variableNames.map String.toList :=
    fun v => (h.map String.toList).mem_iff
  have hpass := onePass_foldl (fun v hv => isVariable_of_mem v ((hsame v).mp hv))
    (fun v hv => absurd hv List.not_mem_nil) (OnePass.without_names promql.toList)
  rw [List.append_nil, List.foldl_map] at hpass
  rw [replaceInOrder, String.toList_ofList]
  exact hpass.congr fun v => List.mem_reverse.trans (hsame v)

/-- Replacing the variables is one pass from the left that replaces all of them at once.  It leaves
none of them, so doing it again changes nothing, and their order makes no difference. -/
theorem replaceVariables_simultaneous {order : List String} (h : order.Perm variableNames)
    (promql : String) :
    OnePass (variableNames.map String.toList) promql.toList (replaceVariables promql).toList ∧
      (∀ out, OnePass (variableNames.map String.toList) promql.toList out →
        out = (replaceVariables promql).toList) ∧
      (∀ v ∈ variableNames, ¬v.toList <:+: (replaceVariables promql).toList) ∧
      replaceVariables (replaceVariables promql) = replaceVariables promql ∧
      replaceInOrder order promql = replaceVariables promql := by
  have hpass : ∀ text, OnePass (variableNames.map String.toList) text.toList
      (replaceVariables text).toList := onePass_replaceInOrder (.refl _)
  have hunique : ∀ (text : String) (out : List Char),
      OnePass (variableNames.map String.toList) text.toList out →
        out = (replaceVariables text).toList := fun text out hout =>
    hout.unique isVariable_of_mem eq_of_isPrefix (hpass text)
  have hfree : ∀ v ∈ variableNames, ¬v.toList <:+: (replaceVariables promql).toList :=
    fun v hv => (hpass promql).not_isInfix isVariable_of_mem (List.mem_map_of_mem hv)
  refine ⟨hpass promql, hunique promql, hfree, ?_, ?_⟩
  · have hsame : OnePass (variableNames.map String.toList) (replaceVariables promql).toList
        (replaceVariables promql).toList :=
      .of_not_isInfix (List.forall_mem_map.mpr hfree)
    exact String.toList_inj.mp (hunique _ _ hsame).symm
  · exact String.toList_inj.mp (hunique promql _ (onePass_replaceInOrder h promql))

/-- A dollar sign before a variable and letters after it are kept. -/
theorem podcast_replaced :
    variableNames.reverse.Perm variableNames ∧
      (replaceVariables "hits\x7bpod=\"$$podcast\",job=~\"$job\"\x7d").toList =
        "hits\x7bpod=\"$.*cast\",job=~\".*\"\x7d".toList ∧
      replaceInOrder variableNames.reverse "hits\x7bpod=\"$$podcast\",job=~\"$job\"\x7d" =
        replaceVariables "hits\x7bpod=\"$$podcast\",job=~\"$job\"\x7d" := by
  have horder : variableNames.reverse.Perm variableNames := List.reverse_perm _
  obtain ⟨-, -, -, -, hsame⟩ :=
    replaceVariables_simultaneous horder "hits\x7bpod=\"$$podcast\",job=~\"$job\"\x7d"
  exact ⟨horder, by decide +kernel, hsame⟩

end Promql
end TelemetryCheck
