import TelemetryCheck.Path

/-!
# Parts of paths

A text is read as a path by taking it apart at its slashes and leaving out the pieces that mean
nothing.  So a text without slashes is at most one part, and a text with a slash in it has the parts
of what is before the slash and of what is behind it.
-/

namespace TelemetryCheck

/-! ## Pieces between separators -/

namespace Text

variable {sep c : Char} {cs : List Char}

theorem splitAt_ne_nil (sep : Char) (cs : List Char) : splitAt sep cs ≠ [] := by
  cases cs with
  | nil => exact List.cons_ne_nil _ _
  | cons c rest =>
    rw [splitAt]
    split
    · exact List.cons_ne_nil _ _
    · split <;> exact List.cons_ne_nil _ _

theorem splitAt_append_cons (sep : Char) (front back : List Char) :
    splitAt sep (front ++ sep :: back) = splitAt sep front ++ splitAt sep back := by
  induction front with
  | nil => simp [splitAt]
  | cons c front ih =>
    rw [List.cons_append, splitAt, splitAt, ih]
    by_cases hc : c = sep
    · rw [if_pos hc, if_pos hc, List.cons_append]
    · rw [if_neg hc, if_neg hc]
      cases hfront : splitAt sep front with
      | nil => exact absurd hfront (splitAt_ne_nil sep front)
      | cons piece pieces => rfl

theorem splitAt_of_not_mem (h : sep ∉ cs) : splitAt sep cs = [cs] := by
  induction cs with
  | nil => rfl
  | cons c rest ih =>
    rw [List.mem_cons, not_or] at h
    rw [splitAt, if_neg (Ne.symm h.1), ih h.2]

/-- No character other than the separator is lost. -/
theorem exists_piece (h : c ∈ cs) (hc : c ≠ sep) : ∃ piece ∈ splitAt sep cs, c ∈ piece := by
  induction cs with
  | nil => exact absurd h List.not_mem_nil
  | cons d rest ih =>
    rw [splitAt]
    split
    · rename_i hd
      obtain ⟨piece, hpiece, hin⟩ := ih ((List.mem_cons.mp h).resolve_left fun h => hc (h.trans hd))
      exact ⟨piece, List.mem_cons_of_mem _ hpiece, hin⟩
    · split
      · rename_i hrest
        exact absurd hrest (splitAt_ne_nil sep rest)
      · rename_i piece pieces hrest
        rcases List.mem_cons.mp h with rfl | hmem
        · exact ⟨c :: piece, List.mem_cons_self, List.mem_cons_self⟩
        · obtain ⟨other, hother, hin⟩ := ih hmem
          rw [hrest] at hother
          rcases List.mem_cons.mp hother with rfl | hother
          · exact ⟨d :: other, List.mem_cons_self, List.mem_cons_of_mem _ hin⟩
          · exact ⟨other, List.mem_cons_of_mem _ hother, hin⟩

/-- Texts that begin with different characters, or of which one is empty. -/
theorem ne_of_head? {s t : String} {a : Char} (h : s.toList.head? = some a)
    (ht : t.toList.head? ≠ some a) : s ≠ t := by
  rintro rfl
  exact ht h

end Text

/-! ## Parts of paths -/

namespace Path

variable {s : String}

/-- Only a slash at the front makes a path absolute. -/
theorem root_of_head? {a : Char} (h : s.toList.head? = some a) (ha : a ≠ '/') :
    (ofText s).root = "" := by
  show rootOf s.toList = ""
  cases hs : s.toList with
  | nil => rfl
  | cons c rest =>
    rw [hs] at h
    obtain rfl : c = a := Option.some.inj h
    unfold rootOf
    split <;> simp_all

theorem parts_append {front back : String} (h : s = front ++ "/" ++ back) :
    (ofText s).parts = (ofText front).parts ++ (ofText back).parts := by
  have hlist : s.toList = front.toList ++ '/' :: back.toList := by
    rw [h, String.toList_append, String.toList_append, List.append_assoc]
    rfl
  simp only [ofText, hlist, Text.splitAt_append_cons, List.map_append, List.filter_append]

/-- A text without slashes is one part, unless it means nothing in a path. -/
theorem parts_of_no_slash (h : '/' ∉ s.toList) (hempty : s ≠ "") (hdot : s ≠ ".") :
    (ofText s).parts = [s] := by
  simp only [ofText, Text.splitAt_of_not_mem h, List.map_cons, List.map_nil, String.ofList_toList]
  exact List.filter_cons_of_pos (by simpa using ⟨hempty, hdot⟩)

/-- Only slashes and dots can come to no part at all. -/
theorem parts_ne_nil {c : Char} (h : c ∈ s.toList) (hslash : c ≠ '/') (hdot : c ≠ '.') :
    (ofText s).parts ≠ [] := by
  obtain ⟨piece, hpiece, hin⟩ := Text.exists_piece h hslash
  have hother : ∀ t : String, c ∉ t.toList → String.ofList piece ≠ t := by
    rintro t ht rfl
    rw [String.toList_ofList] at ht
    exact ht hin
  have hkept : String.ofList piece ≠ "" ∧ String.ofList piece ≠ "." :=
    ⟨hother "" List.not_mem_nil, hother "." fun h => hdot (List.mem_singleton.mp h)⟩
  refine List.ne_nil_of_mem (a := String.ofList piece) ?_
  exact List.mem_filter.mpr ⟨List.mem_map_of_mem hpiece, by simpa using hkept⟩

theorem no_slash_stem {p : Path} (h : ∀ part ∈ p.parts, '/' ∉ part.toList) :
    '/' ∉ p.stem.toList := by
  have hname : '/' ∉ p.name.toList := by
    unfold name
    cases hlast : p.parts.getLast? with
    | none => exact List.not_mem_nil
    | some last => exact h last (List.mem_of_getLast? hlast)
  unfold stem
  simp only
  split
  · rw [String.toList_ofList]
    exact fun hslash => hname (List.mem_of_mem_take hslash)
  · exact hname

end Path

end TelemetryCheck
