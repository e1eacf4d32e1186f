import TelemetryCheck.Decimal.Numeral

/-!
# Digits

Decimal digits come in series of ten, one for each script.  What is checked of the series holds of
every digit: none is a blank or a letter.  A run of digits is read to its end.
-/

namespace TelemetryCheck
namespace Text

/-- What holds of all digits of all series holds of every digit. -/
theorem forall_digit {P : Char → Prop}
    (h : ∀ start ∈ digitZeros, ∀ k < 10, P (Char.ofNat (start + k))) {c : Char}
    (hc : isDigit c = true) : P c := by
  obtain ⟨d, hd⟩ := Option.isSome_iff_exists.mp hc
  obtain ⟨start, hfind, -⟩ := Option.map_eq_some_iff.mp hd
  have hnear := List.find?_some hfind
  simp only [Bool.and_eq_true, decide_eq_true_eq] at hnear
  have hP := h start (List.mem_of_find?_eq_some hfind) (c.toNat - start) (by omega)
  rwa [Nat.add_sub_of_le hnear.1, Char.ofNat_toNat] at hP

/-- No digit of any script is a blank. -/
theorem isBlank_of_isDigit {c : Char} (h : isDigit c = true) : isBlank c = false :=
  forall_digit (P := fun c => isBlank c = false) (by decide +kernel) h

/-- No digit of any script is a letter that has a small form in ASCII. -/
theorem not_capital_of_isDigit {c : Char} (h : isDigit c = true) : ¬('A' ≤ c ∧ c ≤ 'Z') :=
  forall_digit (P := fun c => ¬('A' ≤ c ∧ c ≤ 'Z')) (by decide +kernel) h

/-- The digits of ASCII are the first series. -/
theorem digit?_of_ascii {c : Char} (h : c.isDigit = true) : digit? c = some (c.toNat - 48) := by
  have hnear : 48 ≤ c.toNat ∧ c.toNat < 48 + 10 := by
    simp only [Char.isDigit, Bool.and_eq_true, decide_eq_true_eq, UInt32.le_iff_toNat_le] at h
    exact ⟨h.1, Nat.lt_succ_of_le h.2⟩
  rw [digit?, digitZeros, List.find?_cons_of_pos (by simpa using hnear)]
  rfl

theorem digitsValue_toDigits (n : Nat) : digitsValue (Nat.toDigits 10 n) = n := by
  have hvalue : ∀ cs : List Char, (∀ c ∈ cs, c.isDigit = true) → ∀ start,
      cs.foldl (fun n c => 10 * n + (digit? c).getD 0) start = Nat.ofDigitChars 10 cs start := by
    intro cs hcs
    induction cs with
    | nil => exact fun start => rfl
    | cons c rest ih =>
      intro start
      rw [List.foldl_cons, digit?_of_ascii (hcs c List.mem_cons_self),
        ih fun d hd => hcs d (List.mem_cons_of_mem c hd)]
      rfl
  rw [digitsValue, hvalue _ (fun c => Nat.isDigit_of_mem_toDigits (by decide) (by decide)),
    Nat.ofDigitChars_ten_toDigits]

theorem dropBlanks_of_no_blank {cs : List Char} (h : ∀ c ∈ cs, isBlank c = false) :
    cs.dropWhile isBlank = cs := by
  cases cs with
  | nil => rfl
  | cons c rest => exact trimLeft_of_head (h c List.mem_cons_self)

theorem trim_of_no_blank {cs : List Char} (h : ∀ c ∈ cs, isBlank c = false) : trim cs = cs := by
  have hreverse : ∀ c ∈ cs.reverse, isBlank c = false := fun c hc => h c (List.mem_reverse.mp hc)
  rw [trim, trimLeft, trimRight, dropBlanks_of_no_blank h, dropBlanks_of_no_blank hreverse,
    List.reverse_reverse]

end Text

namespace Decimal

theorem takeDigits_cons {c : Char} {cs : List Char} (hc : Text.isDigit c = true)
    (hcs : cs.head? ≠ some '_') :
    takeDigits (c :: cs) = (c :: (takeDigits cs).1, (takeDigits cs).2) := by
  have hunderscore : c ≠ '_' := by
    rintro rfl
    exact absurd hc (by decide)
  cases cs with
  | nil => simp [takeDigits, hc]
  | cons d rest =>
    have hd : d ≠ '_' := fun h => hcs (congrArg some h)
    rw [takeDigits.eq_def]
    simp [hd, hc]

theorem takeDigits_stop {c : Char} (hc : Text.isDigit c = false) (cs : List Char) :
    takeDigits (c :: cs) = ([], c :: cs) := by
  generalize htext : c :: cs = text
  fun_cases takeDigits text <;> simp_all

/-- Digits are read up to the end of the text or up to a point. -/
theorem takeDigits_append {cs rest : List Char} (h : ∀ c ∈ cs, Text.isDigit c = true)
    (hrest : rest = [] ∨ ∃ more, rest = '.' :: more) : takeDigits (cs ++ rest) = (cs, rest) := by
  induction cs with
  | nil =>
    rcases hrest with rfl | ⟨more, rfl⟩
    · rfl
    · exact takeDigits_stop (by decide) more
  | cons c cs ih =>
    have hnext : (cs ++ rest).head? ≠ some '_' := by
      cases cs with
      | nil => rcases hrest with rfl | ⟨more, rfl⟩ <;> simp
      | cons d cs =>
        have hd : Text.isDigit d = true := h d (by simp)
        rintro hd'
        cases hd'
        exact absurd hd (by decide)
    rw [List.cons_append, takeDigits_cons (h c List.mem_cons_self) hnext,
      ih fun d hd => h d (List.mem_cons_of_mem c hd)]

theorem takeDigits_of_digits {cs : List Char} (h : ∀ c ∈ cs, Text.isDigit c = true) :
    takeDigits cs = (cs, []) := by
  have happend := takeDigits_append h (.inl rfl)
  rwa [List.append_nil] at happend

/-! ## Numbers -/

theorem mem_takeSign {c : Char} {cs : List Char} (h : c ∈ cs) :
    c = '-' ∨ c = '+' ∨ c ∈ (takeSign cs).2 := by
  unfold takeSign
  split <;> grind

/-- A sign and digits are read as an integer unless there are too many digits. -/
theorem readInteger_of_digits {cs : List Char} (hne : (takeSign cs).2 ≠ [])
    (hdigits : ∀ c ∈ (takeSign cs).2, Text.isDigit c = true) :
    readInteger cs =
      if maxIntegerDigits < (takeSign cs).2.length then .error (.tooLong (takeSign cs).2.length)
      else
        let value : Int := Text.digitsValue (takeSign cs).2
        .ok (if (takeSign cs).1 then -value else value) := by
  -- the reader trims first, but neither a sign nor a digit is a blank
  have hblank : ∀ c ∈ cs, Text.isBlank c = false := by
    intro c hc
    rcases mem_takeSign hc with rfl | rfl | hmem
    · decide
    · decide
    · exact Text.isBlank_of_isDigit (hdigits c hmem)
  have hsome : (takeSign cs).2.isEmpty = false := List.isEmpty_eq_false_iff.mpr hne
  simp only [readInteger, Text.trim_of_no_blank hblank, takeDigits_of_digits hdigits, hsome]
  rfl

theorem takeSign_of_digit {c : Char} (hc : Text.isDigit c = true) (cs : List Char) :
    takeSign (c :: cs) = (false, c :: cs) := by
  generalize htext : c :: cs = text
  unfold takeSign
  split
  · cases htext
    exact absurd hc (by decide)
  · cases htext
    exact absurd hc (by decide)
  · rfl

theorem isDigit_of_mem_toDigits {n : Nat} {c : Char} (h : c ∈ Nat.toDigits 10 n) :
    Text.isDigit c = true := by
  rw [Text.isDigit, Text.digit?_of_ascii (Nat.isDigit_of_mem_toDigits (by decide) (by decide) h)]
  rfl

/-- An integer is written with its sign and the digits of its size. -/
theorem takeSign_intText (i : Int) :
    takeSign (intText i).toList = (decide (i < 0), Nat.toDigits 10 i.natAbs) := by
  have hdigits : (natText i.natAbs).toList = Nat.toDigits 10 i.natAbs := String.toList_ofList
  rw [intText, String.toList_append, hdigits]
  by_cases hneg : i < 0
  · simp [signText, hneg, takeSign]
  · obtain ⟨c, rest, hcons⟩ := List.exists_cons_of_ne_nil (Nat.toDigits_ne_nil (n := i.natAbs))
    have hc : Text.isDigit c = true :=
      isDigit_of_mem_toDigits (hcons ▸ List.mem_cons_self)
    rw [hcons]
    simpa [signText, hneg] using takeSign_of_digit hc rest

/-- What starts with a digit is no word. -/
theorem lowerAscii_ne_word {c : Char} (hc : Text.isDigit c = true) (cs : List Char) {word : String}
    (hword : word.toList.head?.any (fun d => !Text.isDigit d) = true) :
    String.ofList (lowerAscii (c :: cs)) ≠ word := by
  rintro rfl
  rw [String.toList_ofList, lowerAscii, List.map_cons, if_neg (Text.not_capital_of_isDigit hc)]
    at hword
  simp [hc] at hword

/-- Digits are read as the number that they write, with a point before the last ones or without. -/
theorem readFloat?_of_digits {whole fraction : List Char} (hne : whole ≠ [])
    (hwhole : ∀ c ∈ whole, Text.isDigit c = true)
    (hfraction : ∀ c ∈ fraction, Text.isDigit c = true) :
    readFloat? (whole ++ if fraction = [] then [] else '.' :: fraction) =
      some (ofScientific false (Text.digitsValue (whole ++ fraction)) (-fraction.length)) := by
  obtain ⟨c, digits, rfl⟩ := List.exists_cons_of_ne_nil hne
  have hc : Text.isDigit c = true := hwhole c List.mem_cons_self
  generalize hrest : (if fraction = [] then [] else '.' :: fraction) = rest
  have hblank : ∀ d ∈ c :: digits ++ rest, Text.isBlank d = false := by
    intro d hd
    rcases List.mem_append.mp hd with hd | hd
    · exact Text.isBlank_of_isDigit (hwhole d hd)
    · subst hrest
      split at hd
      · cases hd
      · rcases List.mem_cons.mp hd with rfl | hd
        · decide
        · exact Text.isBlank_of_isDigit (hfraction d hd)
  have htake : takeDigits (c :: digits ++ rest) = (c :: digits, rest) := by
    refine takeDigits_append hwhole ?_
    subst hrest
    split
    · exact .inl rfl
    · exact .inr ⟨fraction, rfl⟩
  have hsign : takeSign (c :: digits ++ rest) = (false, c :: digits ++ rest) :=
    takeSign_of_digit hc (digits ++ rest)
  have hword : ∀ word : String, word.toList.head?.any (fun d => !Text.isDigit d) = true →
      String.ofList (lowerAscii (c :: digits ++ rest)) ≠ word := fun word =>
    lowerAscii_ne_word hc (digits ++ rest)
  simp only [readFloat?, Text.trim_of_no_blank hblank, hsign, htake]
  rw [if_neg (not_or.mpr ⟨hword "inf" (by decide), hword "infinity" (by decide)⟩),
    if_neg (hword "nan" (by decide))]
  cases fraction with
  | nil =>
    obtain rfl : [] = rest := hrest
    simp
  | cons d more =>
    obtain rfl : '.' :: d :: more = rest := hrest
    simp [takeDigits_of_digits hfraction]

end Decimal
end TelemetryCheck
