import Mathlib.Tactic.IntervalCases
import TelemetryCheck.Json.Printer
import TelemetryCheck.Json.Reader

/-!
# Strings in JSON

A string is written character by character: what is printable in ASCII as itself, a few others by a
letter behind a backslash, and everything else by four hexadecimal digits, twice where the code point
does not fit.  Reading takes every one of these back to its character, so a string that was written
is read as itself.
-/

namespace TelemetryCheck

/-! ## Hexadecimal digits -/

namespace Text

theorem hexDigit?_digitChar {d : Nat} (h : d < 16) : hexDigit? d.digitChar = some d := by
  interval_cases d <;> decide

/-- The last digit stands for what is left over by sixteen. -/
theorem hexDigits_succ {width : Nat} (hwidth : 0 < width) (n : Nat) :
    hexDigits (width + 1) n = hexDigits width (n / 16) ++ [(n % 16).digitChar] := by
  by_cases hn : n < 16
  · obtain ⟨width, rfl⟩ := Nat.exists_eq_succ_of_ne_zero hwidth.ne'
    rw [Nat.div_eq_of_lt hn, Nat.mod_eq_of_lt hn]
    simp [hexDigits, Nat.toDigits_of_lt_base hn, List.replicate_succ']
  · have hlast := Nat.toDigits_of_base_le (b := 16) (by decide) (Nat.le_of_not_lt hn)
    simp [hexDigits, hlast]

theorem hexDigits_four {n : Nat} (h : n < 0x10000) :
    hexDigits 4 n = [(n / 16 / 16 / 16).digitChar, (n / 16 / 16 % 16).digitChar,
      (n / 16 % 16).digitChar, (n % 16).digitChar] := by
  have hfirst : n / 16 / 16 / 16 < 16 := by omega
  rw [hexDigits_succ (by decide), hexDigits_succ (by decide), hexDigits_succ (by decide)]
  simp [hexDigits, Nat.toDigits_of_lt_base hfirst]

end Text

namespace Json

variable {rest : List Char}

theorem fourHex?_hexDigits {n : Nat} (h : n < 0x10000) :
    fourHex? (Text.hexDigits 4 n ++ rest) = some (n, rest) := by
  have hvalue : ((n / 16 / 16 / 16 * 16 + n / 16 / 16 % 16) * 16 + n / 16 % 16) * 16 + n % 16 = n := by
    omega
  rw [Text.hexDigits_four h]
  simp [fourHex?, Text.hexDigit?_digitChar, Nat.mod_lt, show n / 16 / 16 / 16 < 16 by omega, hvalue]

/-! ## Escapes -/

theorem unicodeEscape_append (n : Nat) (rest : List Char) :
    unicodeEscape n ++ rest = '\\' :: 'u' :: (Text.hexDigits 4 n ++ rest) := by
  rw [unicodeEscape, List.append_assoc, List.cons_append, List.singleton_append]

/-- A code point that is no half of a pair is read back from its digits. -/
theorem escape?_unicode {n : Nat} (h : n < 0xD800 ∨ 0xDFFF < n ∧ n < 0x10000) :
    escape? ('u' :: (Text.hexDigits 4 n ++ rest)) = some (Char.ofNat n, rest) := by
  have hread : fourHex? (Text.hexDigits 4 n ++ rest) = some (n, rest) :=
    fourHex?_hexDigits (by omega)
  simp only [escape?, hread, Option.bind_eq_bind, Option.bind_some]
  rw [if_neg (by omega), if_neg (by omega)]

/-- The two halves of a code point above U+FFFF are read together. -/
theorem escape?_pair {cs more : List Char} {first second : Nat}
    (hfirst : fourHex? cs = some (first, '\\' :: 'u' :: more))
    (hsecond : fourHex? more = some (second, rest)) (hhigh : 0xD800 ≤ first ∧ first < 0xDC00)
    (hlow : 0xDC00 ≤ second ∧ second < 0xE000) :
    escape? ('u' :: cs) =
      some (Char.ofNat (0x10000 + (first - 0xD800) * 0x400 + (second - 0xDC00)), rest) := by
  simp only [escape?, hfirst, hsecond, Option.bind_eq_bind, Option.bind_some]
  rw [if_pos hhigh, if_pos hlow]

/-! ## Characters and strings -/

/-- A character is written as itself, or as a backslash and an escape that is read as it. -/
theorem escapedChar_cases (c : Char) :
    (escapedChar c = [c] ∧ c ≠ '"' ∧ c ≠ '\\' ∧ 0x20 ≤ c.toNat) ∨
      ∃ escape, escapedChar c = '\\' :: escape ∧
        ∀ rest, escape? (escape ++ rest) = some (c, rest) := by
  unfold escapedChar
  split
  · rename_i h
    refine .inr ⟨[c], rfl, ?_⟩
    rcases h with rfl | rfl <;> exact fun _ => rfl
  iterate 5
    split
    · rename_i h
      subst h
      exact .inr ⟨_, rfl, fun _ => rfl⟩
  rename_i hspecial _ _ _ _ _
  dsimp only
  split
  · rename_i hshown
    rw [not_or] at hspecial
    exact .inl ⟨rfl, hspecial.1, hspecial.2, hshown.1⟩
  refine .inr ?_
  have hvalid : c.toNat < 0xD800 ∨ 0xDFFF < c.toNat ∧ c.toNat < 0x110000 := c.valid
  split
  · rename_i hsmall
    refine ⟨_, rfl, fun rest => ?_⟩
    have hread : escape? ('u' :: (Text.hexDigits 4 c.toNat ++ rest)) =
        some (Char.ofNat c.toNat, rest) := escape?_unicode (by omega)
    rwa [Char.ofNat_toNat] at hread
  · rename_i hlarge
    generalize hfirst : 0xD800 + (c.toNat - 0x10000) / 0x400 = first
    generalize hsecond : 0xDC00 + (c.toNat - 0x10000) % 0x400 = second
    have hjoined : 0x10000 + (first - 0xD800) * 0x400 + (second - 0xDC00) = c.toNat := by omega
    rw [unicodeEscape_append]
    refine ⟨_, rfl, fun rest => ?_⟩
    have hread : fourHex? (Text.hexDigits 4 first ++ (unicodeEscape second ++ rest)) =
        some (first, unicodeEscape second ++ rest) := fourHex?_hexDigits (by omega)
    have hread' : fourHex? (Text.hexDigits 4 second ++ rest) = some (second, rest) :=
      fourHex?_hexDigits (by omega)
    rw [unicodeEscape_append second] at hread
    rw [List.cons_append, List.append_assoc, unicodeEscape_append,
      escape?_pair hread hread' (by omega) (by omega), hjoined, Char.ofNat_toNat]

/-- A character is read back in one step. -/
theorem stringRest_escapedChar (done : List Char) (fuel : Nat) (c : Char) :
    stringRest done (fuel + 1) (escapedChar c ++ rest) = stringRest (c :: done) fuel rest := by
  obtain ⟨hself, hquote, hslash, hshown⟩ | ⟨escape, hescaped, hread⟩ := escapedChar_cases c
  · rw [hself, List.singleton_append, stringRest, if_neg hquote, if_neg hslash,
      if_neg (Nat.not_lt.mpr hshown)]
  · rw [hescaped, List.cons_append, stringRest, if_neg (by decide), if_pos rfl, hread]

theorem stringRest_written (done cs : List Char) {fuel : Nat} (hfuel : cs.length < fuel) :
    stringRest done fuel (cs.flatMap escapedChar ++ '"' :: rest) =
      some (String.ofList (done.reverse ++ cs), rest) := by
  induction cs generalizing done fuel with
  | nil =>
    obtain ⟨fuel, rfl⟩ := Nat.exists_eq_succ_of_ne_zero (Nat.ne_of_gt hfuel)
    simp [stringRest]
  | cons c cs ih =>
    obtain ⟨fuel, rfl⟩ := Nat.exists_eq_succ_of_ne_zero (Nat.ne_zero_of_lt hfuel)
    rw [List.flatMap_cons, List.append_assoc, stringRest_escapedChar,
      ih _ (Nat.lt_of_succ_lt_succ hfuel)]
    simp

theorem length_le_flatMap_escapedChar (cs : List Char) :
    cs.length ≤ (cs.flatMap escapedChar).length := by
  induction cs with
  | nil => exact Nat.le_refl _
  | cons c cs ih =>
    have hone : 1 ≤ (escapedChar c).length := by
      obtain ⟨hself, -⟩ | ⟨escape, hescaped, -⟩ := escapedChar_cases c
      · rw [hself, List.length_singleton]
      · rw [hescaped, List.length_cons]
        omega
    rw [List.flatMap_cons, List.length_append, List.length_cons]
    omega

/-- A string is read back behind its opening quote, whatever follows it. -/
theorem stringRest_stringText (s : String) (rest : List Char) :
    ∃ inner, (stringText s).toList ++ rest = '"' :: inner ∧
      stringRest [] (inner.length + 1) inner = some (s, rest) := by
  refine ⟨s.toList.flatMap escapedChar ++ '"' :: rest, ?_, ?_⟩
  · rw [stringText, String.toList_ofList]
    simp
  · have hshort := length_le_flatMap_escapedChar s.toList
    rw [stringRest_written [] s.toList (by rw [List.length_append]; omega), List.reverse_nil,
      List.nil_append, String.ofList_toList]

end Json
end TelemetryCheck
