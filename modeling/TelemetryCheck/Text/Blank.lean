namespace TelemetryCheck
namespace Text

/-- White space of any script: the blanks, tabs, line and paragraph separators and the four
information separators. -/
def isBlank (c : Char) : Bool :=
  let n := c.toNat
  (9 ≤ n && n ≤ 13) || (28 ≤ n && n ≤ 32) || n == 0x85 || n == 0xA0 || n == 0x1680 ||
    (0x2000 ≤ n && n ≤ 0x200A) || n == 0x2028 || n == 0x2029 || n == 0x202F || n == 0x205F ||
    n == 0x3000

def trimLeft (cs : List Char) : List Char := cs.dropWhile isBlank

def trimRight (cs : List Char) : List Char := (cs.reverse.dropWhile isBlank).reverse

def trim (cs : List Char) : List Char := trimRight (trimLeft cs)

/-- The maximal runs of characters that are not blank. -/
def words (cs : List Char) : List (List Char) :=
  let (word, rest) := cs.foldr
    (fun c (word, rest) =>
      if isBlank c then ([], if word.isEmpty then rest else word :: rest)
      else (c :: word, rest))
    ([], [])
  if word.isEmpty then rest else word :: rest

theorem trimLeft_of_head {c : Char} {cs : List Char} (h : isBlank c = false) :
    trimLeft (c :: cs) = c :: cs := by
  simp [trimLeft, h]

end Text
end TelemetryCheck
