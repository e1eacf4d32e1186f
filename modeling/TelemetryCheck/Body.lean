import TelemetryCheck.Text.Utf8

namespace TelemetryCheck

/-- What a backend or the application answered, as bytes or as text. -/
inductive Body
  | bytes (b : List UInt8)
  | text (s : String)
  deriving Repr, DecidableEq

namespace Body

def isEmpty : Body → Bool
  | .bytes b => b.isEmpty
  | .text s => s.isEmpty

/-- Bytes that are no UTF-8 show as replacement characters. -/
def toText : Body → String
  | .bytes b => Text.decodeLossy b
  | .text s => s

end Body

/-- The first characters of a text; a negative limit counts from the end. -/
def takeChars (limit : Int) (cs : List Char) : List Char :=
  if 0 ≤ limit then cs.take limit.toNat else cs.take (cs.length - (-limit).toNat)

/-- The text of an answer, cut after `limit` characters and then marked as cut. -/
def truncated (limit : Int) : Option Body → String
  | none => ""
  | some body =>
    let text := body.toText
    if limit < text.length then String.ofList (takeChars limit text.toList) ++ ".." else text

/-- How much of an answer diagnostics show. -/
def maxSnippet : Int := 2000

end TelemetryCheck
