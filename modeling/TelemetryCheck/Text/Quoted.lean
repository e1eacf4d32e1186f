import TelemetryCheck.Text.Printable

namespace TelemetryCheck
namespace Text

def hexDigits (width n : Nat) : List Char :=
  let digits := Nat.toDigits 16 n
  List.replicate (width - digits.length) '0' ++ digits

/-- One character inside a quoted text: a backslash, the quote in use and everything that does
not show as itself is escaped. -/
def quotedChar (quote c : Char) : List Char :=
  if c = quote ∨ c = '\\' then ['\\', c]
  else if c = '\n' then ['\\', 'n']
  else if c = '\r' then ['\\', 'r']
  else if c = '\t' then ['\\', 't']
  else if isPrintable c then [c]
  else
    let n := c.toNat
    if n < 0x100 then ['\\', 'x'] ++ hexDigits 2 n
    else if n < 0x10000 then ['\\', 'u'] ++ hexDigits 4 n
    else ['\\', 'U'] ++ hexDigits 8 n

/-- Double quotes are used only for a text that holds a single quote and no double one. -/
def quoteFor (cs : List Char) : Char :=
  if cs.contains '\'' && !cs.contains '"' then '"' else '\''

def quotedChars (cs : List Char) : List Char :=
  let quote := quoteFor cs
  quote :: cs.flatMap (quotedChar quote) ++ [quote]

/-- A text as messages show it: in quotes, on one line, with nothing invisible. -/
def quoted (s : String) : String := String.ofList (quotedChars s.toList)

end Text
end TelemetryCheck
