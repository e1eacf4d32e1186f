namespace TelemetryCheck
namespace Text

/-- Why bytes are no UTF-8 text, with the offending byte and its position. -/
inductive Utf8Error
  | invalidStart (byte position : Nat)
  | invalidContinuation (byte position : Nat)
  | invalidContinuationRun (first last : Nat)
  | unexpectedEnd (byte position : Nat)
  | unexpectedEndRun (first last : Nat)
  deriving Repr, DecidableEq

/-- The step that decoding makes at the front of a list of bytes. -/
inductive Utf8Step
  | char (c : Char) (size : Nat)
  | badStart
  | badContinuation (size : Nat)
  | truncated (size : Nat)

/-- The bounds of the second byte for a first byte, and the number of bytes after the first. -/
def sequenceShape? (b : Nat) : Option (Nat × Nat × Nat) :=
  if 0xC2 ≤ b ∧ b ≤ 0xDF then some (1, 0x80, 0xBF)
  else if b = 0xE0 then some (2, 0xA0, 0xBF)
  else if b = 0xED then some (2, 0x80, 0x9F)
  else if 0xE1 ≤ b ∧ b ≤ 0xEF then some (2, 0x80, 0xBF)
  else if b = 0xF0 then some (3, 0x90, 0xBF)
  else if 0xF1 ≤ b ∧ b ≤ 0xF3 then some (3, 0x80, 0xBF)
  else if b = 0xF4 then some (3, 0x80, 0x8F)
  else none

/-- Reads the bytes after the first: `wanted` of them, the next one between `lo` and `hi`. -/
def sequenceStep (value taken wanted lo hi : Nat) : List UInt8 → Utf8Step
  | [] => if wanted = 0 then .char (Char.ofNat value) taken else .truncated taken
  | b :: rest =>
    match wanted with
    | 0 => .char (Char.ofNat value) taken
    | wanted + 1 =>
      if lo ≤ b.toNat ∧ b.toNat ≤ hi then
        sequenceStep (64 * value + b.toNat % 64) (taken + 1) wanted 0x80 0xBF rest
      else .badContinuation taken

def utf8Step : List UInt8 → Utf8Step
  | [] => .badStart
  | b :: rest =>
    if b.toNat < 0x80 then .char (Char.ofNat b.toNat) 1
    else match sequenceShape? b.toNat with
      | none => .badStart
      | some (more, lo, hi) =>
        sequenceStep (b.toNat % (if more = 1 then 32 else if more = 2 then 16 else 8)) 1 more lo hi rest

/-- Decoding that puts one U+FFFD for each maximal invalid part. The number of bytes left
bounds the number of steps. -/
def decodeLossyFrom : Nat → List UInt8 → List Char
  | 0, _ => []
  | _, [] => []
  | fuel + 1, bytes =>
    match utf8Step bytes with
    | .char c size => c :: decodeLossyFrom fuel (bytes.drop size)
    | .badStart => '\ufffd' :: decodeLossyFrom fuel (bytes.drop 1)
    | .badContinuation size => '\ufffd' :: decodeLossyFrom fuel (bytes.drop size)
    | .truncated size => '\ufffd' :: decodeLossyFrom fuel (bytes.drop size)

def decodeLossy (bytes : List UInt8) : String :=
  String.ofList (decodeLossyFrom bytes.length bytes)

def decodeStrictFrom : Nat → Nat → List UInt8 → Except Utf8Error (List Char)
  | 0, _, _ => .ok []
  | _, _, [] => .ok []
  | fuel + 1, position, b :: rest =>
    match utf8Step (b :: rest) with
    | .char c size => (decodeStrictFrom fuel (position + size) ((b :: rest).drop size)).map (c :: ·)
    | .badStart => .error (.invalidStart b.toNat position)
    | .badContinuation 1 => .error (.invalidContinuation b.toNat position)
    | .badContinuation size => .error (.invalidContinuationRun position (position + size - 1))
    | .truncated 1 => .error (.unexpectedEnd b.toNat position)
    | .truncated size => .error (.unexpectedEndRun position (position + size - 1))

/-- Decoding that stops at the first invalid byte. -/
def decodeStrict (bytes : List UInt8) : Except Utf8Error (List Char) :=
  decodeStrictFrom bytes.length 0 bytes

end Text
end TelemetryCheck
