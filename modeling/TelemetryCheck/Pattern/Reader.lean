import TelemetryCheck.Decimal.Numeral
import TelemetryCheck.Pattern.Tree
import TelemetryCheck.Text.Alphanumeric
import TelemetryCheck.Text.Identifier
import TelemetryCheck.Text.Quoted

/-!
# Reading patterns

A pattern is read token by token, a token being a character or a backslash with the character
after it. The reader looks one token ahead, so a backslash at the very end is reported as soon as
the token before it is taken.
-/

namespace TelemetryCheck
namespace Pattern

inductive Token
  | char (c : Char)
  | escaped (c : Char)
  deriving Repr, DecidableEq

def Token.chars : Token → List Char
  | .char c => [c]
  | .escaped c => ['\\', c]

def Token.size (t : Token) : Nat := t.chars.length

def Token.text (t : Token) : String := String.ofList t.chars

/-- A place in the pattern: what is left of it and how much was taken. -/
structure Place where
  rest : List Char
  position : Nat

structure ReadState where
  place : Place
  flags : Flags := []
  /-- Widths of the groups that are closed, by number; the first stands for the whole pattern. -/
  groups : Array (Option Width) := #[none]
  names : List (String × Nat) := []
  /-- Inside a look-behind: the groups from here on are defined in it. -/
  behindLimit : Option Nat := none
  /-- Groups asked for by number in conditions, with their places. -/
  conditions : List (Nat × Nat) := []

abbrev Read := StateT ReadState (Except CompileError)

/-- Refuses the pattern, `offset` characters before the next token. -/
def refuse {α : Type} (reason : String) (offset : Nat) : Read α := do
  let s ← get
  throw (.invalid reason (some (s.place.position - offset)))

def refuseAt {α : Type} (reason : String) (position : Nat) : Read α :=
  throw (.invalid reason (some position))

def tell : Read Nat := return (← get).place.position

def Place.next (p : Place) : Option Token :=
  match p.rest with
  | [] => none
  | '\\' :: c :: _ => some (.escaped c)
  | c :: _ => some (.char c)

def peek : Read (Option Token) := return (← get).place.next

/-- Refuses a pattern whose next token would be a backslash without a character. -/
def checkEnd (p : Place) : Except CompileError Unit :=
  match p.rest with
  | ['\\'] => .error (.invalid "bad escape (end of pattern)" (some p.position))
  | _ => .ok ()

def take : Read (Option Token) := do
  let s ← get
  match s.place.next with
  | none => return none
  | some t =>
    let place : Place := ⟨s.place.rest.drop t.size, s.place.position + t.size⟩
    match checkEnd place with
    | .error e => throw e
    | .ok () =>
      set { s with place }
      return some t

def accept (c : Char) : Read Bool := do
  if (← peek) = some (.char c) then
    let _ ← take
    return true
  else return false

def takeWhileChar (p : Char → Bool) : Nat → Read (List Char)
  | 0 => return []
  | n + 1 => do
    match ← peek with
    | some (.char c) =>
      if p c then
        let _ ← take
        return c :: (← takeWhileChar p n)
      else return []
    | _ => return []

def takeUntil (close : Char) (what : String) (done : List Char) : Nat → Read (List Char)
  | 0 => refuse ("missing " ++ what) 0
  | fuel + 1 => do
    match ← take with
    | none =>
      if done.isEmpty then refuse ("missing " ++ what) 0
      else refuse ("missing " ++ String.singleton close ++ ", unterminated name") done.length
    | some t =>
      if t = .char close then
        if done.isEmpty then refuse ("missing " ++ what) 1 else return done
      else takeUntil close what (done ++ t.chars) fuel

def remaining : Read Nat := return (← get).place.rest.length + 1

def isOctalDigit (c : Char) : Bool := '0' ≤ c && c ≤ '7'

def isHexDigit (c : Char) : Bool := (Text.hexDigit? c).isSome

def isAsciiDigit (c : Char) : Bool := '0' ≤ c && c ≤ '9'

def isAsciiLetter (c : Char) : Bool := ('a' ≤ c && c ≤ 'z') || ('A' ≤ c && c ≤ 'Z')

def octalValue (cs : List Char) : Nat := cs.foldl (fun n c => 8 * n + (c.toNat - 48)) 0

/-- The characters that single letters stand for after a backslash. -/
def controlEscape? : Char → Option Nat
  | 'a' => some 7
  | 'b' => some 8
  | 'f' => some 12
  | 'n' => some 10
  | 'r' => some 13
  | 't' => some 9
  | 'v' => some 11
  | '\\' => some 92
  | _ => none

def kindEscape? : Char → Option CharKind
  | 'd' => some .digit
  | 'D' => some .noDigit
  | 's' => some .space
  | 'S' => some .noSpace
  | 'w' => some .word
  | 'W' => some .noWord
  | _ => none

def anchorEscape? : Char → Option Anchor
  | 'A' => some .textStart
  | 'b' => some .wordBoundary
  | 'B' => some .noWordBoundary
  | 'Z' => some .textEnd
  | _ => none

def badEscape {α : Type} (escape : List Char) : Read α :=
  refuse ("bad escape " ++ String.ofList escape) escape.length

def hexEscape (letter : Char) (width : Nat) : Read Nat := do
  let digits ← takeWhileChar isHexDigit width
  let escape := '\\' :: letter :: digits
  if digits.length ≠ width then
    refuse ("incomplete escape " ++ String.ofList escape) escape.length
  else
    let n := Text.hexValue digits
    if 0x10FFFF < n then badEscape escape else return n

/-- An escape by the name of a character. The table of names is left out, so each name is answered
as one that is not in it: a pattern such as `\N{EM DASH}` is refused, though its name exists. -/
def namedEscape : Read Nat := do
  if !(← accept '\x7b') then refuse "missing \x7b" 0
  else
    let name ← takeUntil '\x7d' "character name" [] (← remaining)
    refuse ("undefined character name " ++ Text.quoted (String.ofList name)) (name.length + 4)

def octalOutOfRange {α : Type} (escape : List Char) : Read α :=
  refuse ("octal escape value " ++ String.ofList escape ++ " outside of range 0-0o377")
    escape.length

/-- An escape inside a set; `c` follows the backslash. -/
def setEscape (c : Char) : Read SetItem := do
  match controlEscape? c, kindEscape? c with
  | some n, _ => return .code n
  | none, some k => return .kind k
  | none, none =>
    if c = 'x' then return .code (← hexEscape c 2)
    else if c = 'u' then return .code (← hexEscape c 4)
    else if c = 'U' then return .code (← hexEscape c 8)
    else if c = 'N' then return .code (← namedEscape)
    else if isOctalDigit c then
      let digits := c :: (← takeWhileChar isOctalDigit 2)
      if 0o377 < octalValue digits then octalOutOfRange ('\\' :: digits)
      else return .code (octalValue digits)
    else if isAsciiDigit c || isAsciiLetter c then badEscape ['\\', c]
    else return .code c.toNat

/-- Refuses a reference out of a look-behind to a group that is open or defined in it. -/
def checkBehind (group : Nat) : Read Unit := do
  let s ← get
  match s.behindLimit with
  | none => return ()
  | some limit =>
    if ((s.groups[group]?).join).isNone then refuse "cannot refer to an open group" 0
    else if limit ≤ group then
      refuse "cannot refer to group defined in the same lookbehind subpattern" 0
    else return ()

/-- A reference by number: one or two digits. -/
def groupReference (digits : List Char) : Read Node := do
  let group := Text.digitsValue digits
  let s ← get
  if group < s.groups.size then
    if ((s.groups[group]?).join).isNone then
      refuse "cannot refer to an open group" (digits.length + 1)
    else
      checkBehind group
      return .backref group
  else refuse ("invalid group reference " ++ toString group) digits.length

/-- An escape outside of sets. Three octal digits name a code point, otherwise up to two digits
name a group. -/
def escape (c : Char) : Read Node := do
  match anchorEscape? c, kindEscape? c, controlEscape? c with
  | some a, _, _ => return .anchor a
  | none, some k, _ => return .set false [.kind k]
  | none, none, some n => return .code n
  | none, none, none =>
    if c = 'x' then return .code (← hexEscape c 2)
    else if c = 'u' then return .code (← hexEscape c 4)
    else if c = 'U' then return .code (← hexEscape c 8)
    else if c = 'N' then return .code (← namedEscape)
    else if c = '0' then return .code (octalValue (c :: (← takeWhileChar isOctalDigit 2)))
    else if isAsciiDigit c then
      let second ← takeWhileChar isAsciiDigit 1
      match second with
      | [d] =>
        if isOctalDigit c && isOctalDigit d then
          match ← takeWhileChar isOctalDigit 1 with
          | [e] =>
            let digits := [c, d, e]
            if 0o377 < octalValue digits then octalOutOfRange ('\\' :: digits)
            else return .code (octalValue digits)
          | _ => groupReference [c, d]
        else groupReference [c, d]
      | _ => groupReference [c]
    else if isAsciiLetter c then badEscape ['\\', c]
    else return .code c.toNat

def rangeError {α : Type} (first last : Token) : Read α :=
  refuse ("bad character range " ++ first.text ++ "-" ++ last.text) (first.size + 1 + last.size)

def setItem : Token → Read SetItem
  | .escaped c => setEscape c
  | .char c => return .code c.toNat

/-- The items of a set up to its bracket, last first; `start` is the place of the opening one. -/
def setItems (start : Nat) (done : List SetItem) : Nat → Read (List SetItem)
  | 0 => refuseAt "unterminated character set" start
  | fuel + 1 => do
    match ← take with
    | none => refuseAt "unterminated character set" start
    | some first =>
      if first = .char ']' ∧ done ≠ [] then return done
      else
        let item ← setItem first
        if ← accept '-' then
          match ← take with
          | none => refuseAt "unterminated character set" start
          | some (.char ']') => return .code '-'.toNat :: item :: done
          | some last =>
            let other ← setItem last
            match item, other with
            | .code lo, .code hi =>
              if hi < lo then rangeError first last
              else setItems start (.range lo hi :: done) fuel
            | _, _ => rangeError first last
        else setItems start (item :: done) fuel

/-- A set after its opening bracket; a single character needs no set. -/
def charSet : Read Node := do
  let start := (← tell) - 1
  let negated ← accept '^'
  let items ← setItems start [] (← remaining)
  match items.eraseDups with
  | [.code n] => return if negated then .notCode n else .code n
  | _ => return .set negated items.reverse

/-- The greatest number of repeats is below this one. -/
def maxRepeat : Nat := Nat.pow 2 32 - 1

def repeatBound (digits : List Char) : Read Nat := do
  let bound := Text.digitsValue digits
  if Decimal.maxIntegerDigits < digits.length then throw (.numberTooLong digits.length)
  else if maxRepeat ≤ bound then throw .tooManyRepeats
  else return bound

/-- The bounds of a repeat after `\x7b`, or none if it starts no repeat. -/
def repeatBounds (start : Nat) : Read (Option (Nat × Option Nat)) := do
  let saved := (← get).place
  if (← peek) = some (.char '\x7d') then return none
  else
    let size ← remaining
    let low ← takeWhileChar isAsciiDigit size
    let comma ← accept ','
    let high ← if comma then takeWhileChar isAsciiDigit size else pure low
    if !(← accept '\x7d') then
      modify fun s => { s with place := saved }
      return none
    else
      let least ← repeatBound low
      if high.isEmpty then return some (least, none)
      else
        let most ← repeatBound high
        if most < least then refuseAt "min repeat greater than max repeat" start
        else return some (least, some most)

/-- What is repeated: a plain group stands for its content. -/
def repeated : Node → List Node
  | .group none [] [] body => body
  | node => [node]

def Node.isRepeat : Node → Bool
  | .many .. => true
  | _ => false

def Node.isAnchor : Node → Bool
  | .anchor _ => true
  | _ => false

/-- Repeats the last of the parts read so far; `place` is the place of the repeat. -/
def repeatLast (place least : Nat) (most : Option Nat) (done : List Node) : Read (List Node) := do
  match done with
  | [] => refuseAt "nothing to repeat" place
  | node :: rest =>
    if node.isAnchor then refuseAt "nothing to repeat" place
    else if node.isRepeat then refuseAt "multiple repeat" place
    else
      let body := repeated node
      if ← accept '?' then return .many .lazy least most body :: rest
      else if ← accept '+' then return .many .possessive least most body :: rest
      else return .many .greedy least most body :: rest

def flag? : Char → Option Flag
  | 'i' => some .ignoreCase
  | 'm' => some .multiline
  | 's' => some .dotAll
  | 'x' => some .verbose
  | 'a' => some .ascii
  | 't' => some .template
  | 'u' => some .unicode
  | _ => none

def isFlagLetter (c : Char) : Bool := c == 'L' || (flag? c).isSome

def Flag.isAlphabet (f : Flag) : Bool := f == .ascii || f == .unicode

def isLetter (c : Char) : Bool := Text.identifierStart.mem c.toNat && Text.isAlphanumeric c

def Token.isLetter : Token → Bool
  | .char c => Pattern.isLetter c
  | .escaped _ => false

def noLocale {α : Type} : Read α :=
  refuse "bad inline flags: cannot use 'L' flag with a str pattern" 0

/-- Flags that are turned on, and the character after them. -/
def flagsOn (added : Flags) : Nat → Char → Read (Flags × Char)
  | 0, _ => refuse "missing -, : or )" 0
  | fuel + 1, c => do
    match flag? c with
    | none => noLocale
    | some f =>
      let added := if added.contains f then added else added ++ [f]
      if f.isAlphabet && added.any fun g => g.isAlphabet && g != f then
        refuse "bad inline flags: flags 'a', 'u' and 'L' are incompatible" 0
      else
        match ← take with
        | none => refuse "missing -, : or )" 0
        | some t =>
          match t with
          | .char ')' => return (added, ')')
          | .char '-' => return (added, '-')
          | .char ':' => return (added, ':')
          | .char d =>
            if isFlagLetter d then flagsOn added fuel d
            else refuse (if t.isLetter then "unknown flag" else "missing -, : or )") t.size
          | _ => refuse "missing -, : or )" t.size

/-- Flags that are turned off, up to the colon. -/
def flagsOff (removed : Flags) : Nat → Char → Read Flags
  | 0, _ => refuse "missing :" 0
  | fuel + 1, c => do
    match flag? c with
    | none => refuse "bad inline flags: cannot turn off flags 'a', 'u' and 'L'" 0
    | some f =>
      if f.isAlphabet then refuse "bad inline flags: cannot turn off flags 'a', 'u' and 'L'" 0
      else
        let removed := if removed.contains f then removed else removed ++ [f]
        match ← take with
        | none => refuse "missing :" 0
        | some t =>
          match t with
          | .char ':' => return removed
          | .char d =>
            if isFlagLetter d then flagsOff removed fuel d
            else refuse (if t.isLetter then "unknown flag" else "missing :") t.size
          | _ => refuse "missing :" t.size

/-- Flags after `(?`: none for flags of the whole pattern, which are noted, else what they turn on
and off in the group that follows. -/
def groupFlags (c : Char) : Read (Option (Flags × Flags)) := do
  let (added, stop) ← if c = '-' then pure ([], '-') else flagsOn [] (← remaining) c
  if stop = ')' then
    modify fun s => { s with flags := s.flags ++ added.filter fun f => !s.flags.contains f }
    return none
  else if added.contains .template then
    refuse "bad inline flags: cannot turn on global flag" 1
  else if stop = '-' then
    match ← take with
    | none => refuse "missing flag" 0
    | some t =>
      match t with
      | .char d =>
        if !isFlagLetter d then
          refuse (if t.isLetter then "unknown flag" else "missing flag") t.size
        else
          let removed ← flagsOff [] (← remaining) d
          if removed.contains .template then
            refuse "bad inline flags: cannot turn off global flag" 1
          else if added.any fun f => removed.contains f then
            refuse "bad inline flags: flag turned on and off" 1
          else return some (added, removed)
      | _ => refuse "missing flag" t.size
  else return some (added, [])

def badGroupName {α : Type} (name : List Char) (offset : Nat) : Read α :=
  refuse ("bad character in group name " ++ Text.quoted (String.ofList name)) (name.length + offset)

def unknownGroup {α : Type} (name : List Char) : Read α :=
  refuse ("unknown group name " ++ Text.quoted (String.ofList name)) (name.length + 1)

def groupNamed? (name : List Char) : Read (Option Nat) := do
  return ((← get).names.find? fun p => p.1 == String.ofList name).map (·.2)

/-- The group that a condition asks for, by name or by number. -/
def conditionGroup (name : List Char) : Read Nat := do
  if Text.isIdentifier name then
    match ← groupNamed? name with
    | none => unknownGroup name
    | some group => return group
  else
    match Decimal.readInteger name with
    | .error _ => badGroupName name 1
    | .ok i =>
      if i < 0 then badGroupName name 1
      else if i = 0 then refuse "bad group number" (name.length + 1)
      else if Nat.pow 2 30 - 1 ≤ i then
        refuse ("invalid group reference " ++ toString i) (name.length + 1)
      else
        let group := i.toNat
        let place := (← tell) - name.length - 1
        modify fun s =>
          if s.conditions.any fun p => p.1 == group then s
          else { s with conditions := s.conditions ++ [(group, place)] }
        return group

def openGroup (name : Option (List Char)) : Read Nat := do
  let s ← get
  let group := s.groups.size
  match name with
  | none =>
    set { s with groups := s.groups.push none }
    return group
  | some name =>
    match ← groupNamed? name with
    | some earlier =>
      refuse ("redefinition of group name " ++ Text.quoted (String.ofList name) ++ " as group " ++
        toString group ++ "; was group " ++ toString earlier) (name.length + 1)
    | none =>
      set { s with
        groups := s.groups.push none
        names := s.names ++ [(String.ofList name, group)] }
      return group

def closeGroup (group : Nat) (body : List Node) : Read Unit :=
  modify fun s => { s with groups := s.groups.set! group (some (seqWidth s.groups body)) }

inductive Opening
  | capture (name : Option (List Char))
  | plain (add del : Flags)
  | atomic
  | ahead (negated : Bool)
  | behind (negated : Bool)
  | condition (group : Nat)
  | done (node : Option Node)
  | wholeFlags

def skipComment (start : Nat) : Nat → Read Unit
  | 0 => refuseAt "missing ), unterminated comment" start
  | fuel + 1 => do
    if (← peek).isNone then refuseAt "missing ), unterminated comment" start
    else if (← take) = some (.char ')') then return ()
    else skipComment start fuel

def namedOpening : Read Opening := do
  if ← accept '<' then
    let name ← takeUntil '>' "group name" [] (← remaining)
    if !Text.isIdentifier name then badGroupName name 1 else return .capture (some name)
  else if ← accept '=' then
    let name ← takeUntil ')' "group name" [] (← remaining)
    if !Text.isIdentifier name then badGroupName name 1
    else
      match ← groupNamed? name with
      | none => unknownGroup name
      | some group =>
        if (((← get).groups[group]?).join).isNone then
          refuse "cannot refer to an open group" (name.length + 1)
        else
          checkBehind group
          return .done (some (.backref group))
  else
    match ← take with
    | none => refuse "unexpected end of pattern" 0
    | some t => refuse ("unknown extension ?P" ++ t.text) (t.size + 2)

/-- What follows `(?`; `start` is the place of the bracket. -/
def opening (start : Nat) : Read Opening := do
  match ← take with
  | none => refuse "unexpected end of pattern" 0
  | some t =>
    match t with
    | .char 'P' => namedOpening
    | .char ':' => return .plain [] []
    | .char '#' =>
      skipComment start (← remaining)
      return .done none
    | .char '=' => return .ahead false
    | .char '!' => return .ahead true
    | .char '<' =>
      match ← take with
      | none => refuse "unexpected end of pattern" 0
      | some (.char '=') => return .behind false
      | some (.char '!') => return .behind true
      | some u => refuse ("unknown extension ?<" ++ u.text) (u.size + 2)
    | .char '(' =>
      let name ← takeUntil ')' "group name" [] (← remaining)
      let group ← conditionGroup name
      checkBehind group
      return .condition group
    | .char '>' => return .atomic
    | .char c =>
      if c = '-' ∨ isFlagLetter c then
        match ← groupFlags c with
        | none => return .wholeFlags
        | some (add, del) => return .plain add del
      else refuse ("unknown extension ?" ++ t.text) (t.size + 1)
    | _ => refuse ("unknown extension ?" ++ t.text) (t.size + 1)

def expectClose (start : Nat) : Read Unit := do
  if ← accept ')' then return () else refuseAt "missing ), unterminated subpattern" start

def skipLine : Nat → Read Unit
  | 0 => return ()
  | fuel + 1 => do
    match ← take with
    | none => return ()
    | some t => if t = .char '\n' then return () else skipLine fuel

def isVerboseBlank (c : Char) : Bool :=
  c == ' ' || c == '\t' || c == '\n' || c == '\r' || c == '\x0b' || c == '\x0c'

def isVerbose (flags : Flags) : Bool := flags.contains .verbose

mutual

/-- Alternatives up to the end of the group or of the pattern. At the outermost level the flags
of the whole pattern are looked at again for each of them. -/
def readAlternatives : Nat → Bool → Bool → List (List Node) → Read (List Node)
  | 0, _, _, _ => refuse "unexpected end of pattern" 0
  | fuel + 1, outermost, verbose, done => do
    let branch ← readSequence fuel (outermost && done.isEmpty) verbose []
    let done := done ++ [branch]
    if ← accept '|' then
      let flags := (← get).flags
      let verbose := if outermost then isVerbose flags else verbose
      readAlternatives fuel outermost verbose done
    else
      match done with
      | [only] => return only
      | _ => return [.alternatives done]

/-- The parts of one alternative; `done` holds those already read, last first. -/
def readSequence : Nat → Bool → Bool → List Node → Read (List Node)
  | 0, _, _, _ => refuse "unexpected end of pattern" 0
  | fuel + 1, first, verbose, done => do
    match ← peek with
    | none => return done.reverse
    | some (.char '|') => return done.reverse
    | some (.char ')') => return done.reverse
    | some (.escaped c) =>
      let _ ← take
      readSequence fuel first verbose ((← escape c) :: done)
    | some (.char c) =>
      let place ← tell
      let _ ← take
      if verbose && isVerboseBlank c then readSequence fuel first verbose done
      else if verbose && c == '#' then
        skipLine (← remaining)
        readSequence fuel first verbose done
      else
        match c with
        | '[' => readSequence fuel first verbose ((← charSet) :: done)
        | '.' => readSequence fuel first verbose (.any :: done)
        | '^' => readSequence fuel first verbose (.anchor .lineStart :: done)
        | '$' => readSequence fuel first verbose (.anchor .lineEnd :: done)
        | '?' => readSequence fuel first verbose (← repeatLast place 0 (some 1) done)
        | '*' => readSequence fuel first verbose (← repeatLast place 0 none done)
        | '+' => readSequence fuel first verbose (← repeatLast place 1 none done)
        | '\x7b' =>
          match ← repeatBounds (place + 1) with
          | none => readSequence fuel first verbose (.code c.toNat :: done)
          | some (least, most) =>
            readSequence fuel first verbose (← repeatLast place least most done)
        | '(' =>
          let marked ← accept '?'
          let how ← if marked then opening place else pure (.capture none)
          match how with
          | .done none => readSequence fuel first verbose done
          | .done (some node) => readSequence fuel first verbose (node :: done)
          | .wholeFlags =>
            let flags := (← get).flags
            if !first || !done.isEmpty then
              refuseAt "global flags not at the start of the expression" place
            else readSequence fuel first (isVerbose flags) done
          | .ahead negated =>
            let body ← readAlternatives fuel false verbose []
            expectClose place
            readSequence fuel first verbose (.ahead negated body :: done)
          | .behind negated =>
            let outer := (← get).behindLimit
            modify fun s => { s with behindLimit := some (outer.getD s.groups.size) }
            let body ← readAlternatives fuel false verbose []
            modify fun s => { s with behindLimit := outer }
            expectClose place
            readSequence fuel first verbose (.behind negated body :: done)
          | .condition group =>
            let yes ← readSequence fuel false verbose []
            let more ← accept '|'
            let no ← if more then readSequence fuel false verbose [] else pure []
            if more && (← peek) == some (.char '|') then
              refuse "conditional backref with more than two branches" 0
            expectClose place
            readSequence fuel first verbose (.conditional group yes no :: done)
          | .atomic =>
            let body ← readAlternatives fuel false verbose []
            expectClose place
            readSequence fuel first verbose (.atomic body :: done)
          | .plain add del =>
            let inner := (verbose || add.contains .verbose) && !del.contains .verbose
            let body ← readAlternatives fuel false inner []
            expectClose place
            readSequence fuel first verbose (.group none add del body :: done)
          | .capture name =>
            let group ← openGroup name
            let body ← readAlternatives fuel false verbose []
            expectClose place
            closeGroup group body
            readSequence fuel first verbose (.group (some group) [] [] body :: done)
        | _ => readSequence fuel first verbose (.code c.toNat :: done)

end

/-- A pattern that was read: its parts, its flags and the widths of its groups. -/
structure Compiled where
  flags : Flags
  groups : Array (Option Width)
  body : List Node

mutual

/-- Checks that depend on whole parts: a look-behind has one width, and a template has no
repeats. -/
def checkNode (groups : Array (Option Width)) (flags : Flags) : Node → Except CompileError Unit
  | .alternatives branches => checkBranches groups flags branches
  | .group _ add del body => checkSeq groups (combineFlags flags add del) body
  | .many mode _ _ body =>
    if flags.contains .template then
      let name := match mode with
        | .greedy => "MAX_REPEAT"
        | .lazy => "MIN_REPEAT"
        | .possessive => "POSSESSIVE_REPEAT"
      .error (.invalid ("internal: unsupported template operator " ++ name) none)
    else checkSeq groups flags body
  | .atomic body => checkSeq groups flags body
  | .ahead _ body => checkSeq groups flags body
  | .behind _ body =>
    let width := seqWidth groups body
    if maxRepeat < width.least then .error (.invalid "looks too much behind" none)
    else if width.least ≠ width.most then
      .error (.invalid "look-behind requires fixed-width pattern" none)
    else checkSeq groups flags body
  | .conditional _ yes no => do
    checkSeq groups flags yes
    checkSeq groups flags no
  | _ => .ok ()

def checkSeq (groups : Array (Option Width)) (flags : Flags) : List Node → Except CompileError Unit
  | [] => .ok ()
  | node :: rest => do
    checkNode groups flags node
    checkSeq groups flags rest

def checkBranches (groups : Array (Option Width)) (flags : Flags) :
    List (List Node) → Except CompileError Unit
  | [] => .ok ()
  | branch :: rest => do
    checkSeq groups flags branch
    checkBranches groups flags rest

end

def readWhole (size : Nat) : Read (List Node) := do
  match checkEnd (← get).place with
  | .error e => throw e
  | .ok () => readAlternatives (3 * size + 3) true false []

def compile (pattern : String) : Except CompileError Compiled := do
  let chars := pattern.toList
  let (body, s) ← (readWhole chars.length).run { place := ⟨chars, 0⟩ }
  if s.flags.contains .ascii && s.flags.contains .unicode then .error .clashingAlphabets
  else if s.place.next.isSome then
    .error (.invalid "unbalanced parenthesis" (some s.place.position))
  else
    match s.conditions.find? fun p => s.groups.size ≤ p.1 with
    | some (group, place) =>
      .error (.invalid ("invalid group reference " ++ toString group) (some place))
    | none =>
      let flags := if s.flags.contains .ascii then s.flags else s.flags ++ [.unicode]
      checkSeq s.groups flags body
      .ok ⟨flags, s.groups, body⟩

end Pattern
end TelemetryCheck
