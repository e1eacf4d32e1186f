import TelemetryCheck.Conversion.Definition
import TelemetryCheck.Files
import TelemetryCheck.Inclusion
import TelemetryCheck.Yaml.Reading

/-!
# Definition files

Reading one file goes through its bytes, its text, its data and what the data means; each step has
a failure of its own.
-/

namespace TelemetryCheck
namespace DefinitionFile

def failure (path : Path) (summary : String) (errors : List String) : Failure :=
  .configuration { summary, errors, source := some path.toText }

def bytes (files : Files) (path : Path) : Except Failure ByteArray :=
  match files.isFile path with
  | .error f => .error (.fault f)
  | .ok false => .error (failure path ("File not found: " ++ path.toText) [])
  | .ok true =>
    match files.read path with
    | .ok b => .ok b
    | .error f =>
      .error (failure path ("Cannot read " ++ path.toText ++ ": " ++ f.message) [])

/-- The data in a file. Bytes that are no text, and values that cannot exist, are faults. -/
def data (files : Files) (path : Path) (b : ByteArray) : Except Failure Data :=
  match Text.decodeStrict b.toList with
  | .error e => .error (.fault (.encoding e))
  | .ok chars =>
    match Yaml.read chars with
    | .ok d => .ok d
    | .error .malformed =>
      .error (failure path
        ("Invalid YAML syntax in " ++ path.name ++ ": " ++ files.syntaxNote chars) [])
    | .error (.fault f) => .error (.fault f)

/-- Nothing at all counts as no entries. -/
def entries (path : Path) : Data → Except Failure (List (Data × Data))
  | .null => .ok []
  | .record es => .ok es
  | d =>
    .error (failure path
      ("Expected a mapping at the top level of " ++ path.name ++ ", got " ++ d.kindName) [])

def definition (path : Path) (es : List (Data × Data)) : Except Failure Definition :=
  match Conversion.definition (.record es) with
  | .ok d => .ok d
  | .failed complaints =>
    .error (failure path ("Validation error in " ++ path.name)
      (complaints.map Conversion.Complaint.text))

def read (files : Files) (path : Path) : Except Failure Definition := do
  let b ← bytes files path
  let d ← data files path b
  let es ← entries path d
  definition path es

/-- What an entry in the list of includes stands for: a path seen from the file that lists it. -/
def includePath (files : Files) (path : Path) (name : String) : Except Failure Path :=
  match files.locate (path.parent ++ Path.ofText name) with
  | .ok p => .ok p
  | .error f => .error (.fault f)

def source (files : Files) : DefinitionSource := ⟨includePath files, read files⟩

/-- The definition in a file with all that it includes. Every path on the way to it is another
file, so their number bounds how deep inclusion goes. -/
def load (files : Files) (path : Path) : Except Failure Definition :=
  match files.locate path with
  | .ok p => (source files).gather (files.tree.namesBelow.length + 2) [] p
  | .error f => .error (.fault f)

end DefinitionFile
end TelemetryCheck
