import TelemetryCheck.CommandLine.Program

/-!
# The executable

Takes a picture of the files below the working directory, performs the command on it, prints what
the command prints and writes the files that it made. Nothing travels over a network from here
and no script is started: every exchange fails, and time passes only by waiting.
-/

namespace TelemetryCheck
namespace Executable

/-- The world of a command that nobody answers: only its clock changes. -/
abbrev Silence : Type := Float

def client : Http.Client (Bench Silence) where
  request _ := return .failed "no network"
  get _ _ := return .failed "no network"
  close := pure ()

def clock : Clock (Bench Silence) Float where
  now := do return (← get).world
  sleep t := modify fun b => { b with world := b.world + t }

def surroundings (environment : Settings.Environment) : CommandLine.Surroundings Silence where
  environment := environment
  clock := clock
  network := ⟨fun _ => return client⟩
  runScript s := return .notStarted (.system 38 "Function not implemented" (some s.path.toText))
  offers _ := (List.range 1000).map (49152 + ·)
  takePorts _ := pure ()
  rounds := 1000000

def variableNames : List String :=
  let names := ["timeout", "absent_timeout", "manual_debug", "verbose", "fail_fast", "log_level",
    "log_json", "output_root"].flatMap fun name => (Settings.Names.ofField name).environment
  let names := names ++ Settings.basePathNames.environment
  names ++ names.map lowerText ++ names.map upperText

def readEnvironment : IO Settings.Environment := do
  let values ← variableNames.mapM fun name => return (name, ← IO.getEnv name)
  return values.filterMap fun (name, value) => value.map (name, ·)

/-- The files below a directory, as far down as `depth`. -/
def readTree : Nat → IO.FS.DirEntry → IO FileTree
  | 0, _ => return .empty
  | depth + 1, entry => do
    if ← entry.path.isDir then
      let entries ← entry.path.readDir
      let trees ← entries.toList.mapM fun e => return (e.fileName, ← readTree depth e)
      return .directory trees
    else
      try return .file (.bytes (← IO.FS.readBinFile entry.path))
      catch _ => return .file (.unreadable 13 "Permission denied")

/-- How far below the working directory files are looked at. -/
def depth : Nat := 32

def readFiles : IO Files := do
  let cwd := Path.ofText (← IO.currentDir).toString
  let tree ← readTree depth ⟨".", "."⟩
  return { tree := .put tree cwd.parts .empty, cwd, syntaxNote := fun _ => "no YAML document" }

/-- Writes the files of a tree that another one does not have. -/
def writeNew (before after : FileTree) (cwd : Path) : IO Unit :=
  after.namesBelow.forM fun names => do
    let path := (Path.mk "/" (cwd.parts ++ names)).toText
    match before.at? names, after.at? names with
    | none, some (.directory _) => IO.FS.createDirAll path
    | old, some (.file (.bytes b)) =>
      match old with
      | some (.file (.bytes a)) => unless a == b do IO.FS.writeBinFile path b
      | _ => IO.FS.writeBinFile path b
    | _, _ => pure ()

def treeAt (files : Files) (cwd : Path) : FileTree := (files.tree.at? cwd.parts).getD .empty

def perform (arguments : List String) : IO UInt32 := do
  let files ← readFiles
  let start : CommandLine.Session Silence := ⟨{ outside := 0.0 }, files, {}⟩
  let program := CommandLine.Program.guarded (surroundings (← readEnvironment)) arguments
  let (status, after) := program.runFrom start
  (← IO.getStdout).putStr after.world.console.out
  (← IO.getStderr).putStr after.world.console.err
  writeNew (treeAt files files.cwd) (treeAt after.files files.cwd) files.cwd
  return match status with
    | .ok status => status.code.toUInt32
    | .error _ => CommandLine.ExitStatus.generalError.code.toUInt32

end Executable
end TelemetryCheck

def main (arguments : List String) : IO UInt32 := TelemetryCheck.Executable.perform arguments
