import TelemetryCheck.CommandLine.Order
import TelemetryCheck.CommandLine.Terminal
import TelemetryCheck.Conversion.Definition
import TelemetryCheck.Runner
import TelemetryCheck.TestSuite

/-!
# Commands

Every command finds the test cases first, so that all of them speak of the same ones. Nothing is
run unless all test cases are valid.
-/

namespace TelemetryCheck
namespace CommandLine

structure Surroundings (ω : Type) where
  environment : Settings.Environment
  clock : Clock (Bench ω) Float
  network : Http.Network (Bench ω)
  runScript : Script Float → Action (Bench ω) ScriptEnd
  /-- The free ports in the order in which the system offers them. -/
  offers : Bench ω → List Nat
  /-- Takes the first ports on offer. -/
  takePorts : Nat → Action (Bench ω) Unit
  /-- The most rounds that a loop may take. -/
  rounds : Nat

namespace Commands

open Job (outside say)

variable {ω τ : Type}

/-- The settings of an order; logging is set up as they say. -/
def settings (environment : Settings.Environment) (order : Order) : Job ω Settings :=
  match Settings.load environment order.overrides with
  | .failed cs =>
    Job.stop .usageError
      (Console.error ("Invalid settings: " ++ "; ".intercalate (cs.map (·.text))) [])
  | .ok s => do
    Job.setLogging s.logLevel s.logJson
    return s

def basePath (settings : Settings) (order : Order) : Path := order.path.getD settings.basePath

def limits (settings : Settings) : TestSuite.Limits Float :=
  ⟨settings.timeout, settings.absentTimeout, settings.manualDebug⟩

/-- The test cases at a path that must be there. -/
def found (settings : Settings) (base : Path) : Job ω (List (TestCase Float)) := do
  let present ← outside (Bench.ask fun files => files.present base)
  unless present do
    Job.stop .fileNotFound
      (Console.error "Test case path not found" [("path", some base.toText)])
  match ← outside (TestSuite.read base.toText (limits settings)).refusal with
  | .ok cases => return cases
  | .error m => Job.stop .validationError (Console.misconfiguration m)

variable (s : Surroundings ω)

/-- Ports that were not handed out before. -/
def allocate (a : PortAllocator) : Action (Bench ω) (Ports × PortAllocator) := do
  let offers := s.offers (← get)
  let (outcome, a, rest) := a.allocate offers
  s.takePorts (offers.length - rest.length)
  let ports ← Action.ofFault (outcome.toExcept a)
  return (← Action.ofExcept (Conversion.checkedPorts ports).toExcept, a)

def assignPorts (a : PortAllocator) : List (TestCase τ) → Action (Bench ω) (List (TestCase τ))
  | [] => return []
  | c :: rest => do
    let (ports, a) ← allocate s a
    return { c with portConfig := some ports } :: (← assignPorts a rest)

def discover (settings : Settings) (order : Order) : Job ω (List (TestCase Float)) := do
  let cases ← found settings (basePath settings order)
  if order.randomPorts then outside (assignPorts s { count := cases.length } cases)
  else return cases

/-- The test cases as they are let in, and what is wrong with the ones that are not valid. -/
def acceptAll : List (TestCase τ) → Action (Bench ω) (List (TestCase τ) × List Misconfiguration)
  | [] => return ([], [])
  | c :: rest => do
    let accepted ← c.accept.refusal
    let (cases, invalid) ← acceptAll rest
    return match accepted with
      | .ok c => (c :: cases, invalid)
      | .error m => (c :: cases, m :: invalid)

/-- Lets all test cases in. If any is not valid, all such are reported and the command ends. -/
def requireValid (cases : List (TestCase τ)) : Job ω (List (TestCase τ)) := do
  let (accepted, invalid) ← outside (acceptAll cases)
  invalid.forM fun m => say (Console.misconfiguration m)
  unless invalid.isEmpty do
    Job.stop .validationError
      (Console.error (Decimal.natText invalid.length ++ " of " ++ Decimal.natText cases.length ++
        " test cases are invalid") [])
  return accepted

def report (result : CaseResult τ) (c : Console) : Console :=
  if result.passed then
    c.printLine ("PASS " ++ result.name ++ " (" ++ Decimal.natText result.checks.length ++
      " checks)")
  else
    result.failures.foldl
      (fun c failure =>
        (c.noteLine ("  [" ++ failure.check.kind.text ++ "] " ++ failure.check.description)).notes
          ((Text.lines failure.message.toList).map fun line => "    " ++ String.ofList line))
      (c.error ("FAIL " ++ result.name) [("log_file", some result.logFile.toText)])

/-- A test case with an endpoint of its own: how it is run, and how the endpoint is closed. -/
structure Prepared (ω τ : Type) where
  run : Action (Bench ω) (CaseResult τ)
  close : Action (Bench ω) Unit

/-- Runs a test case. One that cannot be run is reported and ends the command. -/
def runOrStop (run : Action (Bench ω) (CaseResult τ)) : Job ω (CaseResult τ) := do
  match ← outside run.refusal with
  | .ok result => return result
  | .error m => Job.stop .validationError (Console.misconfiguration m)

def runCases (prepare : TestCase τ → Action (Bench ω) (Prepared ω τ)) :
    List (TestCase τ) → Job ω (List (CaseResult τ))
  | [] => return []
  | c :: rest => do
    say (Console.noteLine ("Running " ++ c.name ++ "..."))
    let prepared ← outside (prepare c)
    -- what is wrong with a test case is printed before its endpoint is closed
    let result ← tryFinally (runOrStop prepared.run) (outside prepared.close)
    say (report result)
    return result :: (← runCases prepare rest)

def conclude (results : List (CaseResult τ)) : Job ω Unit := do
  let failed := (results.filter fun r => !r.passed).map (·.name)
  outside (Bench.log .info "run_finished"
    [("test_cases", .int results.length), ("failed", .int failed.length)])
  let total := Decimal.natText results.length
  if failed.isEmpty then say (Console.printLine ("All " ++ total ++ " test cases passed"))
  else
    Job.stop .checkFailed
      (Console.error (Decimal.natText failed.length ++ " of " ++ total ++ " test cases failed")
        [("failed", some (", ".intercalate failed))])

/-- Runs the test cases if all of them are valid. -/
def runAll (prepare : TestCase τ → Action (Bench ω) (Prepared ω τ)) (cases : List (TestCase τ)) :
    Job ω Unit := do
  let cases ← requireValid cases
  conclude (← runCases prepare cases)

/-- Prepares a test case to be run against the backends on its ports. -/
def prepare (settings : Settings) (c : TestCase Float) :
    Action (Bench ω) (Prepared ω Float) := do
  let client ← s.network.connect HttpEndpoint.options
  let runner : Runner ω Float :=
    { clock := s.clock
      endpoint := HttpEndpoint.make { ports := c.ports } client
      network := s.network
      runScript := s.runScript
      settings := settings
      rounds := s.rounds }
  return ⟨runner.complete c, client.close⟩

def run (order : Order) : Job ω Unit := do
  let settings ← settings s.environment order
  let cases ← discover s settings order
  if cases.isEmpty then
    say (Console.warn "No test cases found" [("path", some (basePath settings order).toText)])
  else runAll (prepare s settings) cases

def validate (order : Order) : Job ω Unit := do
  let settings ← settings s.environment order
  let cases ← requireValid (← discover s settings order)
  cases.forM fun c => say (Console.printLine ("OK " ++ c.name))

/-- The line of a test case: its name, its variant and its file. -/
def listing (c : TestCase τ) : String :=
  let variant := c.matrixVariant.getD ""
  "\t".intercalate [c.name, if variant.isEmpty then "-" else variant, c.path.toText]

def list (order : Order) : Job ω Unit := do
  let settings ← settings s.environment order
  let cases ← discover s settings order
  cases.forM fun c => say (Console.printLine (listing c))

def perform (order : Order) : Job ω Unit :=
  match order.command with
  | .run => run s order
  | .validate => validate s order
  | .list => list s order

end Commands
end CommandLine
end TelemetryCheck
