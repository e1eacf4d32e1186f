import TelemetryCheck.Comparator
import TelemetryCheck.Definition
import TelemetryCheck.Matching
import TelemetryCheck.Path

/-!
# Validation

The failures of a definition, collected part by part before anything is started. A fault in one
part ends the collection.
-/

namespace TelemetryCheck

/-- The failures of one part, or a fault met while looking for them. -/
abbrev Findings := Except Fault (List String)

def collect : List Findings → Findings
  | [] => .ok []
  | part :: rest => do return (← part) ++ (← collect rest)

def note (condition : Bool) (message : String) : List String :=
  if condition then [message] else []

def validatePattern (pattern context what : String) : Findings :=
  match Pattern.compile pattern with
  | .ok _ => .ok []
  | .error (.invalid reason position) =>
    .ok [what ++ " " ++ Text.quoted pattern ++ " does not compile in " ++ context ++ ": " ++
      Pattern.CompileError.text pattern (.invalid reason position)]
  | .error e => .error (.pattern pattern e)

def validateCount (count : Option CountRange) (context : String) : List String :=
  match count with
  | none => []
  | some r =>
    note (r.least == 0 && r.most > 0)
        ("count min=0 and max>0 is not supported in " ++ context) ++
      note (r.least < 0) ("count.min is negative in " ++ context) ++
      note (r.most != 0 && r.most < r.least)
        ("count.max is less than count.min in " ++ context)

/-- In absence mode no constraint may be given, not even an empty one. -/
def absenceFailures (signal : Signal) (context : String) : List String :=
  let mode := " when count min=0 and max=0 in " ++ context
  note signal.equals.isSome ("expected 'equals' to be unset" ++ mode) ++
    note signal.regexp.isSome ("expected 'regexp' to be unset" ++ mode) ++
    note (!signal.attributes.isEmpty) ("expected 'attributes' to be empty" ++ mode) ++
    note (!signal.attributeRegexp.isEmpty) ("expected 'attribute-regexp' to be empty" ++ mode)

def attributeFailures (context : String) (attributes : List (String × String)) : List String :=
  attributes.flatMap fun (key, value) =>
    note key.isEmpty ("attribute key is empty in " ++ context) ++
      note value.isEmpty ("attribute value is empty in " ++ context)

def presenceFailures (signal : Signal) (context : String) : List String :=
  note ((given? signal.equals).isNone && (given? signal.regexp).isNone)
      ("either 'equals' or 'regexp' must be set in " ++ context) ++
    attributeFailures context signal.attributes ++
    attributeFailures context signal.attributeRegexp

def validateSignal (signal : Signal) (context : String) : Findings :=
  collect <|
    [.ok (note signal.contains.isSome
        ("'contains' is deprecated, use 'regexp' instead in " ++ context)),
      .ok (if signal.expectAbsent then absenceFailures signal context
        else presenceFailures signal context),
      (given? signal.regexp).elim (.ok []) fun r => validatePattern r context "regexp"] ++
    (signal.attributeRegexp.map fun (key, pattern) =>
      if pattern.isEmpty then .ok []
      else validatePattern pattern context ("attribute-regexp " ++ Text.quoted key)) ++
    [.ok (validateCount signal.count context)]

def httpMethods : List String :=
  ["CONNECT", "DELETE", "GET", "HEAD", "OPTIONS", "PATCH", "POST", "PUT", "TRACE"]

def httpSchemes : List String := ["http", "https"]

def maxStatus : Nat := Nat.pow 2 31 - 1

/-- A sign and digits of any script, nothing else. -/
def isIntegerText (cs : List Char) : Bool :=
  let (_, digits) := Decimal.takeSign cs
  !digits.isEmpty && digits.all Text.isDigit

def statusFailures (status context : String) : Findings :=
  let message := "status must parse as integer or be empty in " ++ context
  if status.isEmpty then .ok []
  else if !isIntegerText status.toList then .ok [message]
  else
    match Decimal.readInteger status.toList with
    | .ok n => .ok (note (maxStatus < n.natAbs) message)
    | .error e => .error (.ofIntegerError status.toList e)

def indexed (what : String) (index : Nat) : String := what ++ "[" ++ Decimal.natText index ++ "]"

def validateInput (index : Nat) (input : Input) : Findings :=
  let context := indexed "input" index
  collect
    [.ok (note input.path.isEmpty ("input path is empty in " ++ context)),
      statusFailures input.status context,
      .ok (note (!input.method.isEmpty && !httpMethods.contains (upperText input.method))
          ("method must be a supported HTTP method or be empty in " ++ context) ++
        note (input.effectiveMethod == "GET" && !input.body.isEmpty)
          ("body must be empty for GET requests in " ++ context) ++
        note (!input.scheme.isEmpty && !httpSchemes.contains (lowerText input.scheme))
          ("scheme must be http, https or be empty in " ++ context))]

def validateInputs (inputs : List Input) : Findings := collect (inputs.mapIdx validateInput)

def validateKubernetes (k : Kubernetes) : List String :=
  note k.dir.isEmpty "k8s-dir is empty" ++
    note k.appService.isEmpty "k8s-app-service is empty" ++
    note k.appDockerFile.isEmpty "app-docker-file is empty" ++
    note k.appDockerTag.isEmpty "app-docker-tag is empty" ++
    note (k.appDockerPort == 0) "app-docker-port is zero"

/-- Whether there is a regular file at a path. -/
abbrev FileTest := Path → Except Fault Bool

def validateComposeFile (isFile : FileTest) (directory : Path) (filename : String) : Findings := do
  let path := directory.child filename
  let present ← isFile path
  return note (!present)
    ("docker-compose file " ++ Text.quoted path.toText ++ " is not a regular file")

def validateDockerCompose (isFile : FileTest) (directory : Path) (d : DockerCompose) : Findings :=
  collect (d.files.map (validateComposeFile isFile directory))

/-- Exactly one way of deployment must be described. -/
def validateDeployment (isFile : FileTest) (directory : Path) (d : Definition) : Findings :=
  match d.kubernetes, d.dockerCompose with
  | some k, compose =>
    .ok (validateKubernetes k ++
      note compose.isSome "kubernetes and docker-compose are mutually exclusive")
  | none, none => .ok ["either docker-compose or kubernetes must be set"]
  | none, some compose => validateDockerCompose isFile directory compose

def validateCustomCheck (index : Nat) (check : CustomCheck) : Findings :=
  .ok (note check.script.isEmpty ("script is empty in " ++ indexed "custom-checks" index))

def validateLogs (index : Nat) (logs : ExpectedLogs) : Findings :=
  let context := indexed "logs" index
  collect
    [.ok (note logs.logql.isEmpty ("logql is empty in " ++ context)),
      validateSignal logs.signal context]

def valueFailures (value context : String) : List String :=
  if value.isEmpty then ["value is empty in " ++ context]
  else
    match parseComparator value with
    | .ok _ => []
    | .error m => [m.message ++ " in " ++ context]

def validateMetrics (index : Nat) (metrics : ExpectedMetrics) : Findings :=
  let context := indexed "metrics" index
  .ok (note metrics.promql.isEmpty ("promql is empty in " ++ context) ++
    valueFailures metrics.value context)

def validateTraces (index : Nat) (traces : ExpectedTraces) : Findings :=
  let context := indexed "traces" index
  collect
    [.ok (note traces.traceql.isEmpty ("traceql is empty in " ++ context) ++
        note (traces.spans.any fun s => !s.isEmpty)
          ("spans are deprecated, add to 'traces' directly in " ++ context)),
      validateSignal traces.signal context]

def validateProfiles (index : Nat) (profiles : ExpectedProfiles) : Findings :=
  let context := indexed "profiles" index
  let f := profiles.flamebearers
  collect
    [.ok (note profiles.query.isEmpty ("query is empty in " ++ context) ++
        note f.contains.isSome
          ("'contains' is deprecated, use 'regexp' instead in " ++ context) ++
        note ((given? f.equals).isSome == (given? f.regexp).isSome)
          ("exactly one of 'equals' or 'regexp' must be set in " ++ context)),
      (given? f.regexp).elim (.ok []) fun r => validatePattern r context "regexp"]

/-- The parts of a definition, in the order in which they are looked at. -/
def validationParts (isFile : FileTest) (directory : Path) (d : Definition) : List Findings :=
  [validateDeployment isFile directory d, validateInputs d.input,
    .ok (note (d.expected.signalCount == 0) "no expected metrics, traces, logs or profiles")] ++
  d.expected.customChecks.mapIdx validateCustomCheck ++
  d.expected.logs.mapIdx validateLogs ++
  d.expected.metrics.mapIdx validateMetrics ++
  d.expected.traces.mapIdx validateTraces ++
  d.expected.profiles.mapIdx validateProfiles

/-- Every failure of a definition whose relative paths start at `directory`. -/
def validateDefinition (isFile : FileTest) (directory : Path) (d : Definition) : Findings :=
  collect (validationParts isFile directory d)

theorem collect_append (a b : List Findings) :
    collect (a ++ b) = (do return (← collect a) ++ (← collect b)) := by
  induction a with
  | nil =>
    cases h : collect b <;> simp [collect, h, bind, Except.bind, pure, Except.pure]
  | cons part rest ih =>
    simp only [List.cons_append, collect, ih]
    cases part <;> cases collect rest <;> cases collect b <;>
      simp [bind, Except.bind, pure, Except.pure, List.append_assoc]

end TelemetryCheck
