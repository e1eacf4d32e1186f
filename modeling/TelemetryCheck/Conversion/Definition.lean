import TelemetryCheck.Conversion
import TelemetryCheck.Definition
import TelemetryCheck.Ports

namespace TelemetryCheck
namespace Conversion

open FieldKey

namespace Key

def matrixCondition : FieldKey := ⟨"matrix_condition", "matrix-condition"⟩

def dockerCompose : FieldKey := ⟨"docker_compose", "docker-compose"⟩

def kubernetes : FieldKey := plain "kubernetes"

end Key

def countRangeKeys : List FieldKey := [plain "min", plain "max"]

def countRange : Data → Converted CountRange :=
  strict "ExpectedRange" countRangeKeys fun e =>
    CountRange.mk <$> field e (plain "min") 0 integer <*> field e (plain "max") 0 integer

def attributeRegexpKey : FieldKey := ⟨"attribute_regexp", "attribute-regexp"⟩

def noExtraKey : FieldKey := ⟨"no_extra_attributes", "no-extra-attributes"⟩

def signalKeys : List FieldKey :=
  [plain "equals", plain "regexp", plain "attributes", attributeRegexpKey, noExtraKey,
    Key.matrixCondition, plain "count", plain "contains"]

def signalFields (e : Entries) : Converted Signal :=
  Signal.mk <$> field e (plain "equals") none (optional text)
    <*> field e (plain "regexp") none (optional text)
    <*> field e (plain "attributes") [] texts
    <*> field e attributeRegexpKey [] texts
    <*> field e noExtraKey false boolean
    <*> field e Key.matrixCondition none (optional text)
    <*> field e (plain "count") none (optional countRange)
    <*> field e (plain "contains") none (optional (listOf text))

def signal : Data → Converted Signal := strict "ExpectedSignal" signalKeys signalFields

def logsKeys : List FieldKey := signalKeys ++ [plain "logql"]

def logs : Data → Converted ExpectedLogs :=
  strict "ExpectedLogs" logsKeys fun e =>
    ExpectedLogs.mk <$> signalFields e <*> field e (plain "logql") "" text

def spanKeys : List FieldKey := [plain "name"]

def span : Data → Converted ExpectedSpan :=
  strict "ExpectedSpan" spanKeys fun e => ExpectedSpan.mk <$> field e (plain "name") "" text

def tracesKeys : List FieldKey := signalKeys ++ [plain "traceql", plain "spans"]

def traces : Data → Converted ExpectedTraces :=
  strict "ExpectedTraces" tracesKeys fun e =>
    ExpectedTraces.mk <$> signalFields e <*> field e (plain "traceql") "" text
      <*> field e (plain "spans") none (optional (listOf span))

def metricsKeys : List FieldKey := [plain "promql", plain "value", Key.matrixCondition]

def metrics : Data → Converted ExpectedMetrics :=
  strict "ExpectedMetrics" metricsKeys fun e =>
    ExpectedMetrics.mk <$> field e (plain "promql") "" text <*> field e (plain "value") "" text
      <*> field e Key.matrixCondition none (optional text)

def flamebearersKeys : List FieldKey := [plain "equals", plain "regexp", plain "contains"]

def flamebearers : Data → Converted Flamebearers :=
  strict "Flamebearers" flamebearersKeys fun e =>
    Flamebearers.mk <$> field e (plain "equals") none (optional text)
      <*> field e (plain "regexp") none (optional text)
      <*> field e (plain "contains") none (optional text)

def profilesKeys : List FieldKey := [plain "query", plain "flamebearers", Key.matrixCondition]

def profiles : Data → Converted ExpectedProfiles :=
  strict "ExpectedProfiles" profilesKeys fun e =>
    ExpectedProfiles.mk <$> field e (plain "query") "" text
      <*> field e (plain "flamebearers") {} flamebearers
      <*> field e Key.matrixCondition none (optional text)

def customCheckKeys : List FieldKey := [plain "script", Key.matrixCondition]

def customCheck : Data → Converted CustomCheck :=
  strict "CustomCheck" customCheckKeys fun e =>
    CustomCheck.mk <$> field e (plain "script") "" text
      <*> field e Key.matrixCondition none (optional text)

def composeLogsKey : FieldKey := ⟨"compose_logs", "compose-logs"⟩

def customChecksKey : FieldKey := ⟨"custom_checks", "custom-checks"⟩

def expectedKeys : List FieldKey :=
  [composeLogsKey, plain "logs", plain "traces", plain "metrics", plain "profiles",
    customChecksKey]

def expected : Data → Converted Expected :=
  strict "Expected" expectedKeys fun e =>
    Expected.mk <$> field e composeLogsKey [] (listOf text)
      <*> field e (plain "logs") [] (listOf logs)
      <*> field e (plain "traces") [] (listOf traces)
      <*> field e (plain "metrics") [] (listOf metrics)
      <*> field e (plain "profiles") [] (listOf profiles)
      <*> field e customChecksKey [] (listOf customCheck)

def dockerComposeKeys : List FieldKey := [plain "files", plain "env"]

def dockerCompose : Data → Converted DockerCompose :=
  strict "DockerCompose" dockerComposeKeys fun e =>
    DockerCompose.mk <$> field e (plain "files") [] (listOf text)
      <*> field e (plain "env") [] (listOf text)

namespace Key

def appService : FieldKey := ⟨"app_service", "app-service"⟩

def appDockerFile : FieldKey := ⟨"app_docker_file", "app-docker-file"⟩

def appDockerContext : FieldKey := ⟨"app_docker_context", "app-docker-context"⟩

def appDockerTag : FieldKey := ⟨"app_docker_tag", "app-docker-tag"⟩

def appDockerPort : FieldKey := ⟨"app_docker_port", "app-docker-port"⟩

def importImages : FieldKey := ⟨"import_images", "import-images"⟩

end Key

def kubernetesKeys : List FieldKey :=
  [plain "dir", Key.appService, Key.appDockerFile, Key.appDockerContext, Key.appDockerTag,
    Key.appDockerPort, Key.importImages]

def kubernetes : Data → Converted Kubernetes :=
  strict "Kubernetes" kubernetesKeys fun e =>
    Kubernetes.mk <$> field e (plain "dir") "" text
      <*> field e Key.appService "" text
      <*> field e Key.appDockerFile "" text
      <*> field e Key.appDockerContext "" text
      <*> field e Key.appDockerTag "" text
      <*> field e Key.appDockerPort 0 integer
      <*> field e Key.importImages [] (listOf text)

def matrixVariantKeys : List FieldKey := [plain "name", Key.dockerCompose, Key.kubernetes]

def matrixVariant : Data → Converted MatrixVariant :=
  strict "MatrixVariant" matrixVariantKeys fun e =>
    MatrixVariant.mk <$> field e (plain "name") "" text
      <*> field e Key.dockerCompose none (optional dockerCompose)
      <*> field e Key.kubernetes none (optional kubernetes)

def inputKeys : List FieldKey :=
  [plain "scheme", plain "host", plain "method", plain "path", plain "headers", plain "body",
    plain "status"]

def input : Data → Converted Input :=
  strict "Input" inputKeys fun e =>
    Input.mk <$> field e (plain "scheme") "" text
      <*> field e (plain "host") "" text
      <*> field e (plain "method") "" text
      <*> field e (plain "path") "" text
      <*> field e (plain "headers") [] texts
      <*> field e (plain "body") "" text
      <*> field e (plain "status") "" text

def definitionKeys : List FieldKey :=
  [plain "include", Key.dockerCompose, Key.kubernetes, plain "matrix", plain "input",
    plain "interval", plain "expected"]

def definition : Data → Converted Definition :=
  strict "TestCaseDefinition" definitionKeys fun e =>
    Definition.mk <$> field e (plain "include") [] (listOf text)
      <*> field e Key.dockerCompose none (optional dockerCompose)
      <*> field e Key.kubernetes none (optional kubernetes)
      <*> field e (plain "matrix") [] (listOf matrixVariant)
      <*> field e (plain "input") [] (listOf input)
      <*> field e (plain "interval") none interval
      <*> field e (plain "expected") {} expected

def port : Data → Converted Nat := bounded 1 65535

def ports : Data → Converted Ports :=
  loose "PortConfig" fun e =>
    Ports.mk <$> field e (plain "application_port") 8080 port
      <*> field e (plain "grafana_http_port") 3000 port
      <*> field e (plain "prometheus_http_port") 9090 port
      <*> field e (plain "loki_http_port") 3100 port
      <*> field e (plain "tempo_http_port") 3200 port
      <*> field e (plain "pyroscope_http_port") 4040 port

/-- Ports that hosts can have. -/
def checkedPorts (p : Ports) : Converted Ports :=
  ports <| .record
    [(.text "application_port", .int p.application), (.text "grafana_http_port", .int p.grafana),
      (.text "prometheus_http_port", .int p.prometheus), (.text "loki_http_port", .int p.loki),
      (.text "tempo_http_port", .int p.tempo), (.text "pyroscope_http_port", .int p.pyroscope)]

end Conversion
end TelemetryCheck
