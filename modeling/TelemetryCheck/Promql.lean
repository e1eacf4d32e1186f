namespace TelemetryCheck
namespace Promql

/-- The text with `new` for every occurrence of `old`, from the left. -/
def replaceAll (old new : List Char) : List Char → List Char
  | [] => []
  | c :: rest =>
    if old.isPrefixOf (c :: rest) then new ++ replaceAll old new (rest.drop (old.length - 1))
    else c :: replaceAll old new rest
termination_by cs => cs.length
decreasing_by
  · simp only [List.length_drop, List.length_cons]; omega
  · simp

def variableNames : List String := ["$job", "$instance", "$pod", "$namespace", "$container"]

def wildcard : String := ".*"

def replaceVariables (promql : String) : String :=
  String.ofList <| variableNames.foldl
    (fun text v => replaceAll v.toList wildcard.toList text) promql.toList

end Promql
end TelemetryCheck
