import BucketPlan.Run.Compilation

namespace BucketPlan

/-- What is counted: a name with labels in the order of their names. -/
structure Series where
  name : String
  labels : List (String × String) := []
deriving DecidableEq, Repr

namespace Series

def text (series : Series) : String :=
  series.name ++ "\x7b" ++
    ",".intercalate (series.labels.map fun (name, value) => name ++ "=" ++ value) ++ "\x7d"

def compiled (ok : Bool) : Series :=
  ⟨"compile_total", [("result", if ok then "bundled" else "rejected")]⟩

def timed : Series := ⟨"compile_duration_seconds_count", []⟩

def stageTimed (stage : Stage) : Series :=
  ⟨"stage_duration_seconds_count", [("stage", stage.name)]⟩

def violation (code : Code) (severity : Severity) : Series :=
  ⟨"violations_total", [("code", code.name), ("severity", severity.name)]⟩

def failure (category stage : String) : Series :=
  ⟨"error_total", [("error_type", category), ("stage", stage)]⟩

end Series

/-- What a run adds to the counters, one item for each unit. -/
def Run.counts (run : Run) : List Series :=
  run.completed.map Series.stageTimed ++
  match run.outcome with
  | .ok result =>
    [Series.timed, Series.compiled result.isOk] ++
      result.violations.map fun v => Series.violation v.code v.severity
  | .error fault => [Series.failure fault.category run.after.state.name]

/-- Counters as sums of what runs have added. -/
def tally (counts : List Series) : List (Series × Nat) :=
  counts.eraseDups.map fun series => (series, counts.count series)

end BucketPlan
