import Mathlib.Algebra.BigOperators.Group.List.Lemmas
import Mathlib.Algebra.GroupWithZero.Nat
import Mathlib.Data.List.Count
import Mathlib.Data.List.Dedup
import BucketPlan.Proofs.Rendered.Destinations
import BucketPlan.Proofs.Course
import BucketPlan.Run.Count

namespace BucketPlan

/-- What counters show for a series. One that nothing was added to shows nothing. -/
def reading (counters : List (Series × Nat)) (series : Series) : Nat :=
  (counters.lookup series).getD 0

/-- The sum of the counters of a name, whatever their labels are. -/
def readingOfAll (counters : List (Series × Nat)) (name : String) : Nat :=
  ((counters.filter fun counter => counter.1.name == name).map Prod.snd).sum

theorem reading_tally (counts : List Series) (series : Series) :
    reading (tally counts) series = counts.count series := by
  rw [reading, tally]
  by_cases counted : series ∈ counts
  · rw [List.lookup_graph _ (List.mem_eraseDups.mpr counted), Option.getD_some]
  · have absent : (counts.eraseDups.map fun series => (series, counts.count series)).lookup series =
        none := by
      refine List.lookup_eq_none_iff.mpr fun counter member => ?_
      obtain ⟨other, among, rfl⟩ := List.mem_map.mp member
      refine bne_iff_ne.mpr fun same => counted ?_
      rw [same]
      exact List.mem_eraseDups.mp among
    rw [absent, Option.getD_none, List.count_eq_zero_of_not_mem counted]

theorem eraseDups_perm_dedup {α : Type} [DecidableEq α] (items : List α) :
    items.eraseDups.Perm items.dedup := by
  have distinct : items.eraseDups.Nodup := by
    refine (pairwise_idxOf_eraseDups items).imp fun earlier same => ?_
    rw [same] at earlier
    exact Nat.lt_irrefl _ earlier
  refine (List.perm_ext_iff_of_nodup distinct items.nodup_dedup).mpr fun item => ?_
  rw [List.mem_eraseDups, List.mem_dedup]

theorem readingOfAll_tally (counts : List Series) (name : String) :
    readingOfAll (tally counts) name = counts.countP fun series => series.name == name := by
  rw [readingOfAll, tally, List.filter_map, List.map_map,
    ← List.sum_map_count_dedup_filter_eq_countP]
  exact (((eraseDups_perm_dedup counts).filter _).map _).sum_eq

namespace Series

/-- Whether a failure is counted, of whatever category and in whatever state. -/
def isFailure (series : Series) : Bool :=
  series.name == "error_total"

@[simp]
theorem compiled_name (ok : Bool) : (compiled ok).name = "compile_total" := rfl

@[simp]
theorem timed_name : timed.name = "compile_duration_seconds_count" := rfl

@[simp]
theorem stageTimed_name (stage : Stage) : (stageTimed stage).name = "stage_duration_seconds_count" :=
  rfl

@[simp]
theorem violation_name (code : Code) (severity : Severity) :
    (violation code severity).name = "violations_total" := rfl

@[simp]
theorem failure_name (category stage : String) : (failure category stage).name = "error_total" := rfl

theorem stageTimed_injective : Function.Injective stageTimed := by
  intro stage other same
  cases stage <;> cases other <;> revert same <;> decide

theorem violation_inj {code otherCode : Code} {severity otherSeverity : Severity} :
    violation code severity = violation otherCode otherSeverity ↔
      code = otherCode ∧ severity = otherSeverity := by
  constructor
  · cases code <;> cases otherCode <;> cases severity <;> cases otherSeverity <;> decide
  · rintro ⟨rfl, rfl⟩
    rfl

/-- A series does not count among series of other names. -/
theorem count_map_of_ne {α : Type} {series : Series} {make : α → Series}
    (apart : ∀ a, (make a).name ≠ series.name) (items : List α) : (items.map make).count series = 0 := by
  refine List.count_eq_zero.mpr fun member => ?_
  obtain ⟨item, _, same⟩ := List.mem_map.mp member
  exact apart item (congrArg Series.name same)

theorem count_map_violation (violations : List Violation) (code : Code) (severity : Severity) :
    (violations.map fun v => violation v.code v.severity).count (violation code severity) =
      violations.countP fun v => v.code = code ∧ v.severity = severity := by
  rw [List.count, List.countP_map]
  refine List.countP_congr fun v _ => ?_
  simp [violation_inj]

end Series

/-- What the runs that came to an end have returned. -/
def results (runs : List Run) : List Result :=
  runs.filterMap fun run => run.outcome.toOption

theorem results_append (runs later : List Run) :
    results (runs ++ later) = results runs ++ results later :=
  List.filterMap_append

/-- Counts that account for runs: each run for a verdict or for a failure, each verdict for a result,
each violation for one of a result, and each stage for the runs that have been through it. -/
structure AccountsFor (counts : List Series) (runs : List Run) : Prop where
  ends : counts.count (.compiled true) + counts.count (.compiled false) +
    counts.countP Series.isFailure = runs.length
  timed : counts.count .timed = counts.count (.compiled true) + counts.count (.compiled false)
  verdicts : ∀ ok, counts.count (.compiled ok) =
    (results runs).countP fun result => result.state = if ok then .bundled else .rejected
  violations : ∀ code severity, counts.count (.violation code severity) =
    ((results runs).flatMap Result.violations).countP fun v => v.code = code ∧ v.severity = severity
  stages : ∀ stage, counts.count (.stageTimed stage) =
    if stage = .validate then runs.length else runs.countP fun run => .defaulting ∈ run.after.history

namespace AccountsFor

theorem nil : AccountsFor [] [] := by
  refine ⟨rfl, rfl, fun _ => rfl, fun _ _ => rfl, fun _ => ?_⟩
  split <;> rfl

variable {counts more : List Series} {runs later : List Run}

theorem append (first : AccountsFor counts runs) (second : AccountsFor more later) :
    AccountsFor (counts ++ more) (runs ++ later) where
  ends := by
    have own := first.ends
    have other := second.ends
    simp only [List.count_append, List.countP_append, List.length_append]
    omega
  timed := by
    have own := first.timed
    have other := second.timed
    simp only [List.count_append]
    omega
  verdicts ok := by
    rw [List.count_append, first.verdicts, second.verdicts, results_append, List.countP_append]
  violations code severity := by
    rw [List.count_append, first.violations, second.violations, results_append, List.flatMap_append,
      List.countP_append]
  stages stage := by
    rw [List.count_append, first.stages, second.stages, List.length_append, List.countP_append]
    split <;> rfl

end AccountsFor

namespace Compilation

theorem count_stagesOf (states : List State) (stage : Stage) :
    (stagesOf states).count stage =
      if stage = .validate then 1 else if .defaulting ∈ states then 1 else 0 := by
  rw [stagesOf]
  by_cases passed : State.defaulting ∈ states
  · simp only [if_pos passed]
    cases stage <;> rfl
  · simp only [if_neg passed]
    cases stage <;> rfl

end Compilation

namespace Run

/-- What a run counts for besides its stages. -/
def endCounts (run : Run) : List Series :=
  match run.outcome with
  | .ok result => [.timed, .compiled result.isOk] ++
      result.violations.map fun v => Series.violation v.code v.severity
  | .error fault => [.failure fault.category run.after.state.name]

variable {run : Run}

theorem counts_eq (run : Run) : run.counts = run.completed.map .stageTimed ++ run.endCounts := rfl

theorem count_stages (completed : run.completed = Compilation.stagesOf run.after.history)
    (apart : ∀ stage, .stageTimed stage ∉ run.endCounts) (stage : Stage) :
    run.counts.count (.stageTimed stage) =
      if stage = .validate then 1 else [run].countP fun run => .defaulting ∈ run.after.history := by
  rw [counts_eq, List.count_append, List.count_eq_zero.mpr (apart stage),
    List.count_map_of_injective _ _ Series.stageTimed_injective, completed, Compilation.count_stagesOf]
  simp [List.countP_singleton]

/-- A stage does not count for anything else. -/
theorem count_counts {series : Series} (apart : "stage_duration_seconds_count" ≠ series.name) :
    run.counts.count series = run.endCounts.count series := by
  rw [counts_eq, List.count_append, Series.count_map_of_ne fun _ => apart, Nat.zero_add]

theorem countP_counts :
    run.counts.countP Series.isFailure = run.endCounts.countP Series.isFailure := by
  have none : (run.completed.map Series.stageTimed).countP Series.isFailure = 0 := by
    simp [List.countP_eq_zero, Series.isFailure]
  rw [counts_eq, List.countP_append, none, Nat.zero_add]

theorem accountsFor_failed (completed : run.completed = Compilation.stagesOf run.after.history)
    {fault : Fault} (failed : run.outcome = .error fault) : AccountsFor run.counts [run] := by
  have unanswered : results [run] = [] := by simp [results, failed, Except.toOption]
  have counted : run.endCounts = [.failure fault.category run.after.state.name] := by
    rw [endCounts, failed]
  have others {series : Series} (apart : "error_total" ≠ series.name) :
      run.endCounts.count series = 0 := by
    rw [counted]
    exact List.count_eq_zero.mpr fun member =>
      apart (congrArg Series.name (List.mem_singleton.mp member)).symm
  refine ⟨?_, ?_, fun ok => ?_, fun code severity => ?_, ?_⟩
  · rw [count_counts (by simp), count_counts (by simp), others (by simp), others (by simp),
      countP_counts, counted]
    rfl
  · rw [count_counts (by simp), count_counts (by simp), count_counts (by simp), others (by simp),
      others (by simp), others (by simp)]
  · rw [count_counts (by simp), others (by simp), unanswered]
    rfl
  · rw [count_counts (by simp), others (by simp), unanswered]
    rfl
  · exact count_stages completed fun stage => List.count_eq_zero.mp (others (by simp))

theorem accountsFor_returned (completed : run.completed = Compilation.stagesOf run.after.history)
    {result : Result} (returned : run.outcome = .ok result)
    (final : result.state = .bundled ∨ result.state = .rejected) : AccountsFor run.counts [run] := by
  have answered : results [run] = [result] := by simp [results, returned, Except.toOption]
  have counted : run.endCounts = [.timed, .compiled result.isOk] ++
      result.violations.map fun v => Series.violation v.code v.severity := by
    rw [endCounts, returned]
  -- the violations count for their own family only, so the rest is the verdict's
  have others {series : Series} (apart : "violations_total" ≠ series.name) :
      run.endCounts.count series = [Series.timed, Series.compiled result.isOk].count series := by
    rw [counted, List.count_append, Series.count_map_of_ne fun _ => apart, Nat.add_zero]
  have failures : run.endCounts.countP Series.isFailure = 0 := by
    simp [counted, List.countP_eq_zero, Series.isFailure]
  refine ⟨?_, ?_, fun ok => ?_, fun code severity => ?_, ?_⟩
  · rw [count_counts (by simp), count_counts (by simp), others (by simp), others (by simp),
      countP_counts, failures]
    cases result.isOk <;> rfl
  · rw [count_counts (by simp), count_counts (by simp), count_counts (by simp), others (by simp),
      others (by simp), others (by simp)]
    cases result.isOk <;> rfl
  · rw [count_counts (by simp), others (by simp), answered, List.countP_singleton, Result.isOk]
    rcases final with bundled | rejected
    · rw [bundled]
      cases ok <;> rfl
    · rw [rejected]
      cases ok <;> rfl
  · have verdict : [Series.timed, Series.compiled result.isOk].count (.violation code severity) = 0 := by
      cases result.isOk <;> rfl
    rw [count_counts (by simp), counted, List.count_append, verdict, Series.count_map_violation,
      answered, List.flatMap_singleton, Nat.zero_add]
  · refine count_stages completed fun stage => List.count_eq_zero.mp ?_
    rw [others (by simp)]
    cases result.isOk <;> cases stage <;> rfl

/-- What one run adds to the counters accounts for it. -/
theorem accountsFor_compile (value : Value) (options : Options) :
    AccountsFor (compile value options).counts [compile value options] := by
  obtain ⟨plan, states, course, ends⟩ :=
    Compilation.run_ends (Compilation.isFresh_ofValue value options)
  have completed : (compile value options).completed =
      Compilation.stagesOf (compile value options).after.history := by
    rw [completed, compile, ends.finished, ends.history, ends.stages]
    rfl
  cases outcome : (compile value options).outcome with
  | error fault => exact accountsFor_failed completed outcome
  | ok result =>
    refine accountsFor_returned completed outcome ?_
    obtain ⟨_, plan, _, _, _, rfl⟩ :=
      Compilation.course_of_returned (Compilation.isFresh_ofValue value options) outcome
    cases plan with
    | none => exact Or.inr rfl
    | some plan => exact Or.inl rfl

end Run

/-- What runs one after the other add to the counters accounts for all of them. -/
theorem accountsFor_calls (calls : List (Value × Options)) :
    AccountsFor ((calls.map fun call => compile call.1 call.2).flatMap Run.counts)
      (calls.map fun call => compile call.1 call.2) := by
  -- accounts add up, so each call only has to account for itself
  induction calls with
  | nil => exact .nil
  | cons call rest ih => exact (Run.accountsFor_compile call.1 call.2).append ih

/-- Counters conserve compilations. Whatever is compiled in a row from counters at zero, each call
counts once for a verdict or for a failure, the verdicts and their durations are those of the results
returned, the violations are those of the results by code and severity, and each stage counts the
calls that have been through it: the checks all of them, every other stage those that the checks let
pass. -/
theorem counters_conserve (calls : List (Value × Options)) :
    let runs := calls.map fun call => compile call.1 call.2
    let shown := reading (tally (runs.flatMap Run.counts))
    shown (.compiled true) + shown (.compiled false) +
        readingOfAll (tally (runs.flatMap Run.counts)) "error_total" = calls.length ∧
      shown (.compiled true) = (results runs).countP (fun result => result.state = .bundled) ∧
      shown (.compiled false) = (results runs).countP (fun result => result.state = .rejected) ∧
      shown .timed = shown (.compiled true) + shown (.compiled false) ∧
      (∀ code severity, shown (.violation code severity) =
        ((results runs).flatMap Result.violations).countP fun v =>
          v.code = code ∧ v.severity = severity) ∧
      ∀ stage, shown (.stageTimed stage) =
        if stage = .validate then calls.length
        else runs.countP fun run => .defaulting ∈ run.after.history := by
  intro runs shown
  have accounts : AccountsFor (runs.flatMap Run.counts) runs := accountsFor_calls calls
  have counted (series : Series) : shown series = (runs.flatMap Run.counts).count series :=
    reading_tally _ series
  have length : runs.length = calls.length := List.length_map _
  simp only [counted, readingOfAll_tally, ← length]
  exact ⟨accounts.ends, accounts.verdicts true, accounts.verdicts false, accounts.timed,
    accounts.violations, accounts.stages⟩

end BucketPlan
