import BucketPlan.Proofs.Indices

namespace BucketPlan

namespace Log

variable {log other : Log} {findings : List Finding} {path : String}

/-- A log is consulted at the paths of absences only. -/
theorem reports_congr
    (same : ∀ v, .absence v ∈ findings → log.hasErrorAt v.path = other.hasErrorAt v.path) :
    log.reports findings = other.reports findings := by
  induction findings generalizing log other with
  | nil => rfl
  | cons finding rest ih =>
    have later : ∀ v, .absence v ∈ rest → log.hasErrorAt v.path = other.hasErrorAt v.path :=
      fun v asked => same v (List.mem_cons_of_mem _ asked)
    have extended (w : Violation) : reports (log ++ [w]) rest = reports (other ++ [w]) rest := by
      refine ih fun v asked => ?_
      have known := later v asked
      rw [hasErrorAt, hasErrorAt] at known
      rw [hasErrorAt, hasErrorAt, List.any_append, List.any_append, known]
    cases finding with
    | violation v => rw [reports, reports, extended]
    | absence v => rw [reports, reports, same v List.mem_cons_self, extended, ih later]

/-- What findings add to a log is reported by findings, each of them at most once and in their order. -/
theorem reports_sublist (log : Log) (findings : List Finding) :
    (log.reports findings).Sublist (findings.map Finding.reported) := by
  induction findings generalizing log with
  | nil => exact .slnil
  | cons finding rest ih =>
    cases finding with
    | violation v => exact (ih _).cons_cons v
    | absence v =>
      rw [reports]
      split
      · exact (ih log).cons v
      · exact (ih _).cons_cons v

/-- Findings at other paths make no error stand at a path. -/
theorem hasErrorAt_record (elsewhere : ReportsOnly (fun v => v.path ≠ path) findings) :
    (log.record findings).hasErrorAt path = log.hasErrorAt path := by
  have silent : Log.hasErrorAt (log.reports findings) path = false := by
    rw [hasErrorAt, List.any_eq_false]
    intro v added
    obtain ⟨finding, found, rfl⟩ := List.mem_map.mp ((log.reports_sublist findings).subset added)
    simp [elsewhere finding found]
  rw [hasErrorAt] at silent
  rw [hasErrorAt, record_eq_append, List.any_append, silent, Bool.or_false]
  rfl

end Log

theorem Violation.head_segments_path {v : Violation} (given : (segments v.area).head?.isSome = true) :
    (segments v.path).head? = (segments v.area).head? := by
  obtain ⟨first, ahead⟩ := Option.isSome_iff_exists.mp given
  rw [segments_path, parts, List.append_assoc, List.head?_append, ahead, Option.some_or]

/-- Versioning is insisted on, and not merely found missing. -/
theorem ObjectLock.absence_findings {lock : Option ObjectLock} {enabled versioning : Option Bool}
    {v : Violation} (asked : .absence v ∈ findings lock enabled versioning) :
    v.area = "object_lock" := by
  cases lock with
  | none => simp [findings, Scope.error] at asked
  | some lock =>
    cases kept : lock.retention with
    | none => simp [findings, Scope.error, kept] at asked
    | some retention =>
      have within : .absence v ∈ retention.findings lock.token.isSome := by
        simpa [findings, Scope.error, kept] using asked
      have only : InAreas ["object_lock"] (retention.findings lock.token.isSome) :=
        Retention.inAreas_findings List.mem_cons_self
      exact List.mem_singleton.mp (only _ within)

theorem Replication.absence_findings {replication : Replication} {versioning : Option Bool}
    {encryption : Option Encryption} {v : Violation}
    (asked : .absence v ∈ replication.findings versioning encryption) :
    v.area ∈ ["replication", "replication.rules"] := by
  -- Without the demand for versioning the checks are those of a description that leaves it open.
  have unasked : .absence v ∈ replication.findings none encryption := by
    simpa [findings, Scope.error] using asked
  have only : InAreas ["replication", "replication.rules"] (replication.findings none encryption) := by
    simp only [findings, reportsOnly_append, reportsOnly_flatMap]
    refine ⟨⟨⟨Scope.inAreas_require (by decide), Scope.inAreas_require (by decide)⟩, reportsOnly_nil⟩, ?_⟩
    exact fun _ _ => ReplicationRule.inAreas_findings (List.mem_cons_of_mem _ List.mem_cons_self)
  exact only _ unasked

namespace Concern

/-- Only versioning is reported on by two concerns. -/
theorem areas_disjoint {first second : Concern} (different : first ≠ second) :
    ∀ area ∈ first.areas, area ≠ "versioning_enabled" → ∀ other ∈ second.areas,
      (segments other).head? ≠ (segments area).head? := by
  have all : ∀ first ∈ all, ∀ second ∈ all, first ≠ second →
      ∀ area ∈ first.areas, area ≠ "versioning_enabled" → ∀ other ∈ second.areas,
        (segments other).head? ≠ (segments area).head? := by decide +kernel
  exact all first first.mem_all second second.mem_all different

end Concern

namespace Descriptor

variable {d : Descriptor} {first second : Concern}

theorem absence_findings {concern : Concern} {v : Violation}
    (asked : .absence v ∈ d.findings concern) : v.area ≠ "versioning_enabled" := by
  have known := d.inAreas_findings concern _ asked
  cases concern with
  | objectLock =>
    rw [ObjectLock.absence_findings asked]
    decide
  | replication =>
    obtain ⟨replication, _, asked⟩ := List.mem_flatMap.mp asked
    have only := Replication.absence_findings asked
    rintro same
    rw [same] at only
    revert only
    decide
  | _ =>
    rintro same
    rw [Finding.reported, same] at known
    revert known
    decide

/-- No concern reports at the path of what another one finds missing, whatever the names in the
description look like: the paths differ in their first segment. -/
theorem path_ne_of_absence (different : first ≠ second) {v : Violation}
    (asked : .absence v ∈ d.findings second) :
    ReportsOnly (fun w => w.path ≠ v.path) (d.findings first) := by
  intro finding found same
  have area := d.inAreas_findings first finding found
  have other := d.inAreas_findings second _ asked
  have head := Violation.head_segments_path (first.head_segments _ area).1
  have head' := Violation.head_segments_path (second.head_segments _ other).1
  rw [same] at head
  exact Concern.areas_disjoint different.symm _ other (absence_findings asked) _ area
    (head.symm.trans head')

/-- What one concern adds is not changed by another one that is checked before. -/
theorem reports_record (different : first ≠ second) (log : Log) :
    (log.record (d.findings first)).reports (d.findings second) = log.reports (d.findings second) :=
  Log.reports_congr fun _ asked => Log.hasErrorAt_record (path_ne_of_absence different asked)

/-- Concerns checked one after the other, none of them twice, add each what it would add alone. -/
theorem record_inTurn (d : Descriptor) (log : Log) {order : List Concern} (once : order.Nodup) :
    order.foldl (fun running concern => running.record (d.findings concern)) log =
      log ++ order.flatMap fun concern => log.reports (d.findings concern) := by
  induction order generalizing log with
  | nil => simp
  | cons concern rest ih =>
    obtain ⟨new, others⟩ := List.nodup_cons.mp once
    have unchanged : ∀ other ∈ rest, (log.record (d.findings concern)).reports (d.findings other) =
        log.reports (d.findings other) :=
      fun other later => reports_record (ne_of_mem_of_not_mem later new).symm log
    rw [List.foldl_cons, ih _ others, List.flatMap_congr unchanged, Log.record_eq_append,
      List.append_assoc, List.flatMap_cons]

theorem record_allFindings (d : Descriptor) (log : Log) : log.record d.allFindings =
    Concern.all.foldl (fun running concern => running.record (d.findings concern)) log := by
  rw [allFindings, Log.record, List.foldl_flatMap]
  rfl

/-- The checks do not interfere. In whatever order the concerns are checked, on whatever log, each of
them adds exactly what it would add to that log alone. -/
theorem checks_independent (d : Descriptor) (log : Log) {order : List Concern}
    (complete : order.Perm Concern.all) :
    ∃ alone : Concern → List Violation,
      (∀ concern, log.record (d.findings concern) = log ++ alone concern) ∧
      order.foldl (fun running concern => running.record (d.findings concern)) log =
        log ++ order.flatMap alone ∧
      (order.flatMap alone).Perm (Concern.all.flatMap alone) ∧
      log.record d.allFindings = log ++ Concern.all.flatMap alone := by
  have once : Concern.all.Nodup := by decide
  refine ⟨fun concern => log.reports (d.findings concern), ?_, ?_, ?_, ?_⟩
  · exact fun concern => log.record_eq_append (d.findings concern)
  · exact d.record_inTurn log (complete.nodup_iff.mpr once)
  · exact complete.flatMap_right _
  · rw [record_allFindings, d.record_inTurn log once]

/-- Copies whose first rule has no name, so that its paths are those of the replication as a whole. -/
def namelessCopies : Descriptor where
  name := some ""
  tags := .ofList [("replication.rules", "")]
  versioning := some false
  lockEnabled := some true
  replication := some { rules := .ofList [("", {}), ("replication.rules", {})] }
  website := some {}

/-- An error that stands where the first rule of the copies would be asked for its priority. -/
def misplacedPriority : Log :=
  [⟨"replication", "", "rules.priority", .outOfRange, "expected an integer, got str", .error⟩]

theorem namelessCopies_independent :
    Concern.all.reverse.Perm Concern.all ∧
    ∃ alone : Concern → List Violation,
      (∀ concern, misplacedPriority.record (namelessCopies.findings concern) =
        misplacedPriority ++ alone concern) ∧
      Concern.all.reverse.foldl (fun running concern => running.record (namelessCopies.findings concern))
          misplacedPriority = misplacedPriority ++ Concern.all.reverse.flatMap alone ∧
      (alone .replication).length = 5 := by
  obtain ⟨alone, each, reversed, _, _⟩ :=
    namelessCopies.checks_independent misplacedPriority Concern.all.reverse_perm
  refine ⟨Concern.all.reverse_perm, alone, each, reversed, ?_⟩
  have total := congrArg List.length (each .replication)
  have recorded : (misplacedPriority.record (namelessCopies.findings .replication)).length = 6 := by
    decide +kernel
  rw [recorded, List.length_append] at total
  exact (Nat.add_left_cancel total).symm

end Descriptor

end BucketPlan
