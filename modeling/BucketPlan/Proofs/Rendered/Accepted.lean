import BucketPlan.Proofs.Arranged.Planning
import BucketPlan.Proofs.Course
import BucketPlan.Proofs.Requests
import BucketPlan.Proofs.Valid.Descriptor

namespace BucketPlan

/-- The way from a description to the plan it is accepted with: neither its checks nor the planning of
its rules have anything against it, and the plan is the one that is made of it. -/
structure Descriptor.Yields (d : Descriptor) (options : Options) (plan : Plan) : Prop where
  checks : Passes d.allFindings
  planning : Passes (d.resolve.ruleFindings options)
  made : ∃ replication, d.resolve.replicationPlan = .ok replication ∧
    d.resolve.plan (d.resolve.rulePlans replication) = .ok plan

theorem Compilation.Course.yields {c : Compilation} {log : Log} {plan : Plan} {states : List State}
    (course : c.Course log (some plan) states) : c.descriptor.Yields c.options plan := by
  obtain ⟨checks, made⟩ := course.made
  cases course with
  | complete _ accepted =>
    have planning := (Log.hasErrors_record_eq_false _ _).mp (Log.hasErrors_of_not_rejects accepted)
    exact ⟨checks, planning.2, made⟩

/-- What is compiled to its end has been accepted with the plan of the result. -/
theorem compile_yields {value : Value} {options : Options} {result : Result}
    (returned : (compile value options).outcome = .ok result) (bundled : result.state = .bundled) :
    ∃ plan, result.plan = some plan ∧ (Descriptor.ofValue value).Yields options plan := by
  obtain ⟨log, plan, states, course, _, rfl⟩ := Compilation.course_of_returned ⟨rfl, rfl⟩ returned
  obtain ⟨p, rfl⟩ := Option.isSome_iff_exists.mp (Compilation.verdict_bundled.mp bundled)
  exact ⟨p, rfl, course.yields⟩

theorem compile_yields_of_plan {value : Value} {options : Options} {result : Result} {plan : Plan}
    (returned : (compile value options).outcome = .ok result) (produced : result.plan = some plan) :
    (Descriptor.ofValue value).Yields options plan := by
  obtain ⟨log, planned, states, course, _, rfl⟩ := Compilation.course_of_returned ⟨rfl, rfl⟩ returned
  obtain rfl : planned = some plan := produced
  exact course.yields

theorem compile_returns_bundled {value : Value} {options : Options}
    (complete : (compile value options).outcome.toOption.map Result.state = some .bundled) :
    ∃ result, (compile value options).outcome = .ok result ∧ result.state = .bundled := by
  obtain ⟨result, found, bundled⟩ := Option.map_eq_some_iff.mp complete
  exact ⟨result, eq_ok_of_toOption found, bundled⟩

namespace Descriptor.Yields

variable {d : Descriptor} {options : Options} {plan : Plan}

theorem isValid (yields : d.Yields options plan) : d.IsValid :=
  passes_allFindings.mp yields.checks

theorem isSettled (yields : d.Yields options plan) : d.resolve.IsSettled :=
  isSettled_resolve yields.checks yields.planning

theorem requests_return (yields : d.Yields options plan) (minutes : Int) :
    ∃ requests, plan.requests minutes = .ok requests := by
  obtain ⟨replication, _, made⟩ := yields.made
  exact Descriptor.requests_return made (legal_of_passes yields.planning) minutes

theorem objectLock_eq (yields : d.Yields options plan) :
    plan.objectLock = ObjectLock.plan d.objectLock (d.lockEnabled.getD false) := by
  obtain ⟨replication, _, made⟩ := yields.made
  obtain ⟨website, _, ended⟩ := steps_of_bind_ok made
  cases ended
  simp [resolve]

theorem encryption_eq (yields : d.Yields options plan) :
    plan.encryption = Encryption.plan d.encryption := by
  obtain ⟨replication, _, made⟩ := yields.made
  obtain ⟨website, _, ended⟩ := steps_of_bind_ok made
  cases ended
  rfl

theorem replication_eq (yields : d.Yields options plan) {replication : Replication}
    (given : replication ∈ d.replication) :
    ∃ planned, replication.resolve.plan = .ok planned ∧ plan.replication = some planned := by
  obtain ⟨rules, planned, made⟩ := yields.made
  have own : d.resolve.replication = some replication.resolve := by
    rw [resolve, Option.mem_def.mp given, Option.map_some]
  have followed : plan.replication = rules := by
    obtain ⟨website, _, ended⟩ := steps_of_bind_ok made
    cases ended
    rfl
  simp only [replicationPlan, own] at planned
  cases outcome : replication.resolve.plan with
  | error fault =>
    rw [outcome] at planned
    cases planned
  | ok result =>
    rw [outcome] at planned
    cases planned
    exact ⟨result, rfl, followed⟩

theorem notifications_eq (yields : d.Yields options plan) :
    plan.notifications = d.notifications.map fun notifications => notifications.resolve.plan := by
  obtain ⟨replication, _, made⟩ := yields.made
  obtain ⟨website, _, ended⟩ := steps_of_bind_ok made
  cases ended
  exact Option.map_map _ _ _

end Descriptor.Yields

end BucketPlan
