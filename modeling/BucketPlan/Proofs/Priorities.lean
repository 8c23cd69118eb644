import BucketPlan.Proofs.Arranged.Planning
import BucketPlan.Proofs.Filter
import BucketPlan.Proofs.Rendered.Destinations

namespace BucketPlan

theorem flatMap_ite_eq_map_filter {α β : Type} {items : List α} {picked : α → Prop}
    [DecidablePred picked] {f : α → β} :
    (items.flatMap fun item => if picked item then [f item] else []) =
      (items.filter fun item => picked item).map f := by
  induction items with
  | nil => rfl
  | cons item rest ih =>
    by_cases own : picked item
    · simp [own, ih]
    · simp [own, ih]

/-- Violations that are reported in any case stand in the log one after the other. -/
theorem Log.record_map_violation (log violations : Log) :
    log.record (violations.map Finding.violation) = log ++ violations := by
  have direct : ∀ finding ∈ violations.map Finding.violation, finding.IsDirect := by
    intro finding member
    obtain ⟨v, _, rfl⟩ := List.mem_map.mp member
    rfl
  rw [record_eq_append, reports_of_direct direct, List.map_map]
  exact congrArg (log ++ ·) (List.map_id violations)

namespace Replication

variable {rules : Keyed ReplicationRule} {priority : Int}

/-- The priorities that rules have set, rule by rule. -/
def setPriorities (rules : Keyed ReplicationRule) : List Int :=
  rules.values.filterMap ReplicationRule.priority

/-- A violation that reports a priority: it names all rules that have it, each once and in their order,
of which there are several, and it stands at the first of them. -/
def ReportsPriority (rules : Keyed ReplicationRule) (priority : Int) (v : Violation) : Prop :=
  ∃ first second others, (first :: second :: others).Sublist rules.names ∧
    (∀ name, name ∈ first :: second :: others ↔
      ∃ rule, (name, rule) ∈ rules.entries ∧ rule.priority = some priority) ∧
    v = { area := "replication.rules", rule := first, field := "priority", code := .duplicateKey
          message := s!"priority {priority} is used by more than one rule: " ++
            ", ".intercalate ((first :: second :: others).map quoted) }

theorem holders_sublist (rules : Keyed ReplicationRule) (priority : Int) :
    (holders rules.entries priority).Sublist rules.names :=
  List.filter_sublist.map Prod.fst

theorem mem_holders {name : String} :
    name ∈ holders rules.entries priority ↔
      ∃ rule, (name, rule) ∈ rules.entries ∧ rule.priority = some priority := by
  simp [holders]

/-- The priorities that several rules have, by the first of these rules. -/
def sharedPriorities (rules : Keyed ReplicationRule) : List Int :=
  (priorities rules.entries).filter fun priority => 2 ≤ (holders rules.entries priority).length

theorem mem_sharedPriorities :
    priority ∈ sharedPriorities rules ↔ 2 ≤ (setPriorities rules).count priority := by
  rw [sharedPriorities, List.mem_filter, decide_eq_true_eq, length_holders, priorities_entries,
    List.mem_eraseDups]
  refine and_iff_right_of_imp fun several => ?_
  have positive : 0 < (setPriorities rules).count priority := by
    rw [setPriorities]
    omega
  exact List.count_pos_iff.mp positive

theorem sharedPriorities_ordered (rules : Keyed ReplicationRule) :
    (sharedPriorities rules).Pairwise fun p q =>
      (setPriorities rules).idxOf p < (setPriorities rules).idxOf q := by
  rw [sharedPriorities, priorities_entries]
  exact (pairwise_idxOf_eraseDups (setPriorities rules)).filter _

theorem sharedPriorities_eq_nil_iff :
    sharedPriorities rules = [] ↔ (setPriorities rules).Nodup := by
  rw [List.nodup_iff_count_le_one, List.eq_nil_iff_forall_not_mem]
  refine forall_congr' fun priority => ?_
  rw [mem_sharedPriorities]
  omega

/-- The report of a priority with all rules that have it. -/
def sharingViolation (rules : Keyed ReplicationRule) (priority : Int) : Violation where
  area := "replication.rules"
  rule := (holders rules.entries priority).headD ""
  field := "priority"
  code := .duplicateKey
  message := s!"priority {priority} is used by more than one rule: " ++
    ", ".intercalate ((holders rules.entries priority).map quoted)

theorem priorityFindings_eq_map (rules : Keyed ReplicationRule) :
    priorityFindings rules =
      ((sharedPriorities rules).map (sharingViolation rules)).map Finding.violation := by
  rw [List.map_map, sharedPriorities, ← flatMap_ite_eq_map_filter, priorityFindings_eq]
  refine congrArg (List.flatMap · _) (funext fun priority => ?_)
  cases found : holders rules.entries priority with
  | nil => rfl
  | cons first remaining =>
    cases remaining with
    | nil => rfl
    | cons second others =>
      rw [if_pos (by simp), Function.comp_apply, sharingViolation, found]
      rfl

theorem reportsPriority_of_shared (shared : priority ∈ sharedPriorities rules) :
    ReportsPriority rules priority (sharingViolation rules priority) := by
  have several : 2 ≤ (holders rules.entries priority).length :=
    of_decide_eq_true (List.mem_filter.mp shared).2
  have sub := holders_sublist rules priority
  have named (name : String) : name ∈ holders rules.entries priority ↔
      ∃ rule, (name, rule) ∈ rules.entries ∧ rule.priority = some priority := mem_holders
  unfold ReportsPriority sharingViolation
  cases found : holders rules.entries priority with
  | nil => simp [found] at several
  | cons first remaining =>
    cases remaining with
    | nil => simp [found] at several
    | cons second others =>
      rw [found] at sub named
      exact ⟨first, second, others, sub, named, rfl⟩

/-- Checking the priorities of rules adds one violation for every priority that several rules have, in
the order in which these priorities first occur, and nothing else. So it adds nothing exactly when no
two rules have set the same priority. -/
theorem record_priorityFindings (rules : Keyed ReplicationRule) (log : Log) :
    ∃ shared violations, log.record (priorityFindings rules) = log ++ violations ∧
      List.Forall₂ (ReportsPriority rules) shared violations ∧
      (∀ priority, priority ∈ shared ↔ 2 ≤ (setPriorities rules).count priority) ∧
      shared.Pairwise (fun p q => (setPriorities rules).idxOf p < (setPriorities rules).idxOf q) ∧
      (violations = [] ↔ (setPriorities rules).Nodup) := by
  refine ⟨sharedPriorities rules, (sharedPriorities rules).map (sharingViolation rules), ?_, ?_,
    fun _ => mem_sharedPriorities, sharedPriorities_ordered rules, ?_⟩
  · rw [priorityFindings_eq_map]
    exact log.record_map_violation _
  · rw [List.forall₂_map_right_iff]
    exact List.forall₂_same.mpr fun _ shared => reportsPriority_of_shared shared
  · rw [List.map_eq_nil_iff]
    exact sharedPriorities_eq_nil_iff

end Replication

end BucketPlan
