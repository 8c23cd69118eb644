import BucketPlan.Proofs.Passes
import BucketPlan.Settings.Billing
import BucketPlan.Settings.Encryption
import BucketPlan.Settings.Name
import BucketPlan.Settings.ObjectLock
import BucketPlan.Settings.Ownership
import BucketPlan.Settings.Tags

namespace BucketPlan

/-- The name may be unusual, which is a warning, but it has to be there. -/
theorem BucketName.passes_findings {name : Option String} :
    Passes (findings name) ↔ ∃ given ∈ name, given ≠ "" := by
  rw [← isFilled_iff, findings]
  by_cases filled : isFilled name = true
  · rw [if_pos filled]
    exact iff_of_true (.ite Scope.passes_warning (.ite Scope.passes_warning
      (.ifTrue Scope.passes_warning))) filled
  · rw [if_neg filled]
    simp [filled]

/-- At most fifty tags, with keys of one to 128 characters and values of at most 256. -/
structure AreLegalTags (tags : Keyed String) : Prop where
  count : tags.size ≤ 50
  keys : ∀ entry ∈ tags.entries, entry.1 ≠ "" ∧ entry.1.length ≤ 128
  values : ∀ entry ∈ tags.entries, entry.2.length ≤ 256

theorem passes_tagFindings {tags : Keyed String} : Passes (tagFindings tags) ↔ AreLegalTags tags := by
  simp only [tagFindings, reportsOnly_append, reportsOnly_flatMap, reportsOnly_ite,
    Scope.passes_error, imp_false, reportsOnly_nil, implies_true, and_true, not_or, Nat.not_lt]
  constructor
  · intro passes
    obtain ⟨count, entries⟩ := passes
    exact ⟨count, fun entry member => (entries entry member).1, fun entry member =>
      (entries entry member).2⟩
  · intro legal
    exact ⟨legal.count, fun entry member => ⟨legal.keys entry member, legal.values entry member⟩⟩

/-- A mode of the two there are, and one period in days or years. A lock that is amended may keep
what it has. -/
structure Retention.IsLegal (r : Retention) (amends : Bool) : Prop where
  mode : ∀ mode ∈ r.mode, mode ∈ ["GOVERNANCE", "COMPLIANCE"]
  days : ∀ days ∈ r.days, 1 ≤ days
  years : ∀ years ∈ r.years, 1 ≤ years
  single : r.days = none ∨ r.years = none
  complete : amends = false → r.mode ≠ none ∧ (r.days ≠ none ∨ r.years ≠ none)

theorem Retention.isFilled_mode {r : Retention} (legal : ∀ mode ∈ r.mode, mode ∈ modes) :
    isFilled r.mode = true ↔ r.mode ≠ none := by
  cases given : r.mode with
  | none => simp [isFilled]
  | some mode =>
    have filled : mode ≠ "" := fun empty => absurd (empty ▸ legal mode given) (by decide)
    simpa [isFilled] using filled

theorem Retention.passes_findings {r : Retention} {amends : Bool} :
    Passes (r.findings amends) ↔ r.IsLegal amends := by
  have single : ¬(r.days.isSome && r.years.isSome) = true ↔ r.days = none ∨ r.years = none := by
    cases r.days <;> simp
  have period : ¬(r.days.isNone && r.years.isNone) = true ↔ r.days ≠ none ∨ r.years ≠ none := by
    cases r.days <;> simp
  simp only [findings, reportsOnly_append, Scope.passes_oneOf, Scope.passes_inRange_from,
    reportsOnly_ite, Scope.passes_error, imp_false, reportsOnly_nil, implies_true, and_true,
    true_and, Scope.passes_require, Bool.not_eq_true, single, period]
  constructor
  · intro passes
    obtain ⟨⟨⟨⟨mode, days⟩, years⟩, apart⟩, complete⟩ := passes
    refine ⟨mode, days, years, apart, fun fresh => ?_⟩
    exact ⟨(isFilled_mode mode).mp (complete fresh).1, (complete fresh).2⟩
  · intro legal
    refine ⟨⟨⟨⟨legal.mode, legal.days⟩, legal.years⟩, legal.single⟩, fun fresh => ?_⟩
    exact ⟨(isFilled_mode legal.mode).mpr (legal.complete fresh).1, (legal.complete fresh).2⟩

/-- A lock is asked for only where it is switched on, and it is switched on only where versions are
not switched off. -/
structure ObjectLock.IsLegal (lock : Option ObjectLock) (enabled versioning : Option Bool) : Prop where
  versions : ¬(enabled = some true ∧ versioning = some false)
  enabled : lock ≠ none → enabled = some true
  retention : ∀ given ∈ lock, ∀ retention ∈ given.retention, retention.IsLegal given.token.isSome

theorem ObjectLock.passes_findings {lock : Option ObjectLock} {enabled versioning : Option Bool} :
    Passes (findings lock enabled versioning) ↔ IsLegal lock enabled versioning := by
  simp only [findings, reportsOnly_append, reportsOnly_ite, Scope.passes_error, imp_false,
    reportsOnly_nil, implies_true, and_true]
  cases lock with
  | none =>
    refine ⟨fun passes => ⟨passes.1, by simp, by simp⟩, fun legal => ⟨legal.versions, reportsOnly_nil⟩⟩
  | some lock =>
    obtain ⟨token, retention⟩ := lock
    simp only [reportsOnly_append, reportsOnly_ite, reportsOnly_nil, implies_true, true_and,
      Scope.passes_error, imp_false, Classical.not_not]
    cases retention with
    | none =>
      refine ⟨fun passes => ⟨passes.1, fun _ => passes.2.1, by simp⟩, fun legal =>
        ⟨legal.versions, legal.enabled (by simp), reportsOnly_nil⟩⟩
    | some retention =>
      simp only [Retention.passes_findings]
      refine ⟨fun passes => ⟨passes.1, fun _ => passes.2.1, ?_⟩, fun legal =>
        ⟨legal.versions, legal.enabled (by simp), legal.retention _ rfl _ rfl⟩⟩
      simpa using passes.2.2

/-- An algorithm that there is, and a key only for one that works with keys. -/
structure Encryption.IsLegal (e : Encryption) : Prop where
  algorithm : ∀ name ∈ e.algorithm, name ∈ ["AES256", "aws:kms", "aws:kms:dsse"]
  key : (∃ key ∈ e.masterKey, key ≠ "") → ∃ name ∈ e.algorithm, name ∈ ["aws:kms", "aws:kms:dsse"]

theorem Encryption.passes_findings {e : Encryption} : Passes e.findings ↔ e.IsLegal := by
  simp only [findings, reportsOnly_append, Scope.passes_oneOf, reportsOnly_ite, Scope.passes_error,
    imp_false, reportsOnly_nil, implies_true, and_true, isFilled_iff, not_and]
  have keyed (legal : ∀ name ∈ e.algorithm, name ∈ algorithms) :
      e.algorithm.getD defaultAlgorithm ≠ defaultAlgorithm ↔
        ∃ name ∈ e.algorithm, name ∈ ["aws:kms", "aws:kms:dsse"] := by
    cases given : e.algorithm with
    | none => simp
    | some name =>
      have known := legal name given
      simp only [algorithms, List.mem_cons, List.not_mem_nil, or_false] at known
      rcases known with rfl | rfl | rfl <;> simp [defaultAlgorithm]
  constructor
  · intro passes
    exact ⟨passes.1, fun filled => (keyed passes.1).mp (passes.2 filled)⟩
  · intro legal
    exact ⟨legal.algorithm, fun filled => (keyed legal.algorithm).mpr (legal.key filled)⟩

theorem passes_ownershipFindings {ownership : Option String} :
    Passes (ownershipFindings ownership) ↔ ∀ mode ∈ ownership,
      mode ∈ ["BucketOwnerEnforced", "BucketOwnerPreferred", "ObjectWriter"] :=
  Scope.passes_oneOf

theorem passes_requesterPaysFindings {requesterPays : Option Bool} {account : Option String} :
    Passes (requesterPaysFindings requesterPays account) ↔
      (requesterPays = some true → ∃ given ∈ account, given ≠ "") := by
  simp [requesterPaysFindings, isFilled_iff]

end BucketPlan
