import BucketPlan.Proofs.Arranged.Plans
import BucketPlan.Proofs.Holders
import BucketPlan.Proofs.Rendered.Member
import BucketPlan.Proofs.Valid.Inventory
import BucketPlan.Proofs.Valid.Tiering

namespace BucketPlan

theorem mem_sortedSet {texts : List String} {text : String} : text ∈ sortedSet texts ↔ text ∈ texts :=
  List.mem_mergeSort.trans List.mem_eraseDups

theorem sortedSet_ascending (texts : List String) : (sortedSet texts).Pairwise (· < ·) := by
  have trans (a b c : String) (first : decide (a ≤ b) = true) (second : decide (b ≤ c) = true) :
      decide (a ≤ c) = true :=
    decide_eq_true (String.le_trans (of_decide_eq_true first) (of_decide_eq_true second))
  have total (a b : String) : (decide (a ≤ b) || decide (b ≤ a)) = true := by
    simpa using String.le_total a b
  have distinct : (sortedSet texts).Nodup :=
    (List.mergeSort_perm _ _).nodup_iff.mpr (nodup_eraseDups texts)
  have ordered := List.pairwise_mergeSort trans total texts.eraseDups
  refine (ordered.and distinct).imp fun both => ?_
  exact String.not_le.mp fun le => both.2 (String.le_antisymm (of_decide_eq_true both.1) le)

/-- A configuration that lists all tiers of a rule in ascending order of their days. -/
structure TieringRule.IsStatedBy (rule : TieringRule) (name : String) (stated : Value) : Prop where
  name : stated.member? "Id" = some (.str name)
  tierings : ∃ tiers : List (String × Int), tiers.Perm rule.tierings.entries ∧
    tiers.Pairwise (fun a b => a.2 < b.2) ∧
    stated.member? "Tierings" = some (.list (tiers.map fun tier =>
      .record [("Days", .int tier.2), ("AccessTier", .str tier.1)]))

/-- A configuration that encrypts reports the way a rule asks for, and has the further fields of the rule
in order and each once. -/
structure InventoryRule.IsStatedBy (rule : InventoryRule) (name : String) (stated : Value) : Prop where
  name : stated.member? "Id" = some (.str name)
  managed : (stated.memberAt? ["Destination", "S3BucketDestination", "Encryption", "SSEKMS"]).isSome ↔
    ∃ destination ∈ rule.destination, destination.encryption = some "SSE-KMS"
  key : ∀ destination ∈ rule.destination, destination.encryption = some "SSE-KMS" →
    ∃ key ∈ destination.keyId, key ≠ "" ∧
      stated.memberAt? ["Destination", "S3BucketDestination", "Encryption", "SSEKMS", "KeyId"] =
        some (.str key)
  owned : (stated.memberAt? ["Destination", "S3BucketDestination", "Encryption", "SSES3"]).isSome ↔
    ∃ destination ∈ rule.destination, destination.encryption = some "SSE-S3"
  noFields : rule.optionalFields = [] → stated.member? "OptionalFields" = none
  fields : rule.optionalFields ≠ [] → ∃ fields : List String,
    stated.member? "OptionalFields" = some (.list (fields.map .str)) ∧ fields.Pairwise (· < ·) ∧
    ∀ field, field ∈ fields ↔ field ∈ rule.optionalFields

namespace TieringRule

variable {rule : TieringRule}

/-- Two tiers are never entered on the same day, as there are only two and one comes after the other. -/
theorem IsLegal.days_ne (legal : rule.IsLegal) {tier other : String × Int}
    (member : tier ∈ rule.tierings.entries) (member' : other ∈ rule.tierings.entries)
    (apart : tier.1 ≠ other.1) : tier.2 ≠ other.2 := by
  obtain ⟨name, days⟩ := tier
  obtain ⟨name', days'⟩ := other
  rcases legal.tiers _ member with ⟨first, _⟩ | ⟨first, _⟩
  · rcases legal.tiers _ member' with ⟨second, _⟩ | ⟨second, _⟩
    · exact absurd (first.trans second.symm) apart
    · cases first
      cases second
      exact Int.ne_of_lt (legal.order days days' member member')
  · rcases legal.tiers _ member' with ⟨second, _⟩ | ⟨second, _⟩
    · cases first
      cases second
      exact Int.ne_of_gt (legal.order days' days member' member)
    · exact absurd (first.trans second.symm) apart

theorem IsLegal.ascending (legal : rule.IsLegal) :
    (rule.tierings.entries.mergeSort comesFirst).Pairwise fun a b => a.2 < b.2 := by
  have perm := List.mergeSort_perm rule.tierings.entries comesFirst
  have ordered := List.pairwise_mergeSort comesFirst_trans comesFirst_total rule.tierings.entries
  have distinct : (rule.tierings.entries.mergeSort comesFirst).Pairwise fun a b => a.1 ≠ b.1 :=
    List.pairwise_map.mp ((perm.map Prod.fst).nodup_iff.mpr rule.tierings.distinct)
  refine (ordered.and distinct).imp_of_mem fun inFirst inSecond both => ?_
  have apart := legal.days_ne (perm.mem_iff.mp inFirst) (perm.mem_iff.mp inSecond) both.2
  rcases comesFirst_iff.mp both.1 with earlier | ⟨level, _⟩
  · exact earlier
  · exact absurd level apart

theorem IsLegal.isStatedBy_request (legal : rule.IsLegal) (name : String) :
    rule.IsStatedBy name (rule.plan name).request where
  name := by simp [TieringPlan.request, plan]
  tierings := ⟨rule.tierings.entries.mergeSort comesFirst, List.mergeSort_perm _ _, legal.ascending,
    by simp [TieringPlan.request, plan]⟩

end TieringRule

namespace InventoryPlan

variable {planned : InventoryPlan}

/-- What a request has for the encryption of reports. -/
theorem memberAt?_encryption (name : String) (rest : List String) :
    planned.request.memberAt? ("Destination" :: "S3BucketDestination" :: "Encryption" :: name :: rest) =
      if planned.encryption = some "SSE-S3" then
        (Value.record [("SSES3", .record [])]).memberAt? (name :: rest)
      else if planned.encryption = some "SSE-KMS" then
        (Value.record [("SSEKMS", .record [("KeyId", plain planned.keyId)])]).memberAt? (name :: rest)
      else none := by
  simp only [request, encryptionFields]
  split
  · simp
  · split <;> simp

theorem member?_optionalFields :
    planned.request.member? "OptionalFields" =
      if planned.optionalFields.isEmpty then none else some (.list (planned.optionalFields.map .str)) := by
  cases fields : planned.optionalFields <;> simp [request, fields, plain]

end InventoryPlan

namespace InventoryRule

variable {rule : InventoryRule}

theorem IsLegal.isStatedBy_request (legal : rule.IsLegal) (name : String) :
    rule.IsStatedBy name (rule.plan name).request := by
  obtain ⟨destination, given, good⟩ := legal.destination
  have encryption : (rule.plan name).encryption = destination.encryption := by
    rw [plan, Option.mem_def.mp given]
    rfl
  have keyId : (rule.plan name).keyId = destination.keyId := by
    rw [plan, Option.mem_def.mp given]
    rfl
  have optional : (rule.plan name).optionalFields = sortedSet rule.optionalFields := rfl
  have only (encryption : String) : (∃ own ∈ rule.destination, own.encryption = some encryption) ↔
      destination.encryption = some encryption := by
    rw [Option.mem_def.mp given]
    simp
  refine { name := ?_, managed := ?_, key := ?_, owned := ?_, noFields := ?_, fields := ?_ }
  · simp [InventoryPlan.request, plan]
  · rw [only, InventoryPlan.memberAt?_encryption, encryption]
    by_cases owned : destination.encryption = some "SSE-S3"
    · simp [owned]
    · by_cases managed : destination.encryption = some "SSE-KMS" <;> simp [owned, managed]
  · intro own member managed
    obtain rfl : own = destination := Option.some.inj (member.symm.trans given)
    obtain ⟨key, keyed, nonempty⟩ := good.key managed
    refine ⟨key, keyed, nonempty, ?_⟩
    rw [InventoryPlan.memberAt?_encryption, encryption, keyId, managed, Option.mem_def.mp keyed]
    simp
  · rw [only, InventoryPlan.memberAt?_encryption, encryption]
    by_cases owned : destination.encryption = some "SSE-S3"
    · simp [owned]
    · by_cases managed : destination.encryption = some "SSE-KMS" <;> simp [owned, managed]
  · intro none
    rw [InventoryPlan.member?_optionalFields, optional, none]
    simp [sortedSet]
  · intro some
    obtain ⟨field, member⟩ := List.exists_mem_of_ne_nil _ some
    have kept : sortedSet rule.optionalFields ≠ [] := List.ne_nil_of_mem (mem_sortedSet.mpr member)
    refine ⟨sortedSet rule.optionalFields, ?_, sortedSet_ascending _, fun _ => mem_sortedSet⟩
    rw [InventoryPlan.member?_optionalFields, optional, if_neg (by simpa using kept)]

end InventoryRule

/-- Findings that pass exactly in legal cases leave a log free of errors exactly when it was and the case
is legal, and then all that follows from it being legal holds. -/
theorem Log.record_isExact {findings : List Finding} {legal stated : Prop}
    (judged : Passes findings ↔ legal) (states : legal → stated) (log : Log) :
    ((log.record findings).hasErrors = false ↔ log.hasErrors = false ∧ legal) ∧
    ((log.record findings).hasErrors = false → stated) := by
  have clean := log.hasErrors_record_eq_false findings
  rw [judged] at clean
  exact ⟨clean, fun accepted => states (clean.mp accepted).2⟩

theorem Keyed.forall₂_mapValues {α β : Type} {related : String × α → String × β → Prop}
    {f : String → α → β} {map : Keyed α}
    (each : ∀ entry ∈ map.entries, related entry (entry.1, f entry.1 entry.2)) :
    List.Forall₂ related map.entries (map.mapValues f).entries := by
  rw [entries_mapValues, List.forall₂_map_right_iff, List.forall₂_same]
  exact each

/-- The tiering rules and the inventory rules of a resolved description are accepted exactly where they
are legal, and every accepted rule is stated under its name with all that it asks for. -/
theorem Descriptor.housekeeping_isExact (d : Descriptor) (log : Log) :
    (((log.record (TieringPlan.findings d.resolve.tieringRules)).hasErrors = false ↔
        log.hasErrors = false ∧ ∀ entry ∈ d.resolve.tieringRules.entries, entry.2.IsLegal) ∧
      ((log.record (TieringPlan.findings d.resolve.tieringRules)).hasErrors = false →
        List.Forall₂ (fun entry planned => planned.1 = entry.1 ∧
            entry.2.IsStatedBy entry.1 planned.2.request)
          d.resolve.tieringRules.entries (TieringPlan.ofRules d.resolve.tieringRules).entries)) ∧
    (((log.record (InventoryPlan.findings d.resolve.inventoryRules)).hasErrors = false ↔
        log.hasErrors = false ∧ ∀ entry ∈ d.resolve.inventoryRules.entries, entry.2.IsLegal) ∧
      ((log.record (InventoryPlan.findings d.resolve.inventoryRules)).hasErrors = false →
        List.Forall₂ (fun entry planned => planned.1 = entry.1 ∧
            entry.2.IsStatedBy entry.1 planned.2.request)
          d.resolve.inventoryRules.entries (InventoryPlan.ofRules d.resolve.inventoryRules).entries)) := by
  refine ⟨log.record_isExact TieringPlan.passes_findings fun legal => ?_,
    log.record_isExact d.passes_inventoryFindings fun legal => ?_⟩
  · exact Keyed.forall₂_mapValues fun entry member =>
      ⟨rfl, (legal entry member).isStatedBy_request entry.1⟩
  · exact Keyed.forall₂_mapValues fun entry member =>
      ⟨rfl, (legal entry member).isStatedBy_request entry.1⟩

end BucketPlan
