import BucketPlan.Descriptor.Checks
import BucketPlan.Proofs.Valid.Replication
import BucketPlan.Proofs.Valid.Settings
import BucketPlan.Proofs.Valid.Website

namespace BucketPlan

namespace Descriptor

/-- What a description has to be before anything is planned. What it leaves out is told apart from
what it sets to nothing, to an empty text or to false. -/
structure IsValid (d : Descriptor) : Prop where
  name : ∃ name ∈ d.name, name ≠ ""
  tags : AreLegalTags d.tags
  objectLock : ObjectLock.IsLegal d.objectLock d.lockEnabled d.versioning
  encryption : ∀ encryption ∈ d.encryption, encryption.IsLegal
  ownership : ∀ mode ∈ d.ownership,
    mode ∈ ["BucketOwnerEnforced", "BucketOwnerPreferred", "ObjectWriter"]
  requesterPays : d.requesterPays = some true → ∃ account ∈ d.ownerAccount, account ≠ ""
  website : ∀ website ∈ d.website, website.IsLegal
  cors : d.corsRules.length ≤ 100 ∧ ∀ rule ∈ d.corsRules, rule.IsLegal
  replication : ∀ replication ∈ d.replication, replication.IsLegal d.versioning d.encryption
  notifications : ∀ notifications ∈ d.notifications, ∀ address ∈ notifications.destinations.names,
    ∃ marker ∈ [":lambda:", ":sqs:", ":sns:"], marker.toList <:+: address.toList

theorem passes_allFindings {d : Descriptor} : Passes d.allFindings ↔ d.IsValid := by
  simp only [allFindings, Concern.all, List.flatMap_cons, List.flatMap_nil, List.append_nil,
    reportsOnly_append, findings, reportsOnly_flatMap, Option.mem_toList, BucketName.passes_findings,
    passes_tagFindings, ObjectLock.passes_findings, Encryption.passes_findings,
    passes_ownershipFindings, passes_requesterPaysFindings, Website.passes_findings,
    CorsRule.passes_allFindings, Replication.passes_findings, Notifications.passes_findings]
  constructor
  · intro passes
    obtain ⟨name, tags, objectLock, encryption, ownership, requesterPays, website, cors, replication,
      notifications⟩ := passes
    exact ⟨name, tags, objectLock, encryption, ownership, requesterPays, website, cors, replication,
      notifications⟩
  · intro valid
    exact ⟨valid.name, valid.tags, valid.objectLock, valid.encryption, valid.ownership,
      valid.requesterPays, valid.website, valid.cors, valid.replication, valid.notifications⟩

/-- Whatever the log holds, the checks only add to it, and an error stands in it afterwards exactly
when one did before or the description is not valid. -/
theorem record_hasErrors_iff_not_isValid (d : Descriptor) (log : Log) :
    log <+: log.record d.allFindings ∧
      ((log.record d.allFindings).hasErrors = true ↔ log.hasErrors = true ∨ ¬d.IsValid) := by
  refine ⟨⟨log.reports d.allFindings, (log.record_eq_append d.allFindings).symm⟩, ?_⟩
  have clean := log.hasErrors_record_eq_false d.allFindings
  rw [passes_allFindings] at clean
  rw [← Bool.not_eq_false, clean, not_and_or, Bool.not_eq_false]

end Descriptor

end BucketPlan
