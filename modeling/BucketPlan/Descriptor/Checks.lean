import BucketPlan.Descriptor.Basic
import BucketPlan.Notification.Destination
import BucketPlan.Replication.Checks
import BucketPlan.Settings.Billing
import BucketPlan.Settings.Name
import BucketPlan.Settings.Ownership
import BucketPlan.Settings.Tags
import BucketPlan.Website.Checks

namespace BucketPlan

/-- The parts of a description that are checked before anything is planned. -/
inductive Concern where
  | name
  | tags
  | objectLock
  | encryption
  | ownership
  | requesterPays
  | website
  | cors
  | replication
  | notifications
deriving DecidableEq, Repr

namespace Concern

/-- In the order in which they are checked. -/
def all : List Concern :=
  [name, tags, objectLock, encryption, ownership, requesterPays, website, cors, replication,
    notifications]

def label : Concern → String
  | name => "name"
  | tags => "tags"
  | objectLock => "object_lock"
  | encryption => "encryption"
  | ownership => "object_ownership"
  | requesterPays => "requester_pays"
  | website => "website"
  | cors => "cors"
  | replication => "replication"
  | notifications => "notifications"

end Concern

namespace Descriptor

def findings (d : Descriptor) : Concern → List Finding
  | .name => BucketName.findings d.name
  | .tags => tagFindings d.tags
  | .objectLock => ObjectLock.findings d.objectLock d.lockEnabled d.versioning
  | .encryption => d.encryption.toList.flatMap Encryption.findings
  | .ownership => ownershipFindings d.ownership
  | .requesterPays => requesterPaysFindings d.requesterPays d.ownerAccount
  | .website => d.website.toList.flatMap Website.findings
  | .cors => CorsRule.allFindings d.corsRules
  | .replication => d.replication.toList.flatMap fun r => r.findings d.versioning d.encryption
  | .notifications => d.notifications.toList.flatMap Notifications.findings

def allFindings (d : Descriptor) : List Finding :=
  Concern.all.flatMap d.findings

/-- Fills in what was left out. Object lock and replication bring versioning with them. -/
def resolve (d : Descriptor) : Descriptor :=
  { d with
    versioning := some (d.versioning.getD (d.lockEnabled.getD false || d.replication.isSome))
    lockEnabled := some (d.lockEnabled.getD false)
    encryption := some (.resolve d.encryption)
    publicAccess := some (.resolve d.publicAccess)
    ownership := some (d.ownership.getD defaultOwnership)
    requesterPays := some (d.requesterPays.getD false)
    acceleration := some (d.acceleration.getD false)
    notifications := d.notifications.map Notifications.resolve
    replication := d.replication.map Replication.resolve
    inventoryRules := d.inventoryRules.mapValues fun _ rule => rule.resolve }

end Descriptor

end BucketPlan
