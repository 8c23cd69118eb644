import BucketPlan.Descriptor.Checks
import BucketPlan.Inventory.Plan
import BucketPlan.Lifecycle.Plan
import BucketPlan.Notification.Plan
import BucketPlan.Replication.Plan
import BucketPlan.Tiering.Plan
import BucketPlan.Website.Plan

namespace BucketPlan

/-- A bucket as it will be: checked, complete and in normal form. -/
structure Plan where
  bucketName : String
  ownerAccount : Option String
  tags : List (String × String)
  versioning : Bool
  objectLock : Option ObjectLockPlan
  encryption : EncryptionPlan
  publicAccess : PublicAccessPlan
  ownership : String
  requesterPays : Bool
  acceleration : Bool
  policy : Option String := none
  corsRules : List CorsRule := []
  website : Option WebsitePlan := none
  lifecycleRules : Keyed LifecyclePlan := {}
  replication : Option ReplicationPlan := none
  notifications : Option NotificationPlan := none
  inventoryRules : Keyed InventoryPlan := {}
  tieringRules : Keyed TieringPlan := {}
deriving DecidableEq

instance : Plain Plan where
  plain p := .record [("bucket_name", plain p.bucketName), ("owner_account_id", plain p.ownerAccount),
    ("tags", plain p.tags), ("versioning_enabled", plain p.versioning),
    ("object_lock", plain p.objectLock), ("encryption", plain p.encryption),
    ("public_access_block", plain p.publicAccess), ("object_ownership", plain p.ownership),
    ("requester_pays", plain p.requesterPays), ("transfer_acceleration", plain p.acceleration),
    ("policy", plain p.policy), ("cors_rules", plain p.corsRules), ("website", plain p.website),
    ("lifecycle_rules", plain p.lifecycleRules), ("replication", plain p.replication),
    ("notifications", plain p.notifications), ("inventory_rules", plain p.inventoryRules),
    ("intelligent_tiering_rules", plain p.tieringRules)]

/-- The plans of the rules, which are made before the rest. -/
structure RulePlans where
  lifecycle : Keyed LifecyclePlan
  replication : Option ReplicationPlan
  notifications : Option NotificationPlan
  inventory : Keyed InventoryPlan
  tiering : Keyed TieringPlan
deriving DecidableEq

namespace Descriptor

def websitePlan (d : Descriptor) : Except Fault (Option WebsitePlan) :=
  match d.website with
  | none => .ok none
  | some website => (WebsitePlan.ofWebsite website).map some

/-- The plan of a resolved description around the plans of its rules. -/
def plan (d : Descriptor) (rules : RulePlans) : Except Fault Plan := do
  let website ← d.websitePlan
  return {
    bucketName := d.name.getD ""
    ownerAccount := d.ownerAccount
    tags := d.tags.sorted
    versioning := d.versioning.getD false
    objectLock := ObjectLock.plan d.objectLock (d.lockEnabled.getD false)
    encryption := Encryption.plan d.encryption
    publicAccess := PublicAccess.plan d.publicAccess
    ownership := d.ownership.getD defaultOwnership
    requesterPays := d.requesterPays.getD false
    acceleration := d.acceleration.getD false
    policy := d.policy
    corsRules := d.corsRules.map CorsRule.normalize
    website := website
    lifecycleRules := rules.lifecycle
    replication := rules.replication
    notifications := rules.notifications
    inventoryRules := rules.inventory
    tieringRules := rules.tiering }

end Descriptor

end BucketPlan
