import BucketPlan.Inventory.Rule
import BucketPlan.Lifecycle.Rule
import BucketPlan.Notification.Rule
import BucketPlan.Replication.Rule
import BucketPlan.Settings.Encryption
import BucketPlan.Settings.ObjectLock
import BucketPlan.Settings.PublicAccess
import BucketPlan.Tiering.Rule
import BucketPlan.Website.Cors
import BucketPlan.Website.Rule

namespace BucketPlan

/-- A bucket as it is asked for. What is left out stays unset, since the checks tell a value that
was left out from one that equals its default. -/
structure Descriptor where
  name : Option String := none
  ownerAccount : Option String := none
  tags : Keyed String := {}
  versioning : Option Bool := none
  lockEnabled : Option Bool := none
  objectLock : Option ObjectLock := none
  encryption : Option Encryption := none
  publicAccess : Option PublicAccess := none
  ownership : Option String := none
  requesterPays : Option Bool := none
  acceleration : Option Bool := none
  policy : Option String := none
  corsRules : List CorsRule := []
  website : Option Website := none
  notifications : Option Notifications := none
  lifecycleRules : Keyed LifecycleRule := {}
  replication : Option Replication := none
  inventoryRules : Keyed InventoryRule := {}
  tieringRules : Keyed TieringRule := {}
deriving DecidableEq

namespace Descriptor

def shape : Shape :=
  .recordOf [("name", .optional .text), ("bucket_owner_account_id", .optional .text),
    ("tags", .optional (.entries .text)), ("versioning_enabled", .optional .boolean),
    ("enables_object_lock", .optional .boolean), ("object_lock", .optional ObjectLock.shape),
    ("encryption", .optional Encryption.shape),
    ("public_access_block", .optional PublicAccess.shape), ("object_ownership", .optional .text),
    ("requester_pays", .optional .boolean), ("transfer_acceleration", .optional .boolean),
    ("policy", .optional .text), ("cors_rules", .optional (.listOfEntries CorsRule.shape)),
    ("website", .optional Website.shape), ("notifications", .optional Notifications.shape),
    ("lifecycle_rules", .optional (.entries LifecycleRule.shape)),
    ("replication", .optional Replication.shape),
    ("inventory_rules", .optional (.entries InventoryRule.shape)),
    ("intelligent_tiering_rules", .optional (.entries TieringRule.shape))]

/-- Reads what has the right form and leaves the rest unset. -/
def ofValue (value : Value) : Descriptor where
  name := (value.get "name").text?
  ownerAccount := (value.get "bucket_owner_account_id").text?
  tags := (value.get "tags").textMap
  versioning := (value.get "versioning_enabled").bool?
  lockEnabled := (value.get "enables_object_lock").bool?
  objectLock := (value.get "object_lock").record? ObjectLock.ofValue
  encryption := (value.get "encryption").record? Encryption.ofValue
  publicAccess := (value.get "public_access_block").record? PublicAccess.ofValue
  ownership := (value.get "object_ownership").text?
  requesterPays := (value.get "requester_pays").bool?
  acceleration := (value.get "transfer_acceleration").bool?
  policy := (value.get "policy").text?
  corsRules := (value.get "cors_rules").records CorsRule.ofValue
  website := (value.get "website").record? Website.ofValue
  notifications := (value.get "notifications").record? Notifications.ofValue
  lifecycleRules := (value.get "lifecycle_rules").keyed (·.record? LifecycleRule.ofValue)
  replication := (value.get "replication").record? Replication.ofValue
  inventoryRules := (value.get "inventory_rules").keyed (·.record? InventoryRule.ofValue)
  tieringRules := (value.get "intelligent_tiering_rules").keyed (·.record? TieringRule.ofValue)

/-- The mismatches between a value and the form of a description. -/
def mismatches (value : Value) : Log :=
  shape.mismatches {} value

instance : Plain Descriptor where
  plain d := .record [("name", plain d.name), ("bucket_owner_account_id", plain d.ownerAccount),
    ("tags", plain d.tags), ("versioning_enabled", plain d.versioning),
    ("enables_object_lock", plain d.lockEnabled), ("object_lock", plain d.objectLock),
    ("encryption", plain d.encryption), ("public_access_block", plain d.publicAccess),
    ("object_ownership", plain d.ownership), ("requester_pays", plain d.requesterPays),
    ("transfer_acceleration", plain d.acceleration), ("policy", plain d.policy),
    ("cors_rules", plain d.corsRules), ("website", plain d.website),
    ("notifications", plain d.notifications), ("lifecycle_rules", plain d.lifecycleRules),
    ("replication", plain d.replication), ("inventory_rules", plain d.inventoryRules),
    ("intelligent_tiering_rules", plain d.tieringRules)]

end Descriptor

end BucketPlan
