import BucketPlan.Finding
import BucketPlan.Shape
import BucketPlan.Value.Plain

namespace BucketPlan

/-- Where the reports of an inventory go and what they look like. -/
structure InventoryDestination where
  bucket : Option String := none
  accountId : Option String := none
  keyPrefix : Option String := none
  format : Option String := none
  encryption : Option String := none
  keyId : Option String := none
deriving DecidableEq, Repr

structure InventoryRule where
  enabled : Bool := true
  keyPrefix : Option String := none
  destination : Option InventoryDestination := none
  frequency : Option String := none
  includeNoncurrent : Option Bool := none
  optionalFields : List String := []
deriving DecidableEq, Repr

namespace InventoryDestination

def shape : Shape :=
  .recordOf [("bucket_arn", .optional .text), ("account_id", .optional .text),
    ("prefix", .optional .text), ("output_format", .optional .text),
    ("encryption", .optional .text), ("kms_key_id", .optional .text)]

def ofValue (value : Value) : InventoryDestination where
  bucket := (value.get "bucket_arn").text?
  accountId := (value.get "account_id").text?
  keyPrefix := (value.get "prefix").text?
  format := (value.get "output_format").text?
  encryption := (value.get "encryption").text?
  keyId := (value.get "kms_key_id").text?

instance : Plain InventoryDestination where
  plain d := .record [("bucket_arn", plain d.bucket), ("account_id", plain d.accountId),
    ("prefix", plain d.keyPrefix), ("output_format", plain d.format),
    ("encryption", plain d.encryption), ("kms_key_id", plain d.keyId)]

end InventoryDestination

namespace InventoryRule

def shape : Shape :=
  .recordOf [("enabled", .optional .boolean), ("filter_prefix", .optional .text),
    ("destination", .optional InventoryDestination.shape), ("frequency", .optional .text),
    ("include_noncurrent_objects", .optional .boolean), ("optional_fields", .texts)]

def ofValue (value : Value) : InventoryRule where
  enabled := (value.get "enabled").bool?.getD true
  keyPrefix := (value.get "filter_prefix").text?
  destination := (value.get "destination").record? InventoryDestination.ofValue
  frequency := (value.get "frequency").text?
  includeNoncurrent := (value.get "include_noncurrent_objects").bool?
  optionalFields := (value.get "optional_fields").texts

instance : Plain InventoryRule where
  plain rule := .record [("enabled", plain rule.enabled), ("filter_prefix", plain rule.keyPrefix),
    ("destination", plain rule.destination), ("frequency", plain rule.frequency),
    ("include_noncurrent_objects", plain rule.includeNoncurrent),
    ("optional_fields", plain rule.optionalFields)]

/-- Daily reports in plain tables about all versions, unless the rule asks for something else. -/
def resolve (rule : InventoryRule) : InventoryRule :=
  let destination := rule.destination.getD {}
  { rule with
    destination := some { destination with format := some (destination.format.getD "CSV") }
    frequency := some (rule.frequency.getD "Daily")
    includeNoncurrent := some (rule.includeNoncurrent.getD true) }

end InventoryRule

end BucketPlan
