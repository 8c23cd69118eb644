import BucketPlan.Shape
import BucketPlan.Value.Plain

namespace BucketPlan

/-- Which kinds of public access are kept from a bucket. -/
structure PublicAccess where
  blockAcls : Option Bool := none
  blockPolicy : Option Bool := none
  ignoreAcls : Option Bool := none
  restrictBuckets : Option Bool := none
deriving DecidableEq, Repr

structure PublicAccessPlan where
  blockAcls : Bool := false
  blockPolicy : Bool := false
  ignoreAcls : Bool := false
  restrictBuckets : Bool := false
deriving DecidableEq, Repr

instance : Plain PublicAccessPlan where
  plain p := .record [("block_public_acls", plain p.blockAcls),
    ("block_public_policy", plain p.blockPolicy), ("ignore_public_acls", plain p.ignoreAcls),
    ("restrict_public_buckets", plain p.restrictBuckets)]

namespace PublicAccess

def shape : Shape :=
  .recordOf [("block_public_acls", .optional .boolean), ("block_public_policy", .optional .boolean),
    ("ignore_public_acls", .optional .boolean), ("restrict_public_buckets", .optional .boolean)]

def ofValue (value : Value) : PublicAccess where
  blockAcls := (value.get "block_public_acls").bool?
  blockPolicy := (value.get "block_public_policy").bool?
  ignoreAcls := (value.get "ignore_public_acls").bool?
  restrictBuckets := (value.get "restrict_public_buckets").bool?

instance : Plain PublicAccess where
  plain p := .record [("block_public_acls", plain p.blockAcls),
    ("block_public_policy", plain p.blockPolicy), ("ignore_public_acls", plain p.ignoreAcls),
    ("restrict_public_buckets", plain p.restrictBuckets)]

def resolve (access : Option PublicAccess) : PublicAccess :=
  let given := access.getD {}
  { blockAcls := some (given.blockAcls.getD false)
    blockPolicy := some (given.blockPolicy.getD false)
    ignoreAcls := some (given.ignoreAcls.getD false)
    restrictBuckets := some (given.restrictBuckets.getD false) }

def plan (access : Option PublicAccess) : PublicAccessPlan :=
  let given := access.getD {}
  { blockAcls := given.blockAcls.getD false
    blockPolicy := given.blockPolicy.getD false
    ignoreAcls := given.ignoreAcls.getD false
    restrictBuckets := given.restrictBuckets.getD false }

end PublicAccess

def PublicAccessPlan.request (p : PublicAccessPlan) : Value :=
  .record [("BlockPublicAcls", .bool p.blockAcls), ("IgnorePublicAcls", .bool p.ignoreAcls),
    ("BlockPublicPolicy", .bool p.blockPolicy), ("RestrictPublicBuckets", .bool p.restrictBuckets)]

end BucketPlan
