import BucketPlan.Finding
import BucketPlan.Shape
import BucketPlan.Value.Plain

namespace BucketPlan

/-- Default encryption of the objects of a bucket. -/
structure Encryption where
  algorithm : Option String := none
  masterKey : Option String := none
  bucketKey : Option Bool := none
deriving DecidableEq, Repr

structure EncryptionPlan where
  algorithm : String
  masterKey : Option String
  bucketKey : Bool
deriving DecidableEq, Repr

instance : Plain EncryptionPlan where
  plain e := .record [("sse_algorithm", plain e.algorithm),
    ("kms_master_key_id", plain e.masterKey), ("bucket_key_enabled", plain e.bucketKey)]

namespace Encryption

def algorithms : List String := ["AES256", "aws:kms", "aws:kms:dsse"]

/-- The algorithms that work with managed keys. -/
def keyAlgorithms : List String := ["aws:kms", "aws:kms:dsse"]

def defaultAlgorithm : String := "AES256"

def shape : Shape :=
  .recordOf [("sse_algorithm", .optional .text), ("kms_master_key_id", .optional .text),
    ("bucket_key_enabled", .optional .boolean)]

def ofValue (value : Value) : Encryption where
  algorithm := (value.get "sse_algorithm").text?
  masterKey := (value.get "kms_master_key_id").text?
  bucketKey := (value.get "bucket_key_enabled").bool?

instance : Plain Encryption where
  plain e := .record [("sse_algorithm", plain e.algorithm),
    ("kms_master_key_id", plain e.masterKey), ("bucket_key_enabled", plain e.bucketKey)]

def isKeyBased (encryption : Option Encryption) : Bool :=
  (encryption.bind algorithm).any (· ∈ keyAlgorithms)

def findings (e : Encryption) : List Finding :=
  let scope : Scope := { area := "encryption" }
  scope.oneOf e.algorithm algorithms "sse_algorithm" ++
  if isFilled e.masterKey ∧ e.algorithm.getD defaultAlgorithm = defaultAlgorithm then
    scope.error "kms_master_key_id" .mutuallyExclusive
      "kms_master_key_id cannot be used with AES256 encryption"
  else []

def resolve (encryption : Option Encryption) : Encryption :=
  let given := encryption.getD {}
  { given with
    algorithm := some (given.algorithm.getD defaultAlgorithm)
    bucketKey := some (given.bucketKey.getD false) }

def plan (encryption : Option Encryption) : EncryptionPlan :=
  let e := resolve encryption
  { algorithm := e.algorithm.getD defaultAlgorithm
    masterKey := e.masterKey
    bucketKey := e.bucketKey.getD false }

end Encryption

end BucketPlan
