import BucketPlan.Lifecycle.Request
import BucketPlan.Notification.Request
import BucketPlan.Plan.Basic
import BucketPlan.Replication.Request

namespace BucketPlan

/-- The calls that set up a bucket, in the order in which they are made. -/
inductive Operation where
  | createBucket
  | putOwnershipControls
  | putPublicAccessBlock
  | putVersioning
  | putEncryption
  | putTagging
  | putRequestPayment
  | putAccelerate
  | putObjectLock
  | putPolicy
  | putCors
  | putWebsite
  | putLifecycle
  | putReplication
  | putNotification
  | putInventory
  | putTiering
deriving DecidableEq, Repr

def Operation.name : Operation → String
  | createBucket => "CreateBucket"
  | putOwnershipControls => "PutBucketOwnershipControls"
  | putPublicAccessBlock => "PutPublicAccessBlock"
  | putVersioning => "PutBucketVersioning"
  | putEncryption => "PutBucketEncryption"
  | putTagging => "PutBucketTagging"
  | putRequestPayment => "PutBucketRequestPayment"
  | putAccelerate => "PutBucketAccelerateConfiguration"
  | putObjectLock => "PutObjectLockConfiguration"
  | putPolicy => "PutBucketPolicy"
  | putCors => "PutBucketCors"
  | putWebsite => "PutBucketWebsite"
  | putLifecycle => "PutBucketLifecycleConfiguration"
  | putReplication => "PutBucketReplication"
  | putNotification => "PutBucketNotificationConfiguration"
  | putInventory => "PutBucketInventoryConfiguration"
  | putTiering => "PutBucketIntelligentTieringConfiguration"

/-- A call with its parameters. -/
structure Request where
  operation : Operation
  params : Value

namespace Plan

/-- A call for the bucket of the plan. -/
def call (plan : Plan) (operation : Operation) (fields : List (String × Value)) : Request :=
  ⟨operation, .record (("Bucket", plain plan.bucketName) :: fields)⟩

def callIf (plan : Plan) (condition : Bool) (operation : Operation)
    (fields : List (String × Value)) : List Request :=
  if condition then [plan.call operation fields] else []

def enabledField : List (String × Value) := [("Status", .str "Enabled")]

/-- The calls that are made for every bucket or depend on a single setting. -/
def settingCalls (plan : Plan) : List Request :=
  [plan.call .createBucket [("ObjectLockEnabledForBucket", plain plan.objectLock.isSome),
      ("ObjectOwnership", plain plan.ownership)],
    plan.call .putOwnershipControls [("OwnershipControls",
      .record [("Rules", .list [.record [("ObjectOwnership", plain plan.ownership)]])])],
    plan.call .putPublicAccessBlock
      [("PublicAccessBlockConfiguration", plan.publicAccess.request)]] ++
  plan.callIf plan.versioning .putVersioning [("VersioningConfiguration", .record enabledField)] ++
  [plan.call .putEncryption [("ServerSideEncryptionConfiguration",
    .record [("Rules", .list [.record [
      ("ApplyServerSideEncryptionByDefault", .record (
        [("SSEAlgorithm", plain plan.encryption.algorithm)] ++
        fieldsIf (isFilled plan.encryption.masterKey)
          [("KMSMasterKeyID", plain plan.encryption.masterKey)])),
      ("BucketKeyEnabled", plain plan.encryption.bucketKey)]])])]] ++
  plan.callIf (!plan.tags.isEmpty) .putTagging
    [("Tagging", .record [("TagSet", tagSet plan.tags)])] ++
  [plan.call .putRequestPayment [("RequestPaymentConfiguration",
    .record [("Payer", .str (if plan.requesterPays then "Requester" else "BucketOwner"))])]] ++
  plan.callIf plan.acceleration .putAccelerate
    [("AccelerateConfiguration", .record enabledField)]

def lockCalls (plan : Plan) : List Request :=
  match plan.objectLock with
  | none => []
  | some lock =>
    plan.callIf lock.isConfigured .putObjectLock
      ([("ObjectLockConfiguration", lock.request)] ++
        fieldsIf (isFilled lock.token) [("Token", plain lock.token)])

def contentCalls (plan : Plan) : List Request :=
  plan.callIf (isFilled plan.policy) .putPolicy [("Policy", plain plan.policy)] ++
  plan.callIf (!plan.corsRules.isEmpty) .putCors
    [("CORSConfiguration", .record [("CORSRules", .list (plan.corsRules.map CorsRule.request))])] ++
  plan.website.toList.map fun website =>
    plan.call .putWebsite [("WebsiteConfiguration", website.request)]

def lifecycleCalls (plan : Plan) : Except Fault (List Request) := do
  let rules ← plan.lifecycleRules.values.mapM LifecyclePlan.request
  return plan.callIf (!plan.lifecycleRules.isEmpty) .putLifecycle
    [("LifecycleConfiguration", .record [("Rules", .list rules)])]

def replicationCalls (plan : Plan) (minutes : Int) : List Request :=
  plan.replication.toList.map fun replication =>
    plan.call .putReplication [("ReplicationConfiguration",
      .record [("Role", plain replication.role),
        ("Rules", .list (replication.rules.map (·.request minutes)))])]

def notificationCalls (plan : Plan) : Except Fault (List Request) :=
  match plan.notifications with
  | none => .ok []
  | some notifications => do
    return [plan.call .putNotification [("NotificationConfiguration", ← notifications.request)]]

def ruleCalls (plan : Plan) : List Request :=
  (plan.inventoryRules.values.map fun rule => plan.call .putInventory
    [("Id", plain rule.name), ("InventoryConfiguration", rule.request)]) ++
  plan.tieringRules.values.map fun rule => plan.call .putTiering
    [("Id", plain rule.name), ("IntelligentTieringConfiguration", rule.request)]

/-- The calls that carry out a plan. -/
def requests (plan : Plan) (minutes : Int := ReplicationRulePlan.thresholdMinutes) :
    Except Fault (List Request) := do
  let lifecycle ← plan.lifecycleCalls
  let notification ← plan.notificationCalls
  return plan.settingCalls ++ plan.lockCalls ++ plan.contentCalls ++ lifecycle ++
    plan.replicationCalls minutes ++ notification ++ plan.ruleCalls

/-- A line for those who watch closely. -/
def remark (plan : Plan) (requests : List Request) : String :=
  s!"Rendered {requests.length} request(s) for bucket {plan.bucketName}"

end Plan

end BucketPlan
