import BucketPlan.Plan.Basic
import BucketPlan.Value.Held

namespace BucketPlan

namespace DataType

def filter : DataType :=
  record "CompiledFilter" [("prefix", optional text), ("tags", sequence (pair text text)),
    ("object_size_greater_than", optional integer), ("object_size_less_than", optional integer)]

def lifecycleAction : DataType :=
  record "LifecycleAction" [("action", text), ("days", optional integer),
    ("storage_class", optional text), ("date", optional text),
    ("newer_noncurrent_versions", optional integer)]

def lifecycleRule : DataType :=
  record "CompiledLifecycleRule" [("name", text), ("enabled", truth), ("filter", filter),
    ("actions", sequence lifecycleAction)]

def replicationRule : DataType :=
  record "CompiledReplicationRule" [("name", text), ("priority", integer), ("enabled", truth),
    ("destination_bucket", text), ("filter", filter), ("storage_class", optional text),
    ("replica_kms_key_id", optional text), ("destination_account_id", optional text),
    ("account_scope", text), ("requires_destination_grant", truth), ("metrics", truth),
    ("replication_time_control", truth), ("replica_modification_sync", truth),
    ("delete_marker_replication", truth)]

/-- A role may be missing, although none is declared to be. -/
def replication : DataType :=
  record "CompiledReplication" [("role", optional text), ("rules", sequence replicationRule)]

def subscription : DataType :=
  record "CompiledSubscription" [("events", sequence text), ("filter_prefix", optional text),
    ("filter_suffix", optional text)]

def destination : DataType :=
  record "CompiledDestination" [("address", text), ("kind", text),
    ("subscriptions", sequence subscription)]

def notifications : DataType :=
  record "CompiledNotifications" [("destinations", sequence destination), ("eventbridge", truth)]

/-- So may a format and a frequency. -/
def inventoryRule : DataType :=
  record "CompiledInventoryRule" [("name", text), ("enabled", truth), ("filter_prefix", optional text),
    ("destination_bucket_arn", text), ("destination_account_id", optional text),
    ("destination_prefix", optional text), ("output_format", optional text),
    ("encryption", optional text), ("kms_key_id", optional text), ("frequency", optional text),
    ("included_object_versions", text), ("optional_fields", sequence text)]

def tieringRule : DataType :=
  record "CompiledTieringRule" [("name", text), ("enabled", truth), ("filter", filter),
    ("tierings", sequence (pair text integer))]

def objectLock : DataType :=
  record "CompiledObjectLock" [("token", optional text), ("retention_mode", optional text),
    ("retention_days", optional integer), ("retention_years", optional integer)]

def encryption : DataType :=
  record "CompiledEncryption" [("sse_algorithm", text), ("kms_master_key_id", optional text),
    ("bucket_key_enabled", truth)]

def publicAccess : DataType :=
  record "CompiledPublicAccessBlock" [("block_public_acls", truth), ("block_public_policy", truth),
    ("ignore_public_acls", truth), ("restrict_public_buckets", truth)]

def corsRule : DataType :=
  record "CorsRule" [("allowed_methods", sequence text), ("allowed_origins", sequence text),
    ("allowed_headers", sequence text), ("expose_headers", sequence text),
    ("max_age_seconds", optional integer), ("id", optional text)]

def redirect : DataType :=
  record "RedirectAllRequests" [("host_name", optional text), ("protocol", optional text)]

def routingRule : DataType :=
  record "RoutingRule" [("condition_key_prefix", optional text),
    ("condition_http_error_code", optional text), ("redirect_host_name", optional text),
    ("redirect_protocol", optional text), ("redirect_http_code", optional text),
    ("replace_key_prefix_with", optional text), ("replace_key_with", optional text)]

/-- The kind does not decide which of the other fields are set. -/
def website : DataType :=
  record "CompiledWebsite" [("kind", text), ("redirect", optional redirect),
    ("index_document", optional text), ("error_document", optional text),
    ("routing_rules", sequence routingRule)]

def bundle : DataType :=
  record "ConfigurationBundle" [("bucket_name", text), ("owner_account_id", optional text),
    ("tags", sequence (pair text text)), ("versioning_enabled", truth),
    ("object_lock", optional objectLock), ("encryption", encryption),
    ("public_access_block", publicAccess), ("object_ownership", text), ("requester_pays", truth),
    ("transfer_acceleration", truth), ("policy", optional text), ("cors_rules", sequence corsRule),
    ("website", optional website), ("lifecycle_rules", mapping lifecycleRule),
    ("replication", optional replication), ("notifications", optional notifications),
    ("inventory_rules", mapping inventoryRule), ("intelligent_tiering_rules", mapping tieringRule)]

instance : filter.Carries FilterPlan where
  held f := .record <| .field (held f.keyPrefix) <| .field (held f.tags) <|
    .field (held f.sizeAbove) <| .field (held f.sizeBelow) .noMore

instance : lifecycleAction.Carries LifecycleAction where
  held a := .record <| .field (held a.kind.name) <| .field (held a.days) <|
    .field (held a.storageClass) <| .field (held a.date) <| .field (held a.newerVersions) .noMore

instance : lifecycleRule.Carries LifecyclePlan where
  held r := .record <| .field (held r.name) <| .field (held r.enabled) <| .field (held r.filter) <|
    .field (held r.actions) .noMore

instance : replicationRule.Carries ReplicationRulePlan where
  held r := .record <| .field (held r.name) <| .field (held r.priority) <| .field (held r.enabled) <|
    .field (held r.destination) <| .field (held r.filter) <| .field (held r.storageClass) <|
    .field (held r.replicaKey) <| .field (held r.accountId) <| .field (held r.accountScope.name) <|
    .field (held r.needsGrant) <| .field (held r.metrics) <| .field (held r.timeControl) <|
    .field (held r.modificationSync) <| .field (held r.deleteMarkers) .noMore

instance : replication.Carries ReplicationPlan where
  held r := .record <| .field (held r.role) <| .field (held r.rules) .noMore

instance : subscription.Carries Subscription where
  held s := .record <| .field (held s.events) <| .field (held s.keyPrefix) <|
    .field (held s.keySuffix) .noMore

instance : destination.Carries DestinationPlan where
  held d := .record <| .field (held d.address) <| .field (held d.kind.name) <|
    .field (held d.subscriptions) .noMore

instance : notifications.Carries NotificationPlan where
  held n := .record <| .field (held n.destinations) <| .field (held n.eventBridge) .noMore

instance : inventoryRule.Carries InventoryPlan where
  held r := .record <| .field (held r.name) <| .field (held r.enabled) <| .field (held r.keyPrefix) <|
    .field (held r.destination) <| .field (held r.accountId) <| .field (held r.destinationPrefix) <|
    .field (held r.format) <| .field (held r.encryption) <| .field (held r.keyId) <|
    .field (held r.frequency) <| .field (held r.versions) <| .field (held r.optionalFields) .noMore

instance : tieringRule.Carries TieringPlan where
  held r := .record <| .field (held r.name) <| .field (held r.enabled) <| .field (held r.filter) <|
    .field (held r.tierings) .noMore

instance : objectLock.Carries ObjectLockPlan where
  held l := .record <| .field (held l.token) <| .field (held l.retention.mode) <|
    .field (held l.retention.days) <| .field (held l.retention.years) .noMore

instance : encryption.Carries EncryptionPlan where
  held e := .record <| .field (held e.algorithm) <| .field (held e.masterKey) <|
    .field (held e.bucketKey) .noMore

instance : publicAccess.Carries PublicAccessPlan where
  held p := .record <| .field (held p.blockAcls) <| .field (held p.blockPolicy) <|
    .field (held p.ignoreAcls) <| .field (held p.restrictBuckets) .noMore

instance : corsRule.Carries CorsRule where
  held r := .record <| .field (held r.methods) <| .field (held r.origins) <| .field (held r.headers) <|
    .field (held r.exposed) <| .field (held r.maxAge) <| .field (held r.id) .noMore

instance : redirect.Carries Redirect where
  held r := .record <| .field (held r.host) <| .field (held r.protocol) .noMore

instance : routingRule.Carries RoutingRule where
  held r := .record <| .field (held r.whenPrefix) <| .field (held r.whenErrorCode) <|
    .field (held r.host) <| .field (held r.protocol) <| .field (held r.httpCode) <|
    .field (held r.replacePrefix) <| .field (held r.replaceKey) .noMore

/-- Fields of the variant that a website does not have are left unset. -/
def websiteFields (target : Option Redirect) (site : StaticSite) :
    HoldsAll [("redirect", optional redirect), ("index_document", optional text),
      ("error_document", optional text), ("routing_rules", sequence routingRule)]
      (WebsitePlan.fields target site) :=
  .field (held target) <| .field (held site.indexDocument) <| .field (held site.errorDocument) <|
    .field (held site.routingRules) .noMore

instance : website.Carries WebsitePlan where
  held
    | .redirect target => .record <| .field (held "redirect") <| websiteFields (some target) {}
    | .static site => .record <| .field (held "static") <| websiteFields none site

instance : bundle.Carries Plan where
  held p := .record <| .field (held p.bucketName) <| .field (held p.ownerAccount) <|
    .field (held p.tags) <| .field (held p.versioning) <| .field (held p.objectLock) <|
    .field (held p.encryption) <| .field (held p.publicAccess) <| .field (held p.ownership) <|
    .field (held p.requesterPays) <| .field (held p.acceleration) <| .field (held p.policy) <|
    .field (held p.corsRules) <| .field (held p.website) <| .field (held p.lifecycleRules) <|
    .field (held p.replication) <| .field (held p.notifications) <| .field (held p.inventoryRules) <|
    .field (held p.tieringRules) .noMore

end DataType

/-- A bundle of settings, whether or not any description comes to it. -/
structure Bundle where
  datum : Datum
  admitted : DataType.bundle.Admits datum

instance : Plain Bundle := ⟨fun bundle => bundle.datum.flat⟩

namespace Bundle

def ofPlan (plan : Plan) : Bundle where
  datum := DataType.bundle.datum plan
  admitted := DataType.admits_datum plan

@[simp]
theorem plain_ofPlan (plan : Plan) : plain (ofPlan plan) = plain plan :=
  DataType.flat_datum plan

end Bundle

end BucketPlan
