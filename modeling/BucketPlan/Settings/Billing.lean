import BucketPlan.Finding

namespace BucketPlan

/-- What requesters do not pay is billed to an account. -/
def requesterPaysFindings (requesterPays : Option Bool) (account : Option String) : List Finding :=
  if requesterPays = some true then
    Scope.require { area := "bucket_owner_account_id" } (isFilled account) ""
      "requester_pays requires bucket_owner_account_id"
  else []

end BucketPlan
