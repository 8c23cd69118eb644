import BucketPlan.Finding

namespace BucketPlan

/-- Who owns the objects of a bucket. -/
def ownershipModes : List String :=
  ["BucketOwnerEnforced", "BucketOwnerPreferred", "ObjectWriter"]

def defaultOwnership : String := "BucketOwnerEnforced"

def ownershipFindings (ownership : Option String) : List Finding :=
  Scope.oneOf { area := "object_ownership" } ownership ownershipModes ""

end BucketPlan
