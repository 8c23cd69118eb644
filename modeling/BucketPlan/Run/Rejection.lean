import BucketPlan.Violation.Basic

namespace BucketPlan

/-- The refusal of a bucket, which names its first five errors. -/
def rejectionMessage (bucket : Option String) (violations : List Violation) : String :=
  let errors := violations.filter Violation.isError
  let named := (errors.take 5).map fun v => v.path ++ ": " ++ v.code.name
  let unnamed := if 5 < errors.length then s!"; and {errors.length - 5} more" else ""
  let name := match bucket with
    | some name => if name = "" then "<unnamed>" else name
    | none => "<unnamed>"
  s!"Bucket {name} rejected with {errors.length} error(s): " ++ "; ".intercalate named ++ unnamed

end BucketPlan
