namespace BucketPlan

/-- The parts that are not empty, joined by dots. -/
def dottedPath (parts : List String) : String :=
  ".".intercalate (parts.filter (· ≠ ""))

/-- The parts of a dotted path that are not empty. -/
def segments (path : String) : List String :=
  ((path.toList.splitOn '.').filter (· ≠ [])).map String.ofList

end BucketPlan
