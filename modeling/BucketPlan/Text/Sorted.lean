namespace BucketPlan

/-- The texts in code-point order, each once. -/
def sortedSet (texts : List String) : List String :=
  texts.eraseDups.mergeSort fun a b => decide (a ≤ b)

end BucketPlan
