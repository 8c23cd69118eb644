import BucketPlan.Text.Ranges

namespace BucketPlan

def blankRanges : List (Nat × Nat) :=
  [(9, 13), (28, 32), (133, 133), (160, 160), (5760, 5760), (8192, 8202), (8232, 8233),
   (8239, 8239), (8287, 8287), (12288, 12288)]

/-- White space of every script, the information separators and the next-line control included. -/
def isBlank (c : Char) : Bool :=
  inRanges blankRanges c

/-- The text without the white space at its two ends. -/
def strip (s : String) : String :=
  String.ofList ((s.toList.dropWhile isBlank).reverse.dropWhile isBlank).reverse

end BucketPlan
