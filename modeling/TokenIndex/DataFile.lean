import TokenIndex.Text.Digit
import TokenIndex.Text.Basic

namespace TokenIndex.DataFile

/-- The number in the name of a data file. -/
def number? (category name : Text) : Option Nat := do
  let rest ← Text.after? "_" (← Text.after? category name)
  let digits := (rest.takeWhile CodePoint.isDigit).filterMap CodePoint.digit?
  if digits.isEmpty || rest.dropWhile CodePoint.isDigit ≠ ".js" then none
  else some (Text.ofDigits 10 digits)

/-- Numbers first, names among equal numbers. -/
def before (a b : Nat × Text) : Bool := a.1 < b.1 || (a.1 = b.1 && !decide (b.2 < a.2))

def inOrder (category : Text) (names : List Text) : List Text :=
  let numbered := names.filterMap fun name => (number? category name).map (·, name)
  (numbered.mergeSort before).map (·.2)

end TokenIndex.DataFile
