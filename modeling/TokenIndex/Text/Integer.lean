import TokenIndex.Text.Blank
import TokenIndex.Text.Digit

namespace TokenIndex

/-- A decimal number has more digits than are converted. -/
structure TooManyDigits where
  count : Nat
  deriving DecidableEq, Repr

namespace TooManyDigits

def limit : Nat := 4300

def message (e : TooManyDigits) : Text :=
  "Exceeds the limit (" ++ Text.decimal limit ++
    " digits) for integer string conversion: value has " ++ Text.decimal e.count ++
    " digits; use sys.set_int_max_str_digits() to increase the limit"

end TooManyDigits

namespace Text

/-- The number with these decimal digits; leading zeros count against the limit. -/
def convertDigits (digits : List Nat) : Except TooManyDigits Nat :=
  if digits.length > TooManyDigits.limit then .error ⟨digits.length⟩ else .ok (ofDigits 10 digits)

/-- Digits, as `digit?` reads them; single low lines are allowed between two of them. -/
def groupedDigits? (digit? : CodePoint → Option Nat) : Text → Option (List Nat)
  | [] => none
  | c :: rest =>
    match digit? c, rest with
    | none, _ => none
    | some d, [] => some [d]
    | some d, u :: more =>
      (groupedDigits? digit? (if u = '_' then more else u :: more)).map (d :: ·)
termination_by t => t.length
decreasing_by split <;> simp only [List.length_cons] <;> omega

/-- White space around a number: the ASCII separators do not count. -/
def isNumberBlank (c : CodePoint) : Bool := c.isBlank && !(0x1C ≤ c.val && c.val ≤ 0x1F)

def trimNumber (t : Text) : Text := dropEndWhile isNumberBlank (t.dropWhile isNumberBlank)

/-- Whether there is a minus sign in front, and what follows an optional sign. -/
def splitSign : Text → Bool × Text
  | [] => (false, [])
  | c :: rest =>
    if c = '-' then (true, rest) else if c = '+' then (false, rest) else (false, c :: rest)

/-- A whole number in digits of any script, with an optional sign and white space around it. -/
def toInt? (t : Text) : Option Int := do
  let (negative, body) := splitSign (trimNumber t)
  let n ← (convertDigits (← groupedDigits? CodePoint.digit? body)).toOption
  pure (if negative then -n else n)

end Text

end TokenIndex
