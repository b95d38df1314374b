import TokenIndex.Text.Basic

namespace TokenIndex

/-- A finite value is `± mantissa * 2 ^ exponent` with `mantissa < 2 ^ 53`, and either
`2 ^ 52 ≤ mantissa` or the least exponent. -/
inductive Binary64 where
  | finite (negative : Bool) (mantissa : Nat) (exponent : Int)
  | infinite (negative : Bool)
  | nan
  deriving DecidableEq, Repr, Inhabited

namespace Binary64

def leastExponent : Int := -1074

def greatestExponent : Int := 971

/-- The integer nearest to `num / den`, a half going to the even one. -/
def roundDiv (num den : Nat) : Nat :=
  let q := num / den
  let twice := 2 * (num % den)
  if twice < den || (twice = den && q % 2 = 0) then q else q + 1

/-- `n * base ^ e` as a fraction. -/
def fraction (n base : Nat) (e : Int) : Nat × Nat :=
  if e < 0 then (n, Nat.pow base e.natAbs) else (n * Nat.pow base e.natAbs, 1)

/-- The greatest `e` with `2 ^ e * den ≤ num`. -/
def binaryExponent (num den : Nat) : Int :=
  let e := (num.log2 : Int) - den.log2
  let (n, d) := fraction den 2 e
  if n ≤ num * d then e else e - 1

def ofFraction (negative : Bool) (num den : Nat) : Binary64 :=
  if num = 0 then .finite negative 0 leastExponent
  else
    let e := max leastExponent (binaryExponent num den - 52)
    let (n, d) := fraction 1 2 (-e)
    let m := roundDiv (num * n) (den * d)
    let (m, e) := if m = Nat.pow 2 53 then (Nat.pow 2 52, e + 1) else (m, e)
    if e > greatestExponent then .infinite negative else .finite negative m e

/-- The value of decimal digits with the point `exponent` places after the last of them. -/
def ofDecimal (negative : Bool) (digits : List Nat) (exponent : Int) : Binary64 :=
  let digits := digits.dropWhile (· = 0)
  let magnitude := digits.length + exponent
  if digits.isEmpty || magnitude < -400 then .finite negative 0 leastExponent
  else if magnitude > 400 then .infinite negative
  else
    let (n, d) := fraction (Text.ofDigits 10 digits) 10 exponent
    ofFraction negative n d

def isZero : Binary64 → Bool
  | .finite _ m _ => m = 0
  | _ => false

/-- Whether `digits * 10 ^ e` reads back as the positive value `x`. -/
def readsBack (x : Binary64) (digits : Nat) (e : Int) : Bool :=
  let (n, d) := fraction digits 10 e
  ofFraction false n d = x

/-- Of the two decimals with `places` digits around a fraction, the nearer that reads back. -/
def decimalOf? (x : Binary64) (num den : Nat) (top : Int) (places : Nat) : Option (Nat × Int) :=
  let e := top - places + 1
  let (n, d) := fraction 1 10 (-e)
  let low := num * n / (den * d)
  let near := roundDiv (num * n) (den * d)
  let far := if near = low then low + 1 else low
  if readsBack x near e then some (near, e)
  else if readsBack x far e then some (far, e)
  else none

/-- The greatest `e` with `10 ^ e * den ≤ num`. -/
def decimalExponent (num den : Nat) : Int :=
  let e := ((Nat.toDigits 10 num).length : Int) - (Nat.toDigits 10 den).length
  let (n, d) := fraction den 10 e
  if n ≤ num * d then e else e - 1

def significant (digits : List Nat) (e : Int) : List Nat × Int :=
  let kept := (digits.reverse.dropWhile (· = 0)).reverse
  (kept, e + (digits.length - kept.length))

/-- The fewest digits that read back, without trailing zeros, and the place after the last. -/
def shortest (mantissa : Nat) (exponent : Int) : List Nat × Int :=
  let (num, den) := fraction mantissa 2 exponent
  let x := Binary64.finite false mantissa exponent
  let top := decimalExponent num den
  -- seventeen digits always read back
  match (List.range 17).findSome? fun i => decimalOf? x num den top (i + 1) with
  | some (n, e) => significant ((Nat.toDigits 10 n).map fun c => c.toNat - 48) e
  | none => ([], 0)

def digitText (digits : List Nat) : Text := digits.flatMap Text.decimal

/-- Positional from 0.0001 up to below 10 ^ 16, with a point always; else one digit before the
point and an exponent of two digits or more. -/
def decimalText (digits : List Nat) (e : Int) : Text :=
  let point := digits.length + e
  if point ≤ -4 ∨ 16 < point then
    let tail : Text := if digits.length > 1 then "." ++ digitText digits.tail else []
    let power := point - 1
    let mark : Text := if power < 0 then "e-" else "e+"
    let size := Text.decimal power.natAbs
    digitText (digits.take 1) ++ tail ++ mark ++ Text.fill (2 - size.length) '0' ++ size
  else if point ≤ 0 then
    "0." ++ Text.fill point.natAbs '0' ++ digitText digits
  else if digits.length ≤ point.natAbs then
    digitText digits ++ Text.fill (point.natAbs - digits.length) '0' ++ ".0"
  else
    digitText (digits.take point.natAbs) ++ "." ++ digitText (digits.drop point.natAbs)

def sign (negative : Bool) : Text := if negative then "-" else ""

def text (infinity notANumber : Text) : Binary64 → Text
  | .finite negative 0 _ => sign negative ++ "0.0"
  | .finite negative m e =>
    let (digits, place) := shortest m e
    sign negative ++ decimalText digits place
  | .infinite negative => sign negative ++ infinity
  | .nan => notANumber

end Binary64

end TokenIndex
