import TokenIndex.Percent
import TokenIndex.Text.Integer
import TokenIndex.Value

namespace TokenIndex.Service.Query

/-- A plus sign stands for a blank. -/
def decodePart (t : Text) : Text :=
  let plus : CodePoint := '+'
  let blank : CodePoint := ' '
  Percent.decode (t.map fun c => if c = plus then blank else c)

def field (t : Text) : Text × Text :=
  let sign : CodePoint := '='
  (decodePart (t.takeWhile (· ≠ sign)), decodePart ((t.dropWhile (· ≠ sign)).drop 1))

def fields (query : Text) : List (Text × Text) :=
  ((Text.splitOn '&' query).filter (· ≠ [])).map field

/-- The value of a field; of several the last counts. -/
def value? (query name : Text) : Option Text := (fields query).reverse.lookup name

inductive Defect where
  | missing (name : Text)
  | notInteger (name input : Text)
  | tooManyDigits (name input : Text)
  | tooSmall (name input : Text)
  deriving DecidableEq, Repr

def leastLimit : Nat := 1

def prefixName : Text := "prefix"

def limitName : Text := "limit"

/-- The sign and the digits of a whole number as it is written out: no zeros in front. -/
def integer? (t : Text) : Option (Bool × List Nat) :=
  let dash : CodePoint := '-'
  let (negative, body) := match t with
    | c :: rest => if c = dash then (true, rest) else (false, t)
    | [] => (false, [])
  match body.mapM Text.asciiDigit? with
  | none | some [] => none
  | some [0] => some (negative, [0])
  | some (0 :: _) => none
  | some digits => some (negative, digits)

/-- What is left after a zero and the zeros and low lines that follow it: the rest of a number, or
else the last of them. -/
def afterZero (last : CodePoint) : Text → Option Text
  | [] => some [last]
  | c :: rest =>
    if c = '0' || c = '_' then afterZero c rest
    else if c = '.' then some (last :: c :: rest)
    else if c = '-' || c.between '1' '9' then some (c :: rest)
    else none

def dropLeadingZeros : Text → Option Text
  | [] => none
  | c :: rest =>
    if c = '0' then afterZero c rest
    else if c = '-' || c.between '1' '9' then some (c :: rest)
    else none

/-- Drops a point with zeros and nothing else behind it. -/
def dropZeroFraction (t : Text) : Text :=
  let point : CodePoint := '.'
  let zero : CodePoint := '0'
  match t.dropWhile (· ≠ point) with
  | _ :: d :: zeros => if (d :: zeros).all (· = zero) then t.takeWhile (· ≠ point) else t
  | _ => t

/-- Drops low lines if each stands alone between other characters. -/
def joinGroups (t : Text) : Text :=
  let line : CodePoint := '_'
  if (Text.splitOn line t).any List.isEmpty then t else t.filter (· ≠ line)

def dropPlus : Text → Option Text
  | [] => some []
  | c :: rest =>
    let dash : CodePoint := '-'
    if c ≠ '+' then some (c :: rest) else if rest.head? = some dash then none else some rest

/-- A number without the white space, the signs and the digits that make no difference to it. -/
def cleaned? (t : Text) : Option Text :=
  (((dropPlus (Text.trimNumber t)).bind dropLeadingZeros).map dropZeroFraction).map joinGroups

/-- Digits are read in groups, a first one of 19 and then of 18 each. A run that ends in a point or
an exponent is measured by its full groups. -/
def measured (run : Nat) (next : Option CodePoint) : Nat :=
  if next.any (·.isOneOf ".eE") then if run < 19 then 0 else 19 + (run - 19) / 18 * 18 else run

def width (negative : Bool) (digits : Nat) : Nat := if negative then digits + 1 else digits

/-- Whether a text begins with a number that is too long, its sign counted. -/
def isOversized (t : Text) : Bool :=
  let dash : CodePoint := '-'
  let negative := t.head? = some dash
  let body := if negative then t.drop 1 else t
  let run := body.takeWhile fun c => c.between '0' '9'
  run.head?.any (·.between '1' '9') &&
    TooManyDigits.limit < width negative (measured run.length (body.drop run.length).head?)

/-- A limit, which is at least one. -/
def limit (input : Text) : Except Defect Nat :=
  if isOversized input then .error (.tooManyDigits limitName input)
  else
    match (integer? input).orElse fun _ => (cleaned? input).bind integer? with
    | none => .error (.notInteger limitName input)
    | some (negative, digits) =>
      if TooManyDigits.limit < width negative digits.length then
        .error (.notInteger limitName input)
      else
        let n := Text.ofDigits 10 digits
        if negative || n < leastLimit then .error (.tooSmall limitName input) else .ok n

/-- What a search asks for, or all that is wrong with the query. -/
def search (query : Text) : Except (List Defect) (Text × Option Nat) :=
  let start : Except Defect Text := match value? query prefixName with
    | some t => .ok t
    | none => .error (.missing prefixName)
  let bound : Except Defect (Option Nat) := match value? query limitName with
    | some t => (limit t).map some
    | none => .ok none
  -- all that is wrong is told at once, in this order
  match start, bound with
  | .ok start, .ok bound => .ok (start, bound)
  | .error d, .ok _ => .error [d]
  | .ok _, .error e => .error [e]
  | .error d, .error e => .error [d, e]

namespace Defect

def name : Defect → Text
  | missing name | notInteger name _ | tooManyDigits name _ | tooSmall name _ => name

def kind : Defect → Text
  | missing _ => "missing"
  | notInteger _ _ => "int_parsing"
  | tooManyDigits _ _ => "int_parsing_size"
  | tooSmall _ _ => "greater_than_equal"

def message : Defect → Text
  | missing _ => "Field required"
  | notInteger _ _ => "Input should be a valid integer, unable to parse string as an integer"
  | tooManyDigits _ _ =>
    "Unable to parse input string as an integer, exceeded maximum size"
  | tooSmall _ _ =>
    "Input should be greater than or equal to " ++ Text.decimal leastLimit

def input : Defect → Value
  | missing _ => .null
  | notInteger _ t | tooManyDigits _ t | tooSmall _ t => .text t

def toValue (d : Defect) : Value :=
  let fields : List (Text × Value) := [("type", .text d.kind),
    ("loc", .array [.ofString "query", .text d.name]), ("msg", .text d.message), ("input", d.input)]
  match d with
  | tooSmall _ _ =>
    let bound : Text × Value := ("ctx", .object [("ge", .ofNat leastLimit)])
    .object (fields ++ [bound])
  | _ => .object fields

end Defect

end TokenIndex.Service.Query
