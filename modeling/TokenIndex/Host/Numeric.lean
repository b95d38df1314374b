import TokenIndex.Text.Basic

namespace TokenIndex.Host

/-- Whether a text has at least four runs of digits with one character between two of them; the
states are how many of those characters have come, and whether a digit has come since. -/
def resemblesIPv4 (t : Text) : Bool :=
  let step := fun (states : List (Nat × Bool)) (c : CodePoint) =>
    (states.flatMap fun (points, digit) =>
      (if c.between '0' '9' then [(points, true)] else []) ++
        if digit && points < 3 then [(points + 1, false)] else []).eraseDups
  (t.foldl step [(0, false)]).contains (3, true)

def isByte (t : Text) : Bool :=
  match t.mapM Text.asciiDigit? with
  | none | some [] => false
  | some [_] => true
  | some (d :: digits) =>
    d ≠ 0 && digits.length < 3 && Text.ofDigits 10 (d :: digits) < 256

def isIPv4 (t : Text) : Bool :=
  let parts := Text.splitOn '.' t
  parts.length = 4 && parts.all isByte

def isGroup (t : Text) : Bool :=
  !t.isEmpty && t.length ≤ 4 && t.all fun c => (Text.hexDigit? c).isSome

/-- The groups with the last, if it has a point in it, read as two of them. -/
def plainGroups? (t : Text) : Option (List Text) :=
  let point : CodePoint := '.'
  let zero : Text := "0"
  let parts := Text.splitOn ':' t
  match parts.getLast? with
  | none => none
  | some last =>
    if parts.length < 3 then none
    else if !last.contains point then some parts
    else if isIPv4 last then some (parts.dropLast ++ [zero, zero])
    else none

/-- Groups on one side of the gap: an empty one may only be alone, at the end of the address. -/
def side? (groups : List Text) : Option Nat :=
  if groups = [[]] then some 0
  else if groups.all isGroup then some groups.length
  else none

def isPlainIPv6 (t : Text) : Bool :=
  match plainGroups? t with
  | none => false
  | some groups =>
    let inner := groups.tail.dropLast
    match inner.filter List.isEmpty with
    | [] => groups.length = 8 && groups.all isGroup
    | [_] =>
      let before := (inner.takeWhile (· ≠ [])).length + 1
      match side? (groups.take before), side? (groups.drop (before + 1)) with
      | some m, some n => m + n < 8
      | _, _ => false
    | _ => false

def isIPv6 (t : Text) : Bool :=
  let percent : CodePoint := '%'
  isPlainIPv6 (t.takeWhile (· ≠ percent)) &&
    match t.dropWhile (· ≠ percent) with
    | [] => true
    | _ :: zone => !zone.isEmpty && !zone.contains percent

end TokenIndex.Host
