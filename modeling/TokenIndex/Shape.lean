import TokenIndex.Entry
import TokenIndex.Reference.Resolve

namespace TokenIndex.Shape

inductive EntryDefect where
  | shape
  | locator
  | flag
  | scope
  deriving DecidableEq, Repr

/-- The first thing wrong with the data, by the index of its item. -/
inductive Defect where
  | notList
  | item (i : Nat)
  | token (i : Nat)
  | body (i : Nat) (token : Text)
  | label (i : Nat) (token : Text)
  | duplicate (i : Nat) (token : Text)
  | entry (i : Nat) (token : Text) (j : Nat) (defect : EntryDefect)
  deriving DecidableEq, Repr

inductive Error where
  | defect (d : Defect)
  | tooManyDigits (e : TooManyDigits)
  deriving DecidableEq, Repr

def resolve (t : Text) : Except Error Text :=
  match Reference.resolve t with
  | .ok t => .ok t
  | .error e => .error (.tooManyDigits e)

/-- The entry of a raw list; `fail` names its place. -/
def entry (label : Text) (fail : EntryDefect → Defect) : Value → Except Error Entry
  | .array (locator :: flag :: scope :: _) =>
    match locator with
    | .text (c :: locator) =>
      let link : Option Bool := match flag with
        | .int i => some (i != 0)
        | .bool b => some b
        | _ => none
      match link, scope with
      | none, _ => .error (.defect (fail .flag))
      | some link, .text scope =>
        (resolve scope).map fun scope => ⟨label, c :: locator, scope, link⟩
      | some _, _ => .error (.defect (fail .scope))
    | _ => .error (.defect (fail .locator))
  | _ => .error (.defect (fail .shape))

/-- Entries from the raw ones, the first of which has index `j`. -/
def entries (label : Text) (fail : Nat → EntryDefect → Defect) (j : Nat) :
    List Value → Except Error (List Entry)
  | [] => .ok []
  | raw :: rest =>
    match entry label (fail j) raw with
    | .error e => .error e
    | .ok e => (entries label fail (j + 1) rest).map (e :: ·)

/-- The row of an item behind the rows `before`. -/
def row (before : List Row) (item : Value) : Except Error Row :=
  let i := before.length
  match item with
  | .array [token, body] =>
    match token with
    | .text (c :: rest) =>
      let token : Text := c :: rest
      match body with
      | .array (label :: raw :: raws) =>
        match label with
        | .text (d :: label) =>
          if before.any (·.1 == token) then .error (.defect (.duplicate i token))
          else
            match resolve (d :: label) with
            | .error e => .error e
            | .ok label => (entries label (.entry i token) 0 (raw :: raws)).map (token, ·)
        | _ => .error (.defect (.label i token))
      | _ => .error (.defect (.body i token))
    | _ => .error (.defect (.token i))
  | _ => .error (.defect (.item i))

def rowsFrom (before : List Row) : List Value → Except Error (List Row)
  | [] => .ok before
  | item :: items =>
    match row before item with
    | .error e => .error e
    | .ok r => rowsFrom (before ++ [r]) items

/-- One row for each item, in order, if nothing is wrong. -/
def rows : Value → Except Error (List Row)
  | .array items => rowsFrom [] items
  | _ => .error (.defect .notList)

def EntryDefect.message : EntryDefect → Text
  | .shape => "expected [locator, flag, scope]"
  | .locator => "missing locator"
  | .flag => "link flag must be a number"
  | .scope => "missing scope"

def place (i : Nat) : Text := "item " ++ Text.decimal i

def placeOf (i : Nat) (token : Text) : Text := place i ++ " (" ++ token ++ ")"

def Defect.message : Defect → Text
  | .notList => "Search data must be a list"
  | .item i => place i ++ ": expected [token, [label, entries...]]"
  | .token i => place i ++ ": missing token"
  | .body i t => placeOf i t ++ ": expected [label, entries...]"
  | .label i t => placeOf i t ++ ": missing label"
  | .duplicate i t => placeOf i t ++ ": duplicate token"
  | .entry i t j defect => placeOf i t ++ " entry " ++ Text.decimal j ++ ": " ++ defect.message

end TokenIndex.Shape
