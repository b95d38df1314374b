import TokenIndex.Text.Quoted
import TokenIndex.Value

namespace TokenIndex.Value

def kind : Value → Text
  | null => "NoneType"
  | bool _ => "bool"
  | int _ => "int"
  | float _ => "float"
  | text _ => "str"
  | array _ => "list"
  | object _ => "dict"

def boolName (b : Bool) : Text := if b then "True" else "False"

def floatName (x : Binary64) : Text := x.text "inf" "nan"

mutual

/-- The form of a value inside another: texts are quoted. -/
def inner : Value → Text
  | null => "None"
  | bool b => boolName b
  | int i => Text.decimalInt i
  | float x => floatName x
  | text t => t.quoted
  | array items => "[" ++ Text.join ", " (innerItems items) ++ "]"
  | object fields => "\x7b" ++ Text.join ", " (innerFields fields) ++ "\x7d"

def innerItems : List Value → List Text
  | [] => []
  | v :: vs => inner v :: innerItems vs

def innerFields : List (Text × Value) → List Text
  | [] => []
  | (name, v) :: fields => (name.quoted ++ ": " ++ inner v) :: innerFields fields

end

/-- A value on its own: a text as it is. -/
def shown : Value → Text
  | text t => t
  | v => v.inner

/-- Why a value does not give what is asked of it. -/
inductive UseError where
  | noField (name : Text)
  | noNamedFields (kind : Text)
  | arrayField
  | textField
  | noLength (kind : Text)
  | noItems (kind : Text)
  | noColumn (kind : Text)
  deriving DecidableEq, Repr

def UseError.message : UseError → Text
  | noField name => name.quoted
  | noNamedFields kind => "'" ++ kind ++ "' object is not subscriptable"
  | arrayField => "list indices must be integers or slices, not str"
  | textField => "string indices must be integers, not 'str'"
  | noLength kind => "object of type '" ++ kind ++ "' has no len()"
  | noItems kind => "'" ++ kind ++ "' object is not iterable"
  | noColumn kind => "unsupported format string passed to " ++ kind ++ ".__format__"

def get (v : Value) (name : Text) : Except UseError Value :=
  match v with
  | object fields =>
    match field? fields name with
    | some v => .ok v
    | none => .error (.noField name)
  | array _ => .error .arrayField
  | text _ => .error .textField
  | v => .error (.noNamedFields v.kind)

def length : Value → Except UseError Nat
  | text t => .ok t.length
  | array items => .ok items.length
  | object fields => .ok fields.length
  | v => .error (.noLength v.kind)

/-- The items of a value: those of an array, the characters of a text, the names of an object. -/
def items : Value → Except UseError (List Value)
  | text t => .ok (t.map fun c => text [c])
  | array items => .ok items
  | object fields => .ok (fields.map fun f => text f.1)
  | v => .error (.noItems v.kind)

/-- A value in a column: texts on the left, numbers on the right, a flag as the number it is. -/
def inColumn (width : Nat) : Value → Except UseError Text
  | text t => .ok (t.padRight width)
  | bool b => .ok (Text.padLeft width (if b then "1" else "0"))
  | int i => .ok (Text.padLeft width (Text.decimalInt i))
  | float x => .ok (Text.padLeft width (floatName x))
  | v => .error (.noColumn v.kind)

def isVoid : Value → Bool
  | null => true
  | bool b => !b
  | int i => i == 0
  | float x => x.isZero
  | text t => t.isEmpty
  | array items => items.isEmpty
  | object fields => fields.isEmpty

end TokenIndex.Value
