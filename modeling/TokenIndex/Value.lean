import TokenIndex.Binary64
import TokenIndex.Text.Basic

namespace TokenIndex

/-- The values of search data and of the service's answers. Fields keep their order. -/
inductive Value where
  | null
  | bool (b : Bool)
  | int (i : Int)
  | float (x : Binary64)
  | text (t : Text)
  | array (items : List Value)
  | object (fields : List (Text × Value))
  deriving Repr, Inhabited

namespace Value

def ofString (s : String) : Value := .text s

def ofNat (n : Nat) : Value := .int n

def field? (fields : List (Text × Value)) (name : Text) : Option Value := fields.lookup name

/-- A field given again keeps its place and takes the new value. -/
def setField (fields : List (Text × Value)) (name : Text) (v : Value) : List (Text × Value) :=
  if fields.any (·.1 == name) then fields.map fun f => if f.1 == name then (name, v) else f
  else fields ++ [(name, v)]

mutual

/-- Whether all numbers in a value are finite. -/
def isFinite : Value → Bool
  | .float (.finite _ _ _) => true
  | .float _ => false
  | .array items => areFinite items
  | .object fields => fieldsAreFinite fields
  | _ => true

def areFinite : List Value → Bool
  | [] => true
  | v :: vs => isFinite v && areFinite vs

def fieldsAreFinite : List (Text × Value) → Bool
  | [] => true
  | (_, v) :: fields => isFinite v && fieldsAreFinite fields

end

end Value

end TokenIndex
