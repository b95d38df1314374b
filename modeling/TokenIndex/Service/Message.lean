import TokenIndex.Json.Writer
import TokenIndex.Text.Utf8

namespace TokenIndex.Service

abbrev Headers := List (Text × Text)

def asciiLowerOne (c : CodePoint) : CodePoint :=
  if c.between 'A' 'Z' then .ofNat (c.val + 32) else c

namespace Headers

/-- The first field of a name, which is given in lower case. -/
def value? (h : Headers) (name : Text) : Option Text :=
  (h.find? fun f => f.1.map asciiLowerOne == name).map (·.2)

end Headers

structure Request where
  method : Text
  /-- Path and query, percent encoded. -/
  target : Text
  headers : Headers
  deriving Repr

inductive Body where
  | json (v : Value)
  | text (t : Text)
  deriving Repr

structure Response where
  status : Nat
  headers : Headers
  body : Body
  deriving Repr

namespace Response

def json (status : Nat) (v : Value) : Response := ⟨status, [], .json v⟩

/-- A value as it is sent, unless it holds a surrogate. -/
def ofValue (v : Value) : Except Utf8.EncodeFault Response :=
  match Utf8.encode (Json.compact v) with
  | .ok _ => .ok (json 200 v)
  | .error e => .error e

def refusal (status : Nat) (reason : Text) : Response :=
  json status (.object [("detail", .text reason)])

def addHeaders (r : Response) (h : Headers) : Response := { r with headers := r.headers ++ h }

end Response

end TokenIndex.Service
