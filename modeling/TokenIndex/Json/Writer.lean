import TokenIndex.Value

namespace TokenIndex.Json

def escapeOne (c : CodePoint) : Text :=
  if c = '"' ∨ c = '\\' then ['\\', c]
  else if c = '\n' then "\\n"
  else if c = '\r' then "\\r"
  else if c = '\t' then "\\t"
  else if c = 0x08 then "\\b"
  else if c = 0x0C then "\\f"
  else if c.val < 0x20 then "\\u" ++ Text.hex 4 c.val
  else [c]

def string (t : Text) : Text := "\"" ++ t.flatMap escapeOne ++ "\""

def float (x : Binary64) : Text := x.text "Infinity" "NaN"

/-- Where line breaks go: none at all, or one before each item with two blanks for each level. -/
inductive Layout where
  | compact
  | indented (level : Nat)

namespace Layout

def inner : Layout → Layout
  | compact => compact
  | indented n => indented (n + 1)

def newline : Layout → Text
  | compact => []
  | indented n => '\n' :: Text.fill (2 * n) ' '

def colon : Layout → Text
  | compact => ":"
  | indented _ => ": "

/-- Items between brackets. -/
def bracket (l : Layout) (opening closing : CodePoint) : List Text → Text
  | [] => [opening, closing]
  | items =>
    opening :: l.inner.newline ++ Text.join (',' :: l.inner.newline) items ++ l.newline ++ [closing]

end Layout

mutual

def write (l : Layout) : Value → Text
  | .null => "null"
  | .bool b => if b then "true" else "false"
  | .int i => Text.decimalInt i
  | .float x => float x
  | .text t => string t
  | .array items => l.bracket '[' ']' (writeItems l.inner items)
  | .object fields => l.bracket '\x7b' '\x7d' (writeFields l.inner fields)

def writeItems (l : Layout) : List Value → List Text
  | [] => []
  | v :: vs => write l v :: writeItems l vs

def writeFields (l : Layout) : List (Text × Value) → List Text
  | [] => []
  | (name, v) :: fields => (string name ++ l.colon ++ write l v) :: writeFields l fields

end

def compact (v : Value) : Text := write .compact v

/-- One item a line. -/
def indented (v : Value) : Text := write (.indented 0) v

end TokenIndex.Json
