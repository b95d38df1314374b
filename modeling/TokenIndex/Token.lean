import TokenIndex.Text.HexGroup
import TokenIndex.Text.Lower

namespace TokenIndex.Token

def isSafe (c : CodePoint) : Bool := c.between 'a' 'z' || c.between '0' '9'

def escape (b : Byte) : Text := '_' :: Text.hex 2 b.val

def encodeOne (c : CodePoint) : Text :=
  if isSafe c then [c] else (Utf8.encodeOne c).flatMap escape

/-- The token of a name. Characters are encoded one by one, so a fault is that of the first
surrogate, standing alone. -/
def encode (name : Text) : Except Utf8.EncodeFault Text :=
  match name.lower.find? CodePoint.isSurrogate with
  | some c => .error ⟨0, c, 1⟩
  | none => .ok (name.lower.flatMap encodeOne)

/-- A lower case hexadecimal digit. -/
def digit? (c : CodePoint) : Option Nat :=
  if c.between 'A' 'F' then none else Text.hexDigit? c

/-- A byte spelled `_hh` at the start of a text, and what follows it. -/
def group? (t : Text) : Option (Byte × Text) := Text.hexGroup? '_' digit? t

/-- Bytes of adjacent groups are decoded together; `run` holds those not yet decoded. -/
def decodeFrom (run : Bytes) (t : Text) : Text :=
  match _h : group? t with
  | some (b, rest) => decodeFrom (run ++ [b]) rest
  | none =>
    match t with
    | [] => Utf8.decodeLenient run
    | c :: rest => Utf8.decodeLenient run ++ c :: decodeFrom [] rest
termination_by t.length
decreasing_by
  · exact Text.hexGroup?_length _h
  · exact Nat.lt_succ_self _

/-- Undoes the escapes of a token; case is not recovered. -/
def decode (token : Text) : Text := decodeFrom [] token

end TokenIndex.Token
