import TokenIndex.Text.HexGroup

namespace TokenIndex.Percent

/-- A byte spelled `%hh` at the start of a text, and what follows it. -/
def group? (t : Text) : Option (Byte × Text) := Text.hexGroup? '%' Text.hexDigit? t

def bytes (t : Text) : Bytes :=
  match _h : group? t with
  | some (b, rest) => b :: bytes rest
  | none =>
    match t with
    | [] => []
    | c :: rest => Utf8.encodeOne c ++ bytes rest
termination_by t.length
decreasing_by
  · exact Text.hexGroup?_length _h
  · exact Nat.lt_succ_self _

/-- The text that the bytes spell, U+FFFD for what is ill-formed. -/
def decode (t : Text) : Text := Utf8.decodeLenient (bytes t)

def upperHexDigit (n : Nat) : CodePoint := .ofNat (if n < 10 then 48 + n else 55 + n)

def escape (b : Byte) : Text :=
  ['%', upperHexDigit (b.val / 16), upperHexDigit (b.val % 16)]

/-- Characters that are kept in every part of a URL. -/
def isUnreserved (c : CodePoint) : Bool :=
  c.between 'A' 'Z' || c.between 'a' 'z' || c.between '0' '9' || c.isOneOf "_.-~"

def encodeByte (kept : CodePoint → Bool) (b : Byte) : Text :=
  let c : CodePoint := .ofNat b.val
  if b.val < 0x80 && kept c then [c] else escape b

/-- Escapes the bytes of a text but those of the ASCII characters in `kept`. -/
def encodeKeeping (kept : CodePoint → Bool) (t : Text) : Except Utf8.EncodeFault Text :=
  (Utf8.encode t).map (·.flatMap (encodeByte kept))

def encode (t : Text) : Except Utf8.EncodeFault Text := encodeKeeping isUnreserved t

end TokenIndex.Percent
