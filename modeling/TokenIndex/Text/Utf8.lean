import TokenIndex.Text.Basic

namespace TokenIndex

abbrev Byte := Fin 256

/-- For literals. -/
instance Byte.bound_ne_zero : @NeZero Nat Zero.ofOfNat0 256 := ⟨by decide⟩

abbrev Bytes := List Byte

namespace Utf8

def byte (n : Nat) : Byte := Fin.ofNat 256 n

/-- The bytes of a code point; meaningful for surrogates only as what no text may contain. -/
def encodeOne (c : CodePoint) : Bytes :=
  let n := c.val
  if n < 0x80 then [byte n]
  else if n < 0x800 then [byte (0xC0 + n / 0x40), byte (0x80 + n % 0x40)]
  else if n < 0x10000 then
    [byte (0xE0 + n / 0x1000), byte (0x80 + n / 0x40 % 0x40), byte (0x80 + n % 0x40)]
  else
    [byte (0xF0 + n / 0x40000), byte (0x80 + n / 0x1000 % 0x40), byte (0x80 + n / 0x40 % 0x40),
      byte (0x80 + n % 0x40)]

structure EncodeFault where
  offset : Nat
  first : CodePoint
  count : Nat
  deriving DecidableEq, Repr

/-- The first code point that does not fit, and the run of `bad` ones that it begins. -/
def firstFault? (fits bad : CodePoint → Bool) (t : Text) : Option EncodeFault :=
  match t.dropWhile fits with
  | [] => none
  | c :: rest => some ⟨(t.takeWhile fits).length, c, 1 + (rest.takeWhile bad).length⟩

/-- The first surrogate in a text outside those in `allowed`. -/
def encodeFault? (allowed : CodePoint → Bool) : Text → Option EncodeFault :=
  firstFault? (fun c => !c.isSurrogate || allowed c) CodePoint.isSurrogate

def encode (t : Text) : Except EncodeFault Bytes :=
  match encodeFault? (fun _ => false) t with
  | some e => .error e
  | none => .ok (t.flatMap encodeOne)

inductive Fault where
  | startByte
  | continuationByte
  | endOfData
  deriving DecidableEq, Repr

inductive Piece where
  | char (c : CodePoint)
  | ill (bytes : Bytes) (fault : Fault)
  deriving DecidableEq, Repr

/-- What a first byte asks for: the number of bytes to follow, the bounds of the first of them,
and the leading bits of the code point. -/
structure Lead where
  following : Nat
  low : Nat
  high : Nat
  bits : Nat

def lead? (b : Byte) : Option Lead :=
  let n := b.val
  if n < 0x80 then some ⟨0, 0x80, 0xBF, n⟩
  else if n < 0xC2 then none
  else if n < 0xE0 then some ⟨1, 0x80, 0xBF, n - 0xC0⟩
  else if n < 0xF0 then
    some ⟨2, if n = 0xE0 then 0xA0 else 0x80, if n = 0xED then 0x9F else 0xBF, n - 0xE0⟩
  else if n < 0xF5 then
    some ⟨3, if n = 0xF0 then 0x90 else 0x80, if n = 0xF4 then 0x8F else 0xBF, n - 0xF0⟩
  else none

/-- Reads continuation bytes behind `taken`, which is the sequence so far, last byte first. -/
def follow (taken : Bytes) (bits : Nat) : (following low high : Nat) → Bytes → Piece × Bytes
  | 0, _, _, rest => (.char (.ofNat bits), rest)
  | _ + 1, _, _, [] => (.ill taken.reverse .endOfData, [])
  | n + 1, low, high, b :: rest =>
    if low ≤ b.val ∧ b.val ≤ high then
      follow (b :: taken) (bits * 0x40 + (b.val - 0x80)) n 0x80 0xBF rest
    else (.ill taken.reverse .continuationByte, b :: rest)

/-- The first piece of `b :: rest`, and what follows it. -/
def piece (b : Byte) (rest : Bytes) : Piece × Bytes :=
  match lead? b with
  | none => (.ill [b] .startByte, rest)
  | some lead => follow [b] lead.bits lead.following lead.low lead.high rest

theorem follow_length (taken : Bytes) (bits n low high : Nat) (rest : Bytes) :
    (follow taken bits n low high rest).2.length ≤ rest.length := by
  fun_induction follow taken bits n low high rest with
  | case3 _ _ _ _ _ _ _ _ ih => exact Nat.le_succ_of_le ih
  | _ => simp

theorem piece_length (b : Byte) (rest : Bytes) : (piece b rest).2.length ≤ rest.length := by
  unfold piece
  split
  · exact Nat.le_refl _
  · exact follow_length ..

def pieces : Bytes → List Piece
  | [] => []
  | b :: rest => (piece b rest).1 :: pieces (piece b rest).2
termination_by bytes => bytes.length
decreasing_by exact Nat.lt_succ_of_le (piece_length b rest)

def Piece.width : Piece → Nat
  | .char c => (encodeOne c).length
  | .ill bytes _ => bytes.length

structure DecodeFault where
  offset : Nat
  bytes : Bytes
  fault : Fault
  deriving DecidableEq, Repr

def decodePieces (offset : Nat) : List Piece → Except DecodeFault Text
  | [] => .ok []
  | .char c :: rest => (decodePieces (offset + (encodeOne c).length) rest).map (c :: ·)
  | .ill bytes fault :: _ => .error ⟨offset, bytes, fault⟩

def decode (bytes : Bytes) : Except DecodeFault Text := decodePieces 0 (pieces bytes)

def Piece.replaced : Piece → CodePoint
  | .char c => c
  | .ill _ _ => 0xFFFD

def decodeLenient (bytes : Bytes) : Text := (pieces bytes).map Piece.replaced

/-- A surrogate that stands for a byte of an ill-formed piece. -/
def standsForByte (c : CodePoint) : Bool := 0xDC80 ≤ c.val && c.val ≤ 0xDCFF

def encodeKept (t : Text) : Bytes :=
  t.flatMap fun c => if standsForByte c then [byte (c.val - 0xDC00)] else encodeOne c

def Piece.kept : Piece → Text
  | .char c => [c]
  | .ill bytes _ => bytes.map fun b => .ofNat (0xDC00 + b.val)

def decodeKeeping (bytes : Bytes) : Text := (pieces bytes).flatMap Piece.kept

def Fault.message : Fault → Text
  | .startByte => "invalid start byte"
  | .continuationByte => "invalid continuation byte"
  | .endOfData => "unexpected end of data"

/-- Where bytes stand that cannot be decoded. -/
def bytePlace (offset : Nat) : Bytes → Text
  | [b] => "byte 0x" ++ Text.hex 2 b.val ++ " in position " ++ Text.decimal offset
  | bytes =>
    "bytes in position " ++ Text.decimal offset ++ "-" ++ Text.decimal (offset + bytes.length - 1)

def DecodeFault.message (e : DecodeFault) : Text :=
  "'utf-8' codec can't decode " ++ bytePlace e.offset e.bytes ++ ": " ++ e.fault.message

def EncodeFault.place (e : EncodeFault) : Text :=
  if e.count = 1 then
    "character '" ++ e.first.escaped ++ "' in position " ++ Text.decimal e.offset
  else
    "characters in position " ++ Text.decimal e.offset ++ "-" ++
      Text.decimal (e.offset + e.count - 1)

def EncodeFault.message (e : EncodeFault) : Text :=
  "'utf-8' codec can't encode " ++ e.place ++ ": surrogates not allowed"

end Utf8

end TokenIndex
