import TokenIndex.Text.Utf8

namespace TokenIndex.Json

inductive Encoding where
  | utf8
  | utf16 (bigEndian : Bool)
  | utf32 (bigEndian : Bool)
  deriving DecidableEq, Repr

namespace Encoding

def ofBytes : Bytes → Encoding
  | [a, b] => if a = 0 then utf16 true else if b = 0 then utf16 false else utf8
  | a :: b :: c :: d :: _ =>
    if a = 0 then if b = 0 then utf32 true else utf16 true
    else if b = 0 then if c = 0 && d = 0 then utf32 false else utf16 false
    else utf8
  | _ => utf8

def name : Encoding → Text
  | utf8 => "utf-8"
  | utf16 bigEndian => if bigEndian then "utf-16-be" else "utf-16-le"
  | utf32 bigEndian => if bigEndian then "utf-32-be" else "utf-32-le"

inductive Defect where
  | illFormed (f : Utf8.Fault)
  | truncated
  | outOfRange
  deriving DecidableEq, Repr

def Defect.message : Defect → Text
  | illFormed f => f.message
  | truncated => "truncated data"
  | outOfRange => "code point not in range(0x110000)"

structure Fault where
  encoding : Encoding
  offset : Nat
  bytes : Bytes
  defect : Defect
  deriving DecidableEq, Repr

def Fault.message (f : Fault) : Text :=
  "'" ++ f.encoding.name ++ "' codec can't decode " ++ Utf8.bytePlace f.offset f.bytes ++ ": " ++
    f.defect.message

/-- The number that bytes spell. -/
def unit (bigEndian : Bool) (bytes : Bytes) : Nat :=
  Text.ofDigits 256 ((if bigEndian then bytes else bytes.reverse).map Fin.val)

/-- The units of two bytes, and a byte that is left over. -/
def units (bigEndian : Bool) : Bytes → List Nat × Option Byte
  | a :: b :: rest =>
    let (ns, last) := units bigEndian rest
    (unit bigEndian [a, b] :: ns, last)
  | [a] => ([], some a)
  | [] => ([], none)

/-- Joins the two halves of a pair. -/
def joinPairs : List Nat → Text
  | high :: low :: rest =>
    if 0xD800 ≤ high ∧ high < 0xDC00 ∧ 0xDC00 ≤ low ∧ low < 0xE000 then
      .ofNat (0x10000 + (high - 0xD800) * 0x400 + (low - 0xDC00)) :: joinPairs rest
    else .ofNat high :: joinPairs (low :: rest)
  | [n] => [.ofNat n]
  | [] => []
termination_by ns => ns.length

def decode16 (bigEndian : Bool) (bytes : Bytes) : Except Fault Text :=
  match units bigEndian bytes with
  | (_, some b) => .error ⟨utf16 bigEndian, bytes.length - 1, [b], .truncated⟩
  | (ns, none) => .ok (joinPairs ns)

def decode32 (bigEndian : Bool) (offset : Nat) : Bytes → Except Fault Text
  | a :: b :: c :: d :: rest =>
    let n := unit bigEndian [a, b, c, d]
    if n < 0x110000 then (decode32 bigEndian (offset + 4) rest).map (.ofNat n :: ·)
    else .error ⟨utf32 bigEndian, offset, [a, b, c, d], .outOfRange⟩
  | [] => .ok []
  | bytes => .error ⟨utf32 bigEndian, offset, bytes, .truncated⟩

/-- A text in UTF-8 may begin with a byte order mark. -/
def decode8 (bytes : Bytes) : Except Fault Text :=
  match Utf8.decode bytes with
  | .error e => .error ⟨utf8, e.offset, e.bytes, .illFormed e.fault⟩
  | .ok [] => .ok []
  | .ok (c :: t) => .ok (if c = 0xFEFF then t else c :: t)

end Encoding

/-- The text that bytes spell in the encoding they are in. -/
def decode (bytes : Bytes) : Except Encoding.Fault Text :=
  match Encoding.ofBytes bytes with
  | .utf8 => Encoding.decode8 bytes
  | .utf16 bigEndian => Encoding.decode16 bigEndian bytes
  | .utf32 bigEndian => Encoding.decode32 bigEndian 0 bytes

end TokenIndex.Json
