namespace TokenIndex

abbrev CodePoint := Fin 0x110000

/-- For literals. -/
instance CodePoint.bound_ne_zero : @NeZero Nat Zero.ofOfNat0 0x110000 := ⟨by decide⟩

abbrev Text := List CodePoint

namespace CodePoint

def ofChar (c : Char) : CodePoint :=
  ⟨c.toNat, by
    have h := c.valid
    simp only [Char.toNat, UInt32.isValidChar, Nat.isValidChar] at *
    omega⟩

instance : Coe Char CodePoint := ⟨ofChar⟩

/-- U+FFFD when `n` is past the last code point. -/
def ofNat (n : Nat) : CodePoint := if h : n < 0x110000 then ⟨n, h⟩ else 0xFFFD

def isSurrogate (c : CodePoint) : Bool := 0xD800 ≤ c.val && c.val ≤ 0xDFFF

def toChar? (c : CodePoint) : Option Char :=
  if h : c.val.isValidChar then some ⟨c.val.toUInt32, by
    have : c.val.toUInt32.toNat = c.val := by
      have := c.isLt
      simp only [Nat.toUInt32, UInt32.toNat_ofNat']
      omega
    simpa [UInt32.isValidChar, this] using h⟩ else none

def between (c : CodePoint) (first last : Char) : Bool :=
  first.toNat ≤ c.val && c.val ≤ last.toNat

/-- Whether a code point is one of the characters of a string. -/
def isOneOf (c : CodePoint) (s : String) : Bool := s.toList.any fun d => c = ofChar d

theorem ofChar_inj {a b : Char} : ofChar a = ofChar b ↔ a = b := by
  constructor
  · intro h
    have : a.toNat = b.toNat := by simpa only [ofChar, Fin.mk.injEq] using h
    exact Char.ext (UInt32.toNat_inj.1 this)
  · rintro rfl; rfl

end CodePoint

namespace Text

def ofString (s : String) : Text := s.toList.map .ofChar

instance : Coe String Text := ⟨ofString⟩

def toString? (t : Text) : Option String := (t.mapM CodePoint.toChar?).map String.ofList

def hasSurrogate (t : Text) : Bool := t.any CodePoint.isSurrogate

def decimal (n : Nat) : Text := (Nat.toDigits 10 n).map .ofChar

def decimalInt (i : Int) : Text :=
  if i < 0 then '-' :: decimal i.natAbs else decimal i.natAbs

def fill (n : Nat) (c : CodePoint) : Text := List.replicate n c

def hex (width n : Nat) : Text :=
  let digits := (Nat.toDigits 16 n).map .ofChar
  fill (width - digits.length) '0' ++ digits

def hexDigit? (c : CodePoint) : Option Nat :=
  if c.between '0' '9' then some (c.val - 48)
  else if c.between 'a' 'f' then some (c.val - 87)
  else if c.between 'A' 'F' then some (c.val - 55)
  else none

def asciiDigit? (c : CodePoint) : Option Nat :=
  if c.between '0' '9' then some (c.val - 48) else none

/-- The number whose digits in base `base` are given, most significant first. -/
def ofDigits (base : Nat) (digits : List Nat) : Nat := digits.foldl (fun n d => n * base + d) 0

/-- What follows `lead`, if the text begins with it. -/
def after? (lead text : Text) : Option Text :=
  match lead, text with
  | [], rest => some rest
  | _ :: _, [] => none
  | a :: lead, b :: rest => if a = b then after? lead rest else none

theorem after?_length {lead s rest : Text} (h : after? lead s = some rest) :
    rest.length + lead.length = s.length := by
  induction lead generalizing s with
  | nil => cases h; rfl
  | cons a lead ih =>
    cases s with
    | nil => cases h
    | cons b s =>
      simp only [after?] at h
      split at h
      · simp only [List.length_cons, ← ih h]
        omega
      · cases h

def startsWith (text lead : Text) : Bool := (after? lead text).isSome

/-- The parts between separators: one more than there are separators. -/
def splitOn (sep : CodePoint) : Text → List Text
  | [] => [[]]
  | c :: rest =>
    if c = sep then [] :: splitOn sep rest
    else match splitOn sep rest with
      | [] => [[c]]
      | part :: parts => (c :: part) :: parts

def join (sep : Text) : List Text → Text
  | [] => []
  | [t] => t
  | t :: ts => t ++ sep ++ join sep ts

def padRight (width : Nat) (t : Text) : Text := t ++ fill (width - t.length) ' '

def padLeft (width : Nat) (t : Text) : Text := fill (width - t.length) ' ' ++ t

def dropEndWhile (p : CodePoint → Bool) (t : Text) : Text := (t.reverse.dropWhile p).reverse

end Text

def CodePoint.escaped (c : CodePoint) : Text :=
  if c.val < 0x100 then "\\x" ++ Text.hex 2 c.val
  else if c.val < 0x10000 then "\\u" ++ Text.hex 4 c.val
  else "\\U" ++ Text.hex 8 c.val

end TokenIndex
