import TokenIndex.Text.Utf8

namespace TokenIndex

inductive Anchor where
  | relative
  | root
  /-- Exactly two slashes, which are kept. -/
  | doubleRoot
  deriving DecidableEq, Repr

/-- A path without empty parts and without parts `.`; parts `..` are kept. -/
structure Path where
  anchor : Anchor
  parts : List Text
  deriving DecidableEq, Repr

namespace Path

def ofText (t : Text) : Path :=
  let slash : CodePoint := '/'
  let anchor := match (t.takeWhile (· = slash)).length with
    | 0 => Anchor.relative
    | 2 => Anchor.doubleRoot
    | _ => Anchor.root
  ⟨anchor, (Text.splitOn slash t).filter fun p => p ≠ [] ∧ p ≠ "."⟩

def toText (p : Path) : Text :=
  let body := Text.join "/" p.parts
  match p.anchor with
  | .relative => if p.parts = [] then "." else body
  | .root => "/" ++ body
  | .doubleRoot => "//" ++ body

def child (p : Path) (name : Text) : Path := { p with parts := p.parts ++ [name] }

/-- The bytes a code point takes in a file name: a surrogate U+DC80 to U+DCFF stands for one raw
byte, and NUL and the other surrogates have no place in a name. -/
def nameWidth? (c : CodePoint) : Option Nat :=
  if c = 0 then none
  else if 0xDC80 ≤ c.val ∧ c.val ≤ 0xDCFF then some 1
  else if c.isSurrogate then none
  else some (Utf8.encodeOne c).length

def byteLength? (t : Text) : Option Nat := (t.mapM nameWidth?).map (·.foldr (· + ·) 0)

end Path

end TokenIndex
