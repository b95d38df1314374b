import TokenIndex.Literal.Document

namespace TokenIndex.Literal.Grammar

def Blanks (t : Text) : Prop := ∀ c ∈ t, c.isBlank

/-- Decimal digits of any script, with their values. -/
def Digits (t : Text) (values : List Nat) : Prop := t.map CodePoint.digit? = values.map some

inductive Number : Text → Int → Prop
  | plain {t : Text} {values : List Nat} : t ≠ [] → t.length ≤ TooManyDigits.limit →
      Digits t values → Number t (Text.ofDigits 10 values)
  | negative {t : Text} {values : List Nat} : t ≠ [] → t.length ≤ TooManyDigits.limit →
      Digits t values → Number ('-' :: t) (-(Text.ofDigits 10 values : Nat))

/-- Letters and signs that mean another character behind a backslash. -/
def meanings : List (CodePoint × CodePoint) := [
  ('n', '\n'), ('t', '\t'), ('r', '\r'), ('b', 0x08), ('f', 0x0C), ('0', 0x00), ('/', '/'),
  ('\\', '\\'), ('\'', '\''), ('"', '"')]

/-- What stands behind a backslash, and what it means. -/
inductive Escape : Text → Text → Prop
  | unicode {t : Text} {values : List Nat} : t.length = 4 →
      t.map Text.hexDigit? = values.map some → Escape ('u' :: t) [.ofNat (Text.ofDigits 16 values)]
  | byte {t : Text} {values : List Nat} : t.length = 2 →
      t.map Text.hexDigit? = values.map some → Escape ('x' :: t) [.ofNat (Text.ofDigits 16 values)]
  | lineFeed : Escape "\n" []
  | carriageReturn : Escape "\r" []
  | both : Escape "\r\n" []
  | character {c : CodePoint} : c ≠ 'u' → c ≠ 'x' → c ≠ '\n' → c ≠ '\r' →
      Escape [c] [(meanings.lookup c).getD c]

/-- The characters between two quotes `q`. -/
inductive Characters (q : CodePoint) : Text → Text → Prop
  | nil : Characters q [] []
  | plain {c : CodePoint} {t v : Text} : c ≠ q → c ≠ '\\' → c ≠ '\n' → Characters q t v →
      Characters q (c :: t) (c :: v)
  | escape {e m t v : Text} : Escape e m → Characters q t v →
      Characters q ('\\' :: (e ++ t)) (m ++ v)

inductive Scalar : Text → Value → Prop
  | string {q : CodePoint} {t v : Text} : q = '\'' ∨ q = '"' → Characters q t v →
      Scalar (q :: (t ++ [q])) (.text v)
  | number {t : Text} {i : Int} : Number t i → Scalar t (.int i)
  | yes : Scalar "true" (.bool true)
  | no : Scalar "false" (.bool false)
  | null : Scalar "null" .null

mutual

inductive Item : Text → Value → Prop
  | scalar {t : Text} {v : Value} : Scalar t v → Item t v
  | array {t : Text} {vs : List Value} : Elements t vs →
      Item ('[' :: (t ++ [(']' : CodePoint)])) (.array vs)

/-- What stands between the brackets of an array: a comma after every value but the last, where
it may stand or not. -/
inductive Elements : Text → List Value → Prop
  | none {w : Text} : Blanks w → Elements w []
  | last {w t z : Text} {v : Value} : Blanks w → Item t v → Blanks z → Elements (w ++ t ++ z) [v]
  | more {w t z r : Text} {v : Value} {vs : List Value} : Blanks w → Item t v → Blanks z →
      Elements r vs → Elements (w ++ t ++ z ++ (',' : CodePoint) :: r) (v :: vs)

end

inductive Assignment : Text → Prop
  | mk {w x n y z : Text} {c : CodePoint} : Blanks w → Blanks x → x ≠ [] → c.startsName →
      (∀ d ∈ n, d.continuesName) → Blanks y → Blanks z →
      Assignment (w ++ "var" ++ x ++ c :: n ++ y ++ ('=' : CodePoint) :: z)

/-- A whole text and the items of its array. -/
inductive Document : Text → List Value → Prop
  | mk {a w t z e : Text} {vs : List Value} : a = [] ∨ Assignment a → Blanks w → Elements t vs →
      Blanks z → e = [] ∨ (∃ x, Blanks x ∧ e = (';' : CodePoint) :: x) →
      Document (a ++ w ++ ('[' : CodePoint) :: t ++ (']' : CodePoint) :: z ++ e) vs

end TokenIndex.Literal.Grammar
