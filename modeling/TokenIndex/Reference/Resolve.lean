import TokenIndex.Reference.Names
import TokenIndex.Text.Integer

namespace TokenIndex.Reference

/-- What numbers 128 to 159 stand for. -/
def controlNames : List Nat := [
  0x20AC, 0x81, 0x201A, 0x192, 0x201E, 0x2026, 0x2020, 0x2021, 0x2C6, 0x2030, 0x160, 0x2039, 0x152,
  0x8D, 0x17D, 0x8F, 0x90, 0x2018, 0x2019, 0x201C, 0x201D, 0x2022, 0x2013, 0x2014, 0x2DC, 0x2122,
  0x161, 0x203A, 0x153, 0x9D, 0x17E, 0x178]

/-- Controls without a meaning in a document, and noncharacters. -/
def isDropped (n : Nat) : Bool :=
  (0x1 ≤ n && n ≤ 0x8) || n = 0xB || (0xE ≤ n && n ≤ 0x1F) || n = 0x7F ||
    (0xFDD0 ≤ n && n ≤ 0xFDEF) || 0xFFFE ≤ n % 0x10000

/-- The text of a numeric reference. -/
def numeric (n : Nat) : Text :=
  if n = 0 then [0xFFFD]
  else if 0x80 ≤ n ∧ n ≤ 0x9F then [.ofNat (controlNames.getD (n - 0x80) n)]
  else if (0xD800 ≤ n ∧ n ≤ 0xDFFF) ∨ 0x10FFFF < n then [0xFFFD]
  else if isDropped n then []
  else [.ofNat n]

def isNamePart (c : CodePoint) : Bool :=
  !(c = '\t' || c = '\n' || c = 0x0C || c = ' ' || c = '<' || c = '&' || c = '#' || c = ';')

/-- The longest part of `name` that has a meaning, of at most `size` and at least two code
points, is replaced. -/
def longest (name : Text) : (size : Nat) → Text
  | 0 | 1 => '&' :: name
  | size + 1 =>
    match named.lookup (name.take (size + 1)) with
    | some t => t ++ name.drop (size + 1)
    | none => longest name size

def nameText (name : Text) : Text := longest name name.length

def semicolon (s : Text) : Text × Text :=
  match s with
  | [] => ([], [])
  | c :: rest => if c = ';' then ([c], rest) else ([], s)

def numeric? (s : Text) : Option (Except TooManyDigits Text × Text) :=
  let isHex (c : CodePoint) := (Text.hexDigit? c).isSome
  let digits := s.takeWhile fun c => (Text.asciiDigit? c).isSome
  if digits.isEmpty then
    match s with
    | [] => none
    | x :: rest =>
      let digits := rest.takeWhile isHex
      if (x = 'x' ∨ x = 'X') ∧ !digits.isEmpty then
        let n := Text.ofDigits 16 (digits.filterMap Text.hexDigit?)
        some (.ok (numeric n), (semicolon (rest.drop digits.length)).2)
      else none
  else
    some ((Text.convertDigits (digits.filterMap Text.asciiDigit?)).map numeric,
      (semicolon (s.drop digits.length)).2)

def reference? (s : Text) : Option (Except TooManyDigits Text × Text) :=
  match s with
  | [] => none
  | c :: rest =>
    if c = '#' then numeric? rest
    else
      let name := (s.take 32).takeWhile isNamePart
      if name.isEmpty then none
      else
        let (mark, rest) := semicolon (s.drop name.length)
        some (.ok (nameText (name ++ mark)), rest)

theorem semicolon_length (s : Text) : (semicolon s).2.length ≤ s.length := by
  unfold semicolon
  split
  · exact Nat.le_refl _
  · split
    · exact Nat.le_succ _
    · exact Nat.le_refl _

theorem numeric?_length {s rest : Text} {t : Except TooManyDigits Text}
    (h : numeric? s = some (t, rest)) : rest.length ≤ s.length := by
  unfold numeric? at h
  simp only at h
  split at h
  · split at h
    · cases h
    · split at h
      · simp only [Option.some.injEq, Prod.mk.injEq] at h
        rw [← h.2]
        refine Nat.le_trans (semicolon_length _) ?_
        simp only [List.length_drop, List.length_cons]
        omega
      · cases h
  · simp only [Option.some.injEq, Prod.mk.injEq] at h
    rw [← h.2]
    refine Nat.le_trans (semicolon_length _) ?_
    simp

theorem reference?_length {s rest : Text} {t : Except TooManyDigits Text}
    (h : reference? s = some (t, rest)) : rest.length ≤ s.length := by
  unfold reference? at h
  split at h
  · cases h
  · split at h
    · exact Nat.le_succ_of_le (numeric?_length h)
    · simp only at h
      split at h
      · cases h
      · simp only [Option.some.injEq, Prod.mk.injEq] at h
        rw [← h.2]
        exact Nat.le_trans (semicolon_length _) (by simp)

/-- The text with every reference replaced, unless one is a number too long to convert. -/
def resolve (s : Text) : Except TooManyDigits Text :=
  match s with
  | [] => .ok []
  | c :: r =>
    if c = '&' then
      match _h : reference? r with
      | none => (resolve r).map (c :: ·)
      | some (.error e, _) => .error e
      | some (.ok t, rest) => (resolve rest).map (t ++ ·)
    else (resolve r).map (c :: ·)
termination_by s.length
decreasing_by
  · exact Nat.lt_succ_self _
  · exact Nat.lt_succ_of_le (reference?_length _h)
  · exact Nat.lt_succ_self _

end TokenIndex.Reference
