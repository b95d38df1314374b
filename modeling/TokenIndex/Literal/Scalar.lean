import TokenIndex.Text.Integer
import TokenIndex.Text.Quoted
import TokenIndex.Text.Word
import TokenIndex.Value

namespace TokenIndex.Literal

inductive Cause where
  | expectedBracket
  | unexpectedEnd
  | unexpectedCharacter (c : CodePoint)
  | unterminatedArray
  | expectedSeparator (c : CodePoint)
  | newlineInString
  | unterminatedString
  | badEscape (letter : CodePoint)
  | trailingData
  deriving DecidableEq, Repr

/-- A defect with `left` code points from it to the end, or a number too long to convert. -/
inductive Fault where
  | defect (cause : Cause) (left : Nat)
  | tooManyDigits (e : TooManyDigits)
  deriving DecidableEq, Repr

def number (negative : Bool) (digits : List Nat) : Except Fault Value :=
  match Text.convertDigits digits with
  | .ok n => .ok (.int (if negative then -n else n))
  | .error e => .error (.tooManyDigits e)

/-- The sign and digits of a number, and what follows them. -/
def digits? (s : Text) : Option (Bool × List Nat × Text) :=
  let (negative, body) := match s with
    | [] => (false, [])
    | c :: r => if c = '-' then (true, r) else (false, s)
  let digits := (body.takeWhile CodePoint.isDigit).filterMap CodePoint.digit?
  if digits.isEmpty then none else some (negative, digits, body.dropWhile CodePoint.isDigit)

def keywords : List (Text × Value) :=
  [("true", .bool true), ("false", .bool false), ("null", .null)]

def keyword? (s : Text) : Option (Value × Text) :=
  keywords.findSome? fun (word, v) => (Text.after? word s).map (v, ·)

/-- Exactly `width` hexadecimal digits as a code point, and what follows them. -/
def hexEscape? (width : Nat) (s : Text) : Option (CodePoint × Text) :=
  match (s.take width).mapM Text.hexDigit? with
  | some digits =>
    if digits.length = width then some (.ofNat (Text.ofDigits 16 digits), s.drop width) else none
  | none => none

/-- The meaning of a letter or sign behind a backslash. -/
def simpleEscape (c : CodePoint) : CodePoint :=
  if c = 'n' then '\n'
  else if c = 't' then '\t'
  else if c = 'r' then '\r'
  else if c = 'b' then 0x08
  else if c = 'f' then 0x0C
  else if c = '0' then 0x00
  else c

/-- Reads on behind a backslash; a line continuation gives nothing. -/
def escape : Text → Except Fault (Text × Text)
  | [] => .error (.defect .unterminatedString 0)
  | c :: r =>
    if c = 'u' ∨ c = 'x' then
      match hexEscape? (if c = 'u' then 4 else 2) r with
      | some (d, rest) => .ok ([d], rest)
      | none => .error (.defect (.badEscape c) (r.length + 1))
    else if c = '\r' then .ok ([], (Text.after? "\n" r).getD r)
    else if c = '\n' then .ok ([], r)
    else .ok ([simpleEscape c], r)

theorem hexEscape?_length {width : Nat} {s rest : Text} {c : CodePoint}
    (h : hexEscape? width s = some (c, rest)) : rest.length ≤ s.length := by
  unfold hexEscape? at h
  split at h
  · split at h
    · simp only [Option.some.injEq, Prod.mk.injEq] at h
      simp [← h.2]
    · cases h
  · cases h

theorem escape_length {s t rest : Text} (h : escape s = .ok (t, rest)) :
    rest.length < s.length := by
  unfold escape at h
  split at h
  · cases h
  · rename_i c r
    apply Nat.lt_succ_of_le
    split at h
    · split at h
      · rename_i d rest' hd
        cases h
        exact hexEscape?_length hd
      · cases h
    · split at h
      · cases h
        cases ha : Text.after? "\n" r with
        | none => exact Nat.le_refl _
        | some t => have := Text.after?_length ha; simp only [Option.getD_some]; omega
      · split at h <;> (cases h; exact Nat.le_refl _)

def string (quote : CodePoint) (s : Text) : Except Fault (Text × Text) :=
  match s with
  | [] => .error (.defect .unterminatedString 0)
  | c :: r =>
    if c = quote then .ok ([], r)
    else if c = '\\' then
      match _h : escape r with
      | .error e => .error e
      | .ok (chars, r) =>
        match string quote r with
        | .error e => .error e
        | .ok (t, rest) => .ok (chars ++ t, rest)
    else if c = '\n' then .error (.defect .newlineInString (r.length + 1))
    else
      match string quote r with
      | .error e => .error e
      | .ok (t, rest) => .ok (c :: t, rest)
termination_by s.length
decreasing_by
  · exact Nat.lt_succ_of_lt (escape_length _h)
  · exact Nat.lt_succ_self _

theorem string_length {quote : CodePoint} {s t rest : Text} (h : string quote s = .ok (t, rest)) :
    rest.length < s.length := by
  fun_induction string quote s generalizing t with
  | case1 => cases h
  | case2 => cases h; exact Nat.lt_succ_self _
  | case3 => cases h
  | case4 => cases h
  | case5 r chars r' hr t' rest' ht _ ih =>
    cases h
    have := ih ht
    have := escape_length hr
    simp only [List.length_cons]
    omega
  | case6 => cases h
  | case7 => cases h
  | case8 c r _ _ _ t' rest' ht ih =>
    cases h
    exact Nat.lt_succ_of_lt (ih ht)

def scalar : Text → Except Fault (Value × Text)
  | [] => .error (.defect .unexpectedEnd 0)
  | c :: r =>
    if c = '\'' ∨ c = '"' then (string c r).map fun (t, rest) => (.text t, rest)
    else
      match digits? (c :: r) with
      | some (negative, digits, rest) => (number negative digits).map (·, rest)
      | none =>
        match keyword? (c :: r) with
        | some (v, rest) => .ok (v, rest)
        | none => .error (.defect (.unexpectedCharacter c) (r.length + 1))

theorem digits?_length {s rest : Text} {negative : Bool} {digits : List Nat}
    (h : digits? s = some (negative, digits, rest)) : rest.length < s.length := by
  have body_length (b : Text)
      (hb : (b.takeWhile CodePoint.isDigit).filterMap CodePoint.digit? ≠ []) :
      (b.dropWhile CodePoint.isDigit).length < b.length := by
    cases b with
    | nil => simp at hb
    | cons c r =>
      by_cases hc : c.isDigit
      · simp only [List.dropWhile_cons, hc, if_true]
        exact Nat.lt_succ_of_le (List.dropWhile_sublist _).length_le
      · simp [hc] at hb
  unfold digits? at h
  cases s with
  | nil => simp at h
  | cons c r =>
    by_cases hc : c = '-'
    · simp only [hc, if_true] at h
      split at h
      · cases h
      · rename_i hne
        simp only [Option.some.injEq, Prod.mk.injEq] at h
        have := body_length r (by simpa using hne)
        simp only [← h.2.2, List.length_cons]
        omega
    · simp only [hc, if_false] at h
      split at h
      · cases h
      · rename_i hne
        simp only [Option.some.injEq, Prod.mk.injEq] at h
        simp only [← h.2.2]
        exact body_length (c :: r) (by simpa using hne)

theorem keyword?_length {s rest : Text} {v : Value} (h : keyword? s = some (v, rest)) :
    rest.length < s.length := by
  obtain ⟨⟨word, w⟩, hmem, hword⟩ := List.exists_of_findSome?_eq_some h
  simp only [Option.map_eq_some_iff] at hword
  obtain ⟨r, hr, heq⟩ := hword
  have hlen := Text.after?_length hr
  have hpos : 0 < word.length := by
    simp only [keywords, List.mem_cons, List.not_mem_nil, or_false, Prod.mk.injEq] at hmem
    obtain ⟨rfl, _⟩ | ⟨rfl, _⟩ | ⟨rfl, _⟩ := hmem <;> decide
  cases heq
  omega

theorem scalar_length {s rest : Text} {v : Value} (h : scalar s = .ok (v, rest)) :
    rest.length < s.length := by
  unfold scalar at h
  split at h
  · cases h
  · rename_i c r
    split at h
    · cases hs : string c r with
      | error e => rw [hs] at h; cases h
      | ok p =>
        rw [hs] at h
        cases h
        exact Nat.lt_succ_of_lt (string_length hs)
    · split at h
      · rename_i hd
        cases hn : number _ _ with
        | error e => rw [hn] at h; cases h
        | ok n =>
          rw [hn] at h
          cases h
          exact digits?_length hd
      · split at h
        · rename_i hk
          cases h
          exact keyword?_length hk
        · cases h

end TokenIndex.Literal
