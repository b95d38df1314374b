import TokenIndex.Text.Integer
import TokenIndex.Value

namespace TokenIndex.Json

inductive Cause where
  | expectedValue
  | expectedName
  | expectedColon
  | expectedComma
  | unterminatedString
  | controlCharacter
  | badEscape
  | badUnicodeEscape
  | extraData
  deriving DecidableEq, Repr

inductive Fault where
  | defect (cause : Cause) (left : Nat)
  | tooManyDigits (e : TooManyDigits)
  deriving DecidableEq, Repr

def isBlank (c : CodePoint) : Bool := c = ' ' || c = '\t' || c = '\n' || c = '\r'

def dropBlank (s : Text) : Text := s.dropWhile isBlank

theorem dropBlank_length (s : Text) : (dropBlank s).length ≤ s.length :=
  (List.dropWhile_sublist _).length_le

/-- Four hexadecimal digits with at least one more code point behind them. -/
def hexUnit? (s : Text) : Option (Nat × Text) :=
  match s with
  | a :: b :: c :: d :: rest =>
    match [a, b, c, d].mapM Text.hexDigit? with
    | some digits => if rest.isEmpty then none else some (Text.ofDigits 16 digits, rest)
    | none => none
  | _ => none

/-- The second half of a pair, if one is spelled here in full. -/
def lowHalf? (s : Text) : Except Fault (Option (Nat × Text)) :=
  match Text.after? "\\u" s with
  | none => .ok none
  | some t =>
    if t.length < 5 then .ok none
    else match hexUnit? t with
      | none => .error (.defect .badUnicodeEscape (t.length + 1))
      | some (n, rest) => .ok (if 0xDC00 ≤ n ∧ n ≤ 0xDFFF then some (n, rest) else none)

/-- Reads a code point behind `\u`. -/
def unicodeEscape (s : Text) : Except Fault (CodePoint × Text) :=
  match hexUnit? s with
  | none => .error (.defect .badUnicodeEscape (s.length + 1))
  | some (n, rest) =>
    if 0xD800 ≤ n ∧ n ≤ 0xDBFF then
      (lowHalf? rest).map fun
        | some (m, rest) => (.ofNat (0x10000 + (n - 0xD800) * 0x400 + (m - 0xDC00)), rest)
        | none => (.ofNat n, rest)
    else .ok (.ofNat n, rest)

def simpleEscape? (c : CodePoint) : Option CodePoint :=
  if c = '"' ∨ c = '\\' ∨ c = '/' then some c
  else if c = 'b' then some 0x08
  else if c = 'f' then some 0x0C
  else if c = 'n' then some '\n'
  else if c = 'r' then some '\r'
  else if c = 't' then some '\t'
  else none

/-- Reads on behind a backslash in a string that began with `opened` code points left. -/
def escape (opened : Nat) : Text → Except Fault (CodePoint × Text)
  | [] => .error (.defect .unterminatedString opened)
  | c :: r =>
    if c = 'u' then unicodeEscape r
    else match simpleEscape? c with
      | some d => .ok (d, r)
      | none => .error (.defect .badEscape (r.length + 2))

theorem hexUnit?_length {s rest : Text} {n : Nat} (h : hexUnit? s = some (n, rest)) :
    rest.length < s.length := by
  unfold hexUnit? at h
  split at h
  · split at h
    · split at h
      · cases h
      · simp only [Option.some.injEq, Prod.mk.injEq] at h
        simp only [← h.2, List.length_cons]
        omega
    · cases h
  · cases h

theorem lowHalf?_length {s rest : Text} {n : Nat} (h : lowHalf? s = .ok (some (n, rest))) :
    rest.length < s.length := by
  unfold lowHalf? at h
  split at h
  · cases h
  · rename_i t ht
    split at h
    · cases h
    · split at h
      · cases h
      · rename_i m rest' hu
        split at h
        · simp only [Except.ok.injEq, Option.some.injEq, Prod.mk.injEq] at h
          have := hexUnit?_length hu
          have := Text.after?_length ht
          rw [← h.2]
          omega
        · cases h

theorem unicodeEscape_length {s rest : Text} {c : CodePoint}
    (h : unicodeEscape s = .ok (c, rest)) : rest.length < s.length := by
  unfold unicodeEscape at h
  split at h
  · cases h
  · rename_i n r hu
    have hu := hexUnit?_length hu
    split at h
    · cases hl : lowHalf? r with
      | error e => rw [hl] at h; cases h
      | ok o =>
        rw [hl] at h
        cases o with
        | none =>
          simp only [Except.map, Except.ok.injEq, Prod.mk.injEq] at h
          rw [← h.2]
          exact hu
        | some p =>
          simp only [Except.map, Except.ok.injEq, Prod.mk.injEq] at h
          rw [← h.2]
          exact Nat.lt_trans (lowHalf?_length hl) hu
    · simp only [Except.ok.injEq, Prod.mk.injEq] at h
      rw [← h.2]
      exact hu

theorem escape_length {opened : Nat} {s rest : Text} {c : CodePoint}
    (h : escape opened s = .ok (c, rest)) : rest.length < s.length := by
  unfold escape at h
  split at h
  · cases h
  · split at h
    · exact Nat.lt_succ_of_lt (unicodeEscape_length h)
    · split at h
      · simp only [Except.ok.injEq, Prod.mk.injEq] at h
        rw [← h.2]
        exact Nat.lt_succ_self _
      · cases h

/-- Reads the characters of a string up to its closing quote. -/
def characters (opened : Nat) (s : Text) : Except Fault (Text × Text) :=
  match s with
  | [] => .error (.defect .unterminatedString opened)
  | c :: r =>
    if c = '"' then .ok ([], r)
    else if c = '\\' then
      match _h : escape opened r with
      | .error e => .error e
      | .ok (d, r) => (characters opened r).map fun (t, rest) => (d :: t, rest)
    else if c.val < 0x20 then .error (.defect .controlCharacter (r.length + 1))
    else (characters opened r).map fun (t, rest) => (c :: t, rest)
termination_by s.length
decreasing_by
  · exact Nat.lt_succ_of_lt (escape_length _h)
  · exact Nat.lt_succ_self _

theorem characters_length {opened : Nat} {s t rest : Text}
    (h : characters opened s = .ok (t, rest)) : rest.length < s.length := by
  induction hn : s.length using Nat.strongRecOn generalizing s t with
  | ind n ih =>
    unfold characters at h
    split at h
    · cases h
    · rename_i c r
      subst hn
      split at h
      · cases h; exact Nat.lt_succ_self _
      · split at h
        · split at h
          · cases h
          · rename_i d r' he
            have he := escape_length he
            cases hc : characters opened r' with
            | error e => rw [hc] at h; cases h
            | ok p =>
              rw [hc] at h
              simp only [Except.map, Except.ok.injEq, Prod.mk.injEq] at h
              have := ih r'.length (Nat.lt_succ_of_lt he) (t := p.1) (by rw [hc, ← h.2]) rfl
              exact Nat.lt_succ_of_lt (Nat.lt_trans this he)
        · split at h
          · cases h
          · cases hc : characters opened r with
            | error e => rw [hc] at h; cases h
            | ok p =>
              rw [hc] at h
              simp only [Except.map, Except.ok.injEq, Prod.mk.injEq] at h
              exact Nat.lt_succ_of_lt
                (ih r.length (Nat.lt_succ_self _) (t := p.1) (by rw [hc, ← h.2]) rfl)

def digits (s : Text) : List Nat × Text :=
  ((s.takeWhile fun c => (Text.asciiDigit? c).isSome).filterMap Text.asciiDigit?,
    s.dropWhile fun c => (Text.asciiDigit? c).isSome)

/-- The integer part: no leading zero unless it is the only digit. -/
def wholeDigits? : Text → Option (List Nat × Text)
  | [] => none
  | c :: r =>
    match Text.asciiDigit? c with
    | none => none
    | some 0 => some ([0], r)
    | some d => some (d :: (digits r).1, (digits r).2)

def fractionDigits? (s : Text) : Option (List Nat × Text) :=
  match Text.after? "." s with
  | none => none
  | some t => if (digits t).1.isEmpty then none else some (digits t)

def exponent? (s : Text) : Option (Int × Text) :=
  match s with
  | [] => none
  | c :: r =>
    if c = 'e' ∨ c = 'E' then
      let (negative, t) := Text.splitSign r
      let (ds, rest) := digits t
      if ds.isEmpty then none
      else some (if negative then -Text.ofDigits 10 ds else Text.ofDigits 10 ds, rest)
    else none

/-- A whole number of at most 4300 digits, or a float if there is a fraction or an exponent. -/
def number? (s : Text) : Option (Except Fault (Value × Text)) :=
  let (negative, body) := match Text.after? "-" s with
    | some t => (true, t)
    | none => (false, s)
  match wholeDigits? body with
  | none => none
  | some (whole, rest) =>
    match fractionDigits? rest, exponent? rest with
    | none, none =>
      match Text.convertDigits whole with
      | .ok n => some (.ok (.int (if negative then -n else n), rest))
      | .error e => some (.error (.tooManyDigits e))
    | none, some (e, rest) => some (.ok (.float (.ofDecimal negative whole e), rest))
    | some (ds, rest), _ =>
      let (e, rest) := (exponent? rest).getD (0, rest)
      some (.ok (.float (.ofDecimal negative (whole ++ ds) (e - ds.length)), rest))

def words : List (Text × Value) :=
  [("null", .null), ("true", .bool true), ("false", .bool false), ("NaN", .float .nan),
    ("Infinity", .float (.infinite false)), ("-Infinity", .float (.infinite true))]

/-- Reads a value that is no array and no object, `s` being all that is left. -/
def scalar (s : Text) : Except Fault (Value × Text) :=
  match Text.after? "\"" s with
  | some t => (characters s.length t).map fun (t, rest) => (.text t, rest)
  | none =>
    match words.findSome? fun (word, v) => (Text.after? word s).map (v, ·) with
    | some (v, rest) => .ok (v, rest)
    | none => (number? s).getD (.error (.defect .expectedValue s.length))

/-- What a reader gives back: a result, and less text than it was given. -/
abbrev Read (α : Type) (s : Text) := Except Fault { p : α × Text // p.2.length < s.length }

/-- Keeps a result if it left less text than there was. -/
def progress {α : Type} (s : Text) : Except Fault (α × Text) → Read α s
  | .error e => .error e
  | .ok p =>
    if h : p.2.length < s.length then .ok ⟨p, h⟩ else .error (.defect .expectedValue s.length)

mutual

def value (s : Text) : Read Value s :=
  match s with
  | [] => .error (.defect .expectedValue 0)
  | c :: r =>
    have hr : (dropBlank r).length < (c :: r).length := Nat.lt_succ_of_le (dropBlank_length r)
    if c = '[' then
      match hd : dropBlank r with
      | [] => .error (.defect .expectedValue 0)
      | d :: t =>
        if d = ']' then .ok ⟨(.array [], t), by rw [hd] at hr; exact Nat.lt_of_succ_lt hr⟩
        else
          match items (dropBlank r) with
          | .error e => .error e
          | .ok ⟨(vs, rest), h⟩ => .ok ⟨(.array vs, rest), Nat.lt_trans h hr⟩
    else if c = '\x7b' then
      match hd : dropBlank r with
      | [] => .error (.defect .expectedName 0)
      | d :: t =>
        if d = '\x7d' then .ok ⟨(.object [], t), by rw [hd] at hr; exact Nat.lt_of_succ_lt hr⟩
        else
          match fields [] (dropBlank r) with
          | .error e => .error e
          | .ok ⟨(fs, rest), h⟩ => .ok ⟨(.object fs, rest), Nat.lt_trans h hr⟩
    else progress (c :: r) (scalar (c :: r))
termination_by (s.length, 0)

/-- Reads one or more items and the bracket behind them. -/
def items (s : Text) : Read (List Value) s :=
  match value s with
  | .error e => .error e
  | .ok ⟨(v, t), ht⟩ =>
    match hd : dropBlank t with
    | [] => .error (.defect .expectedComma 0)
    | d :: u =>
      have hu : u.length < s.length := by
        have := dropBlank_length t
        simp only [hd, List.length_cons] at this ht
        omega
      if d = ']' then .ok ⟨([v], u), hu⟩
      else if d = ',' then
        have hw : (dropBlank u).length < s.length := Nat.lt_of_le_of_lt (dropBlank_length u) hu
        match items (dropBlank u) with
        | .error e => .error e
        | .ok ⟨(vs, rest), h⟩ => .ok ⟨(v :: vs, rest), Nat.lt_trans h hw⟩
      else .error (.defect .expectedComma (u.length + 1))
termination_by (s.length, 1)

/-- Reads one or more fields after `before`, and the brace behind them. -/
def fields (before : List (Text × Value)) (s : Text) : Read (List (Text × Value)) s :=
  match s with
  | [] => .error (.defect .expectedName 0)
  | q :: r =>
    if q = '"' then
      match hn : characters (r.length + 1) r with
      | .error e => .error e
      | .ok (name, t) =>
        match hc : dropBlank t with
        | [] => .error (.defect .expectedColon 0)
        | c :: u =>
          have hu : (dropBlank u).length < (q :: r).length := by
            have := characters_length hn
            have := dropBlank_length t
            have := dropBlank_length u
            simp only [hc, List.length_cons] at *
            omega
          if c = ':' then
            match value (dropBlank u) with
            | .error e => .error e
            | .ok ⟨(v, w), hw⟩ =>
              match hx : dropBlank w with
              | [] => .error (.defect .expectedComma 0)
              | d :: x =>
                have hx : x.length < (q :: r).length := by
                  have := dropBlank_length w
                  simp only [hx, List.length_cons] at *
                  omega
                if d = '\x7d' then .ok ⟨(Value.setField before name v, x), hx⟩
                else if d = ',' then
                  have hy : (dropBlank x).length < (q :: r).length :=
                    Nat.lt_of_le_of_lt (dropBlank_length x) hx
                  match fields (Value.setField before name v) (dropBlank x) with
                  | .error e => .error e
                  | .ok ⟨(fs, rest), h⟩ => .ok ⟨(fs, rest), Nat.lt_trans h hy⟩
                else .error (.defect .expectedComma (x.length + 1))
          else .error (.defect .expectedColon (u.length + 1))
    else .error (.defect .expectedName (r.length + 1))
termination_by (s.length, 2)

end

def document (s : Text) : Except Fault Value :=
  match value (dropBlank s) with
  | .error e => .error e
  | .ok ⟨(v, t), _⟩ =>
    match dropBlank t with
    | [] => .ok v
    | rest => .error (.defect .extraData rest.length)

inductive SyntaxError where
  | defect (cause : Cause) (line column offset : Nat)
  | tooManyDigits (e : TooManyDigits)
  deriving DecidableEq, Repr

def parse (s : Text) : Except SyntaxError Value :=
  match document s with
  | .ok v => .ok v
  | .error (.tooManyDigits e) => .error (.tooManyDigits e)
  | .error (.defect cause left) =>
    let lines := Text.splitOn '\n' (s.take (s.length - left))
    let column := (lines.getLast?.getD []).length + 1
    .error (.defect cause lines.length column (s.length - left))

def Cause.message : Cause → Text
  | .expectedValue => "Expecting value"
  | .expectedName => "Expecting property name enclosed in double quotes"
  | .expectedColon => "Expecting ':' delimiter"
  | .expectedComma => "Expecting ',' delimiter"
  | .unterminatedString => "Unterminated string starting at"
  | .controlCharacter => "Invalid control character at"
  | .badEscape => "Invalid \\escape"
  | .badUnicodeEscape => "Invalid \\uXXXX escape"
  | .extraData => "Extra data"

def SyntaxError.message : SyntaxError → Text
  | .defect cause line column offset =>
    cause.message ++ ": line " ++ Text.decimal line ++ " column " ++ Text.decimal column ++
      " (char " ++ Text.decimal offset ++ ")"
  | .tooManyDigits e => e.message

end TokenIndex.Json
