import TokenIndex.Literal.Scalar

namespace TokenIndex.Literal

theorem length_lt_of_dropBlank {s r : Text} {c : CodePoint} (h : s.dropBlank = c :: r) :
    r.length < s.length := by
  have := Text.dropBlank_length s
  simp only [h, List.length_cons] at this
  omega

theorem length_lt_trans {s t u : Text} (h : u.length < t.length) (h' : t.length < s.length) :
    u.length < s.length :=
  Nat.lt_trans h h'

theorem length_lt_of_scalar {s r t : Text} {c : CodePoint} {v : Value}
    (h : scalar (c :: r) = .ok (v, t)) (h' : r.length < s.length) : t.length < s.length :=
  Nat.lt_of_lt_of_le (scalar_length h) h'

/-- Reads on inside an array, up to and past its closing bracket. There may be any number of arrays
in each other; that a stack has room for some of them only is told in `Machine`. -/
def elements (s : Text) : Except Fault { p : List Value × Text // p.2.length < s.length } :=
  match hs : s.dropBlank with
  | [] => .error (.defect .unexpectedEnd 0)
  | c :: r =>
    have hr : r.length < s.length := length_lt_of_dropBlank hs
    if c = ']' then .ok ⟨([], r), hr⟩
    else
      -- nested arrays are read here, so that one measure serves the whole recursion
      let item : Except Fault { p : Value × Text // p.2.length < s.length } :=
        if c = '[' then
          match elements r with
          | .error e => .error e
          | .ok ⟨(vs, t), ht⟩ => .ok ⟨(.array vs, t), length_lt_trans (u := t) ht hr⟩
        else
          match h : scalar (c :: r) with
          | .error e => .error e
          | .ok (v, t) => .ok ⟨(v, t), length_lt_of_scalar h hr⟩
      match item with
      | .error e => .error e
      | .ok ⟨(v, t), ht⟩ =>
        match hu : t.dropBlank with
        | [] => .error (.defect .unterminatedArray 0)
        | d :: u =>
          have hu : u.length < s.length :=
            length_lt_trans (t := t) (length_lt_of_dropBlank hu) ht
          if d = ']' then .ok ⟨([v], u), hu⟩
          else if d = ',' then
            match elements u with
            | .error e => .error e
            | .ok ⟨(vs, w), hw⟩ => .ok ⟨(v :: vs, w), length_lt_trans (u := w) hw hu⟩
          else .error (.defect (.expectedSeparator d) (u.length + 1))
termination_by s.length

/-- What follows `var name =` and the blanks around it, if the text begins so. -/
def afterAssignment? (s : Text) : Option Text := do
  let t ← Text.after? "var" s.dropBlank
  match t, t.dropBlank with
  | b :: _, c :: r =>
    if b.isBlank && c.startsName then
      (Text.after? "=" (Text.dropBlank (r.dropWhile CodePoint.continuesName))).map Text.dropBlank
    else none
  | _, _ => none

/-- What follows an optional semicolon and the blanks around it. -/
def afterSemicolon (s : Text) : Text :=
  match Text.after? ";" s.dropBlank with
  | some t => t.dropBlank
  | none => s.dropBlank

def document (s : Text) : Except Fault (List Value) :=
  match ((afterAssignment? s).getD s).dropBlank with
  | [] => .error (.defect .expectedBracket 0)
  | c :: r =>
    if c = '[' then
      match elements r with
      | .error e => .error e
      | .ok ⟨(vs, t), _⟩ =>
        match afterSemicolon t with
        | [] => .ok vs
        | rest => .error (.defect .trailingData rest.length)
    else .error (.defect .expectedBracket (r.length + 1))

/-- What is wrong with a text: a cause at an offset, or a number too long to convert. -/
inductive SyntaxError where
  | defect (cause : Cause) (offset : Nat)
  | tooManyDigits (e : TooManyDigits)
  deriving DecidableEq, Repr

/-- Reads a text on a stack without end. -/
def parse (s : Text) : Except SyntaxError (List Value) :=
  match document s with
  | .ok vs => .ok vs
  | .error (.defect cause left) => .error (.defect cause (s.length - left))
  | .error (.tooManyDigits e) => .error (.tooManyDigits e)

def Cause.message : Cause → Text
  | .expectedBracket => "Expected '['"
  | .unexpectedEnd => "Unexpected end of data"
  | .unexpectedCharacter c => "Unexpected character " ++ Text.quoted [c]
  | .unterminatedArray => "Unterminated array"
  | .expectedSeparator c => "Expected ',' or ']', got " ++ Text.quoted [c]
  | .newlineInString => "Newline in string"
  | .unterminatedString => "Unterminated string"
  | .badEscape letter => "Bad \\" ++ [letter] ++ " escape"
  | .trailingData => "Unexpected trailing data"

def SyntaxError.message : SyntaxError → Text
  | .defect cause offset => cause.message ++ " at offset " ++ Text.decimal offset
  | .tooManyDigits e => e.message

end TokenIndex.Literal
