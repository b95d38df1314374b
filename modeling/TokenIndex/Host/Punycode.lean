import TokenIndex.Text.Basic

namespace TokenIndex.Punycode

def digitChar (n : Nat) : CodePoint := .ofNat (if n < 26 then 0x61 + n else 0x30 + (n - 26))

def digit? (c : CodePoint) : Option Nat :=
  if c.between 'a' 'z' then some (c.val - 0x61)
  else if c.between 'A' 'Z' then some (c.val - 0x41)
  else if c.between '0' '9' then some (c.val - 0x30 + 26)
  else none

/-- The least digit that does not end a number; `k` is 36 for the first digit of it, then 72, and
so on. -/
def threshold (k bias : Nat) : Nat := max 1 (min 26 (k - bias))

theorem threshold_pos (k bias : Nat) : 1 ≤ threshold k bias := Nat.le_max_left ..

/-- How often a difference is divided by 35 to bring it down to 455, and what is left of it. -/
def scale (delta count : Nat) : Nat × Nat :=
  if 455 < delta then scale (delta / 35) (count + 1) else (delta, count)
termination_by delta
decreasing_by exact Nat.div_lt_self (by omega) (by omega)

/-- The bias after a number, with `size` characters known by then. -/
def adapt (delta size : Nat) (first : Bool) : Nat :=
  let delta := if first then delta / 700 else delta / 2
  let (delta, count) := scale (delta + delta / size) 0
  36 * count + 36 * delta / (delta + 38)

def firstBias : Nat := 72

/-- The digits of a number, the least significant first. -/
def number (bias k n : Nat) : Text :=
  let t := threshold k bias
  if n < t then [digitChar n]
  else digitChar (t + (n - t) % (36 - t)) :: number bias (k + 36) ((n - t) / (36 - t))
termination_by n
decreasing_by
  have := threshold_pos k bias
  exact Nat.lt_of_le_of_lt (Nat.div_le_self _ _) (by omega)

structure Encoder where
  output : Text
  delta : Nat
  bias : Nat
  known : Nat

namespace Encoder

/-- One character of the text, while those of value `value` are put in. -/
def visit (basics value : Nat) (e : Encoder) (c : CodePoint) : Encoder :=
  if c.val < value then { e with delta := e.delta + 1 }
  else if c.val = value then
    ⟨e.output ++ number e.bias 36 e.delta, 0, adapt e.delta (e.known + 1) (e.known = basics),
      e.known + 1⟩
  else e

/-- Puts in the characters of each of these values; all lower ones but those from `next` on are
known. -/
def run (t : Text) (basics next : Nat) (e : Encoder) : List Nat → Encoder
  | [] => e
  | value :: values =>
    let e := { e with delta := e.delta + (value - next) * (e.known + 1) }
    let e := t.foldl (visit basics value) e
    run t basics (value + 1) { e with delta := e.delta + 1 } values

end Encoder

def encode (t : Text) : Text :=
  let basics := t.filter (·.val < 0x80)
  let values := (((t.filter (0x80 ≤ ·.val)).map Fin.val).mergeSort (· ≤ ·)).eraseDups
  let e := Encoder.run t basics.length 0x80 ⟨[], 0, firstBias, basics.length⟩ values
  if basics.isEmpty then e.output else basics ++ "-" ++ e.output

/-- Reads a number; `weight` is the value of the next digit, and `sum` that of those before. -/
def readNumber (bias k weight sum : Nat) : Text → Option (Nat × Text)
  | [] => none
  | c :: rest =>
    match digit? c with
    | none => none
    | some d =>
      let t := threshold k bias
      if d < t then some (sum + d * weight, rest)
      else readNumber bias (k + 36) (weight * (36 - t)) (sum + d * weight) rest

theorem readNumber_length {bias k weight sum n : Nat} {t rest : Text}
    (h : readNumber bias k weight sum t = some (n, rest)) : rest.length < t.length := by
  induction t generalizing k weight sum with
  | nil => simp [readNumber] at h
  | cons c t ih =>
    unfold readNumber at h
    split at h
    · simp at h
    · simp only at h
      split at h
      · simp only [Option.some.injEq, Prod.mk.injEq] at h
        simp [← h.2]
      · exact Nat.lt_succ_of_lt (ih h)

/-- Puts characters into `known`, the next one `offset` places on from the start with `value`. -/
def insertFrom (known : Text) (value offset bias : Nat) (first : Bool) (t : Text) : Option Text :=
  if t = [] then some known
  else
    match _h : readNumber bias 36 1 0 t with
    | none => none
    | some (delta, rest) =>
      let size := known.length + 1
      let value := value + (offset + delta) / size
      let offset := (offset + delta) % size
      if value < 0x110000 then
        insertFrom (known.take offset ++ .ofNat value :: known.drop offset) value (offset + 1)
          (adapt delta size first) false rest
      else none
termination_by t.length
decreasing_by exact readNumber_length _h

/-- The text spelled by an ASCII text, if it spells one. -/
def decode (t : Text) : Option Text :=
  let dash : CodePoint := '-'
  let tail := (t.reverse.takeWhile (· ≠ dash)).reverse
  insertFrom (t.take (t.length - tail.length - 1)) 0x80 0 firstBias true tail

end TokenIndex.Punycode
