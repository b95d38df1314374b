import TokenIndex.Host.Context
import TokenIndex.Host.Direction
import TokenIndex.Host.Letters
import TokenIndex.Host.Punycode
import TokenIndex.Text.Word

namespace TokenIndex.Host

inductive LabelFault where
  | empty
  | tooLong
  | notComposed
  | dashesInside
  | dashAtEnd
  | leadingMark
  | misplacedJoiner (c : CodePoint) (position : Nat) (label : Text)
  | misplaced (c : CodePoint) (position : Nat) (label : Text)
  | unusable (c : CodePoint) (position : Nat) (label : Text)
  | direction (f : Direction.Fault) (label : Text)
  | nothingEncoded
  | encodedDashAtEnd
  | badEncoding
  | nameTooLong
  deriving DecidableEq, Repr

namespace LabelFault

def place (c : CodePoint) : Text :=
  let digits : Text := (Nat.toDigits 16 c.val).map fun d => .ofChar d.toUpper
  "U+" ++ Text.fill (4 - digits.length) '0' ++ digits

def message : LabelFault → Text
  | empty => "Empty Label"
  | tooLong => "Label too long"
  | notComposed => "Label must be in Normalization Form C"
  | dashesInside => "Label has disallowed hyphens in 3rd and 4th position"
  | dashAtEnd => "Label must not start or end with a hyphen"
  | leadingMark => "Label begins with an illegal combining character"
  | misplacedJoiner c n label =>
    "Unknown codepoint adjacent to joiner " ++ place c ++ " at position " ++ Text.decimal n ++
      " in " ++ label.quoted
  | misplaced c n label =>
    "Codepoint " ++ place c ++ " not allowed at position " ++ Text.decimal n ++ " in " ++
      label.quoted
  | unusable c n label =>
    "Codepoint " ++ place c ++ " at position " ++ Text.decimal n ++ " of " ++ label.quoted ++
      " not allowed"
  | direction f label => f.message label
  | nothingEncoded => "Malformed A-label, no Punycode eligible content found"
  | encodedDashAtEnd => "A-label must not end with a hyphen"
  | badEncoding => "Invalid A-label"
  | nameTooLong => "Domain too long"

end LabelFault

/-- What may stand in a label and is neither word character nor sign is a mark. -/
def isMark (c : CodePoint) : Bool :=
  let signs : List CodePoint := [0x2D, 0x6FD, 0x6FE, 0xF0B]
  (c.isLabelLetter && !c.isWord && !signs.contains c) || CodePoint.strayMarkIntervals.has c

def greatestName : Nat := 254

/-- The first code point that cannot stand where it does. `before` is the label up to here, in
reverse. -/
def misuse? (label before : Text) : Text → Option LabelFault
  | [] => none
  | c :: rest =>
    let position := before.length + 1
    if c.isLabelLetter then misuse? label (c :: before) rest
    else if c.isJoiner then
      if Text.allowsJoiner before rest c then misuse? label (c :: before) rest
      else some (.misplacedJoiner c position label)
    else if c.isContextual then
      if Text.allowsContextual before rest c then misuse? label (c :: before) rest
      else some (.misplaced c position label)
    else some (.unusable c position label)

/-- The first thing wrong with a label. -/
def fault? (label : Text) : Option LabelFault :=
  let dash : CodePoint := '-'
  if label.isEmpty then some .empty
  else if greatestName < label.length then some .tooLong
  else if label.composed ≠ label then some .notComposed
  else if (label.drop 2).take 2 = [dash, dash] then some .dashesInside
  else if label.head? = some dash || label.getLast? = some dash then some .dashAtEnd
  else if label.head?.any isMark then some .leadingMark
  else
    match misuse? label [] label with
    | some f => some f
    | none => (Direction.fault? (label.map CodePoint.direction)).map (.direction · label)

def check (label : Text) : Except LabelFault Text :=
  match fault? label with
  | some f => .error f
  | none => .ok label

def encodedLead : Text := "xn--"

/-- The label that a small ASCII label stands for. -/
def decodeLabel (label : Text) : Except LabelFault Text :=
  let dash : CodePoint := '-'
  match Text.after? encodedLead label with
  | none => check label
  | some [] => .error .nothingEncoded
  | some t =>
    if t.getLast? = some dash then .error .encodedDashAtEnd
    else
      match Punycode.decode t with
      | none => .error .badEncoding
      | some t => check t

def isAscii (t : Text) : Bool := t.all (·.val < 0x80)

def greatestLabel : Nat := 63

/-- The ASCII form of a small label. -/
def encodeLabel (label : Text) : Except LabelFault Text :=
  let encoded :=
    if isAscii label then (decodeLabel label).map fun _ => label
    else (check label).map fun t => encodedLead ++ Punycode.encode t
  match encoded with
  | .error f => .error f
  | .ok t => if greatestLabel < t.length then .error .tooLong else .ok t

/-- Labels end at a full stop of any width. -/
def isStop (c : CodePoint) : Bool := c = '.' || c = 0x3002 || c = 0xFF0E || c = 0xFF61

/-- The labels of a name, and whether there is a stop behind the last of them. -/
def labels (name : Text) : List Text × Bool :=
  let parts := Text.splitOn '.' (name.map fun c => if isStop c then .ofChar '.' else c)
  if parts.getLast? = some [] then (parts.dropLast, true) else (parts, false)

/-- The ASCII form of a name. -/
def encodeName (name : Text) : Except LabelFault Text :=
  let (parts, rooted) := labels name
  match parts.mapM encodeLabel with
  | .error f => .error f
  | .ok parts =>
    let whole := Text.join "." (if rooted then parts ++ [[]] else parts)
    if (if rooted then greatestName else greatestName - 1) < whole.length then .error .nameTooLong
    else .ok whole

/-- The labels that those of an ASCII name stand for. -/
def decodeName (name : Text) : Except LabelFault (List Text) :=
  if greatestName < name.length then .error .nameTooLong
  else (labels name).1.mapM decodeLabel

end TokenIndex.Host
