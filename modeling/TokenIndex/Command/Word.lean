import TokenIndex.Command.Grammar
import TokenIndex.Text.Quoted
import TokenIndex.Text.Digit

namespace TokenIndex

inductive Complaint where
  | ambiguous (word : Text) (names : List Text)
  | noValue (s : Switch)
  /-- A value for a switch that takes none. -/
  | needless (s : Switch) (value : Text)
  | notInteger (s : Switch) (value : Text)
  | unknownCommand (word : Text)
  | missingOperand (name : Text)
  | unrecognized (words : List Text)
  deriving DecidableEq, Repr

namespace Complaint

def about (s : Switch) (what : Text) : Text :=
  "argument " ++ Text.join "/" s.names ++ ": " ++ what

def message : Complaint → Text
  | ambiguous word names =>
    "ambiguous option: " ++ word ++ " could match " ++ Text.join ", " names
  | noValue s => about s "expected one argument"
  | needless s value => about s ("ignored explicit argument " ++ value.quoted)
  | notInteger s value => about s ("invalid int value: " ++ value.quoted)
  | unknownCommand word =>
    "argument command: invalid choice: " ++ word.quoted ++ " (choose from " ++
      Text.join ", " (Command.all.map fun c => c.name.quoted) ++ ")"
  | missingOperand name => "the following arguments are required: " ++ name
  | unrecognized words => "unrecognized arguments: " ++ Text.join " " words

end Complaint

inductive Role where
  | plain
  /-- A switch, with the text behind an equals sign, or right behind a short switch. -/
  | switch (s : Switch) (short : Bool) (attached : Option Text)
  | unknown
  /-- The first word `--`; after it every word is plain. -/
  | divider
  deriving DecidableEq, Repr

structure Word where
  text : Text
  role : Role
  deriving DecidableEq, Repr

namespace Role

def isDash (c : CodePoint) : Bool := c = '-'

/-- Digits with a minus sign in front and perhaps a point before some of them, and perhaps a line
feed behind. -/
def isNegativeNumber (t : Text) : Bool :=
  let point : CodePoint := '.'
  let lineEnd : CodePoint := '\n'
  match t with
  | [] => false
  | c :: rest =>
    let body := if rest.getLast? = some lineEnd then rest.dropLast else rest
    let last := body.dropWhile CodePoint.isDigit
    isDash c && match last with
      | [] => !body.isEmpty
      | p :: digits => p = point && !digits.isEmpty && digits.all CodePoint.isDigit

/-- A long name may be cut short, as long as only one begins so. -/
def ofLong (spellings : List (Text × Switch)) (t : Text) : Except Complaint (Option Role) :=
  let sign : CodePoint := '='
  let head := t.takeWhile (· ≠ sign)
  let attached := match t.dropWhile (· ≠ sign) with
    | [] => none
    | _ :: text => some text
  match spellings.filter fun (name, _) => name.startsWith head with
  | [] => .ok none
  | [(_, s)] => .ok (some (switch s false attached))
  | many => .error (.ambiguous t (many.map (·.1)))

/-- A short switch may have a value, or more short switches, right behind it. -/
def ofShort (spellings : List (Text × Switch)) (t : Text) : Option Role :=
  (spellings.lookup (t.take 2)).map fun s => switch s true (some (t.drop 2))

def isShort (name : Text) : Bool := !name.startsWith "--"

/-- A switch spelled out, alone or before an equals sign. -/
def spelledOut? (spellings : List (Text × Switch)) (t : Text) : Option Role :=
  let sign : CodePoint := '='
  match spellings.lookup t with
  | some s => some (switch s (isShort t) none)
  | none =>
    match t.dropWhile (· ≠ sign) with
    | [] => none
    | _ :: text =>
      let name := t.takeWhile (· ≠ sign)
      (spellings.lookup name).map fun s => switch s (isShort name) (some text)

/-- Words that begin with a dash are switches, but for a dash alone, negative numbers, and words
with a blank in them that name no switch. -/
def ofText (spellings : List (Text × Switch)) (t : Text) : Except Complaint Role :=
  let blank : CodePoint := ' '
  let other := if isNegativeNumber t || t.contains blank then plain else unknown
  match t with
  | [] | [_] => .ok plain
  | c :: d :: _ =>
    if !isDash c then .ok plain
    else
      match spelledOut? spellings t with
      | some role => .ok role
      | none =>
        if isDash d then (ofLong spellings t).map (·.getD other)
        else .ok ((ofShort spellings t).getD other)

end Role

namespace Word

def ofTexts (spellings : List (Text × Switch)) : List Text → Except Complaint (List Word)
  | [] => .ok []
  | t :: ts =>
    if t = "--" then .ok (⟨t, .divider⟩ :: ts.map (⟨·, .plain⟩))
    else
      match Role.ofText spellings t with
      | .error e => .error e
      | .ok role => (ofTexts spellings ts).map (⟨t, role⟩ :: ·)

end Word

end TokenIndex
