import TokenIndex.Command.Word
import TokenIndex.Text.Integer

namespace TokenIndex

/-- What was given for the value of a switch. -/
inductive Given (α : Type) where
  | value (a : α)
  /-- A value spelled like the divider: it is dropped, and the switch goes without one. -/
  | dropped
  deriving DecidableEq, Repr

namespace Given

def ofText (t : Text) : Given Text := if t = "--" then dropped else value t

def value? {α : Type} : Given α → Option α
  | value a => some a
  | dropped => none

end Given

structure Arguments where
  verbose : Bool
  json : Bool
  byName : Bool
  showEntries : Bool
  index : Option Text
  category : Option Text
  limit : Option (Given Int)
  host : Given Text
  portNumber : Given Int
  deriving DecidableEq, Repr

/-- Why reading ends early. -/
inductive Stop where
  | help
  | complaint (c : Complaint)
  deriving DecidableEq, Repr

namespace Arguments

def default : Arguments where
  verbose := false
  json := false
  byName := false
  showEntries := false
  index := none
  category := none
  limit := none
  host := .value "127.0.0.1"
  portNumber := .value 8000

def integer (s : Switch) : Given Text → Except Stop (Given Int)
  | .dropped => .ok .dropped
  | .value t =>
    match t.toInt? with
    | some i => .ok (.value i)
    | none => .error (.complaint (.notInteger s t))

/-- The effect of a switch, with its value if it takes one. -/
def set (a : Arguments) (s : Switch) (value : Given Text) : Except Stop Arguments :=
  match s with
  | .help => .error .help
  | .verbose => .ok { a with verbose := true }
  | .json => .ok { a with json := true }
  | .name => .ok { a with byName := true }
  | .entries => .ok { a with showEntries := true }
  | .index => .ok { a with index := value.value? }
  | .category => .ok { a with category := value.value? }
  | .limit => (integer s value).map fun i => { a with limit := some i }
  | .host => .ok { a with host := value }
  | .portNumber => (integer s value).map fun i => { a with portNumber := i }

def setAll (a : Arguments) : List (Switch × Given Text) → Except Stop Arguments
  | [] => .ok a
  | (s, value) :: rest =>
    match set a s value with
    | .error e => .error e
    | .ok a => setAll a rest

end Arguments

/-- The switches of one word, each with its value. The last may still wait for the next word. -/
structure Bundle where
  settings : List (Switch × Given Text)
  waiting : Option Switch
  deriving DecidableEq, Repr

namespace Bundle

def single (s : Switch) : Bundle :=
  match s.takes with
  | .nothing => ⟨[(s, .dropped)], none⟩
  | _ => ⟨[], some s⟩

def cons (s : Switch) (b : Bundle) : Bundle := { b with settings := (s, .dropped) :: b.settings }

def withValue (s : Switch) (value : Text) : Except Complaint Bundle :=
  if s.takes = .nothing then .error (.needless s value) else .ok ⟨[(s, .ofText value)], none⟩

/-- A short switch with text right behind it: its value, or else more short switches. -/
def ofShort (spellings : List (Text × Switch)) (s : Switch) : Text → Except Complaint Bundle
  | [] => withValue s []
  | c :: text =>
    if s.takes ≠ .nothing then withValue s (c :: text)
    else
      let dash : CodePoint := '-'
      match spellings.lookup [dash, c], text with
      | none, _ => .error (.needless s (c :: text))
      | some next, [] => .ok (cons s (single next))
      | some next, text => (ofShort spellings next text).map (cons s)

def ofSwitch (spellings : List (Text × Switch)) (s : Switch) (short : Bool) :
    Option Text → Except Complaint Bundle
  | none => .ok (single s)
  | some text => if short then ofShort spellings s text else withValue s text

end Bundle

/-- What has been read: switches, the operand if it was there, and words without a place. -/
structure Progress where
  arguments : Arguments
  operand : Option (List Text)
  extras : List Text
  deriving DecidableEq, Repr

namespace Progress

def start : Progress := ⟨.default, none, []⟩

def aside (p : Progress) (texts : List Text) : Progress := { p with extras := p.extras ++ texts }

/-- Whether an operand of one word is still to come. -/
def wantsOne (g : Grammar) (p : Progress) : Bool :=
  match g.operand, p.operand with
  | .one _ _, none => true
  | _, _ => false

def wantsCommand (g : Grammar) (p : Progress) : Bool :=
  match g.operand, p.operand with
  | .command, none => true
  | _, _ => false

def take (p : Progress) (texts : List Text) : Progress := { p with operand := some texts }

def setAll (p : Progress) (settings : List (Switch × Given Text)) : Except Stop Progress :=
  (p.arguments.setAll settings).map fun a => { p with arguments := a }

end Progress

namespace Grammar

/-- The words in order. A divider next to an operand of one word is dropped, and one before a
command is taken for the command. -/
def readWords (g : Grammar) (p : Progress) : List Word → Except Stop Progress
  | [] => .ok p
  | w :: rest =>
    match w.role with
    | .unknown => readWords g (p.aside [w.text]) rest
    | .plain =>
      if p.wantsCommand g then .ok (p.take (w.text :: rest.map Word.text))
      else if p.wantsOne g then
        match rest with
        | ⟨_, .divider⟩ :: rest => readWords g (p.take [w.text]) rest
        | rest => readWords g (p.take [w.text]) rest
      else readWords g (p.aside [w.text]) rest
    | .divider =>
      match rest with
      | next :: more =>
        if p.wantsCommand g then .ok (p.take (w.text :: next.text :: more.map Word.text))
        else if p.wantsOne g then readWords g (p.take [next.text]) more
        else .ok (p.aside (w.text :: next.text :: more.map Word.text))
      | [] => .ok (p.aside [w.text])
    | .switch s short attached =>
      match Bundle.ofSwitch g.spellings s short attached with
      | .error c => .error (.complaint c)
      | .ok b =>
        match b.waiting, rest with
        | none, rest =>
          match p.setAll b.settings with
          | .error e => .error e
          | .ok p => readWords g p rest
        -- no switch of a word takes effect until the last of them has its value
        | some s, ⟨value, .plain⟩ :: rest =>
          match p.setAll (b.settings ++ [(s, .ofText value)]) with
          | .error e => .error e
          | .ok p => readWords g p rest
        | some s, _ => .error (.complaint (.noValue s))

def read (g : Grammar) (texts : List Text) : Except Stop Progress :=
  match Word.ofTexts g.spellings texts with
  | .error c => .error (.complaint c)
  | .ok words =>
    match readWords g .start words with
    | .error e => .error e
    | .ok p =>
      match g.operand, p.operand with
      | .one name _, none => .error (.complaint (.missingOperand name))
      | _, _ => .ok p

end Grammar

/-- What is to be done: a command with its operand, or nothing but help. -/
inductive Task where
  | nothing
  | run (c : Command) (operand : Text) (a : Arguments)
  deriving DecidableEq, Repr

/-- The early end of reading, and the part of the command line it arose in. -/
structure Halt where
  grammar : Grammar
  stop : Stop

namespace Task

def halt {α : Type} (g : Grammar) (r : Except Stop α) : Except Halt α := r.mapError fun e => ⟨g, e⟩

/-- The words kept aside are refused by the program as a whole. -/
def finish (extras : List Text) (task : Task) : Except Halt Task :=
  if extras.isEmpty then .ok task
  else .error ⟨.main, .complaint (.unrecognized extras)⟩

def ofCommand (outer : Progress) (c : Command) (texts : List Text) : Except Halt Task :=
  match halt (.ofCommand c) ((Grammar.ofCommand c).read texts) with
  | .error e => .error e
  | .ok p =>
    let a := { p.arguments with verbose := outer.arguments.verbose }
    finish (outer.extras ++ p.extras) (.run c (p.operand.getD []).flatten a)

def ofTexts (texts : List Text) : Except Halt Task :=
  match halt .main (Grammar.main.read texts) with
  | .error e => .error e
  | .ok p =>
    match p.operand with
    | none | some [] => finish p.extras .nothing
    | some (word :: rest) =>
      match Command.ofName? word with
      | none => .error ⟨.main, .complaint (.unknownCommand word)⟩
      | some c => ofCommand p c rest

end Task

end TokenIndex
