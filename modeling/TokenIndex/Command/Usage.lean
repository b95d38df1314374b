import TokenIndex.Command.Grammar

namespace TokenIndex.Grammar

def pageWidth : Nat := 78

/-- The column in which descriptions begin. -/
def descriptionColumn : Nat := 24

/-- Breaks words into lines of at most `width` columns. Of these `used` are taken on the first
line, with the words `line` on it, and `indent` on every other. A word is never broken. -/
def breakWords (width indent : Nat) : (used : Nat) → (line : List Text) → List Text →
    List (List Text)
  | _, line, [] => if line.isEmpty then [] else [line]
  | used, [], w :: ws => breakWords width indent (used + w.length) [w] ws
  | used, first :: line, w :: ws =>
    if used + 1 + w.length > width then
      (first :: line) :: breakWords width indent (indent + w.length) [w] ws
    else breakWords width indent (used + 1 + w.length) (first :: line ++ [w]) ws

def switchUsage (s : Switch) : Text :=
  let value : Text := match s.takes with
    | .nothing => []
    | _ => " " ++ s.placeholder
  "[" ++ s.names.headD [] ++ value ++ "]"

def choices : Text := "\x7b" ++ Text.join "," (Command.all.map Command.name) ++ "\x7d"

def operandUsage : Operand → List Text
  | .nothing => []
  | .one name _ => [name]
  | .command => [choices, "..."]

def usageLead : Text := "usage: "

/-- One line if it fits; else switches and operand begin lines of their own. -/
def usage (g : Grammar) : Text :=
  let switches := g.switches.map fun (s, _) => switchUsage s
  let operand := operandUsage g.operand
  let whole := usageLead ++ Text.join " " (g.program :: switches ++ operand)
  if whole.length ≤ pageWidth then whole ++ "\n"
  else
    let indent := usageLead.length + g.program.length + 1
    let start := usageLead.length + g.program.length
    let broken := breakWords pageWidth indent start [g.program] switches ++
      breakWords pageWidth indent indent [] operand
    usageLead ++ Text.join ('\n' :: Text.fill indent ' ') (broken.map (Text.join " ")) ++ "\n"

/-- A row of the help text: what is described, and the description, which begins on a line of its
own when there is no room. -/
def helpRow (indent : Nat) (head description : Text) : Text :=
  let lead := Text.fill indent ' ' ++ head
  let broken := (breakWords pageWidth descriptionColumn descriptionColumn []
    (Text.splitOn ' ' description)).map (Text.join " ")
  let column := Text.fill descriptionColumn ' '
  if description.isEmpty then lead ++ "\n"
  else if lead.length + 2 ≤ descriptionColumn then
    Text.padRight descriptionColumn lead ++ Text.join ('\n' :: column) broken ++ "\n"
  else Text.join ('\n' :: column) (lead :: broken) ++ "\n"

def switchHead (s : Switch) : Text :=
  let value : Text := match s.takes with
    | .nothing => []
    | _ => " " ++ s.placeholder
  Text.join ", " (s.names.map (· ++ value))

def operandHelp : Operand → Text
  | .nothing => []
  | .one name description => helpRow 2 name description
  | .command => helpRow 2 choices [] ++ Command.all.flatMap (fun c => helpRow 4 c.name c.summary)

def help (g : Grammar) : Text :=
  let description : Text := if g.description.isEmpty then [] else g.description ++ "\n\n"
  let operand : Text := match g.operand with
    | .nothing => []
    | o => "positional arguments:\n" ++ operandHelp o ++ "\n"
  g.usage ++ "\n" ++ description ++ operand ++ "options:\n" ++
    g.switches.flatMap (fun (s, text) => helpRow 2 (switchHead s) text)

end TokenIndex.Grammar
