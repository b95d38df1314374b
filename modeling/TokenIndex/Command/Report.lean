import TokenIndex.Json.Writer
import TokenIndex.Value.Display

namespace TokenIndex

abbrev Line := Except Value.UseError Text

namespace Report

/-- The lines up to the first that cannot be written, and why it cannot. -/
def print : List Line → Text × Option Value.UseError
  | [] => ([], none)
  | .error e :: _ => ([], some e)
  | .ok t :: rest =>
    let (text, fault) := print rest
    (t ++ text, fault)

def json (v : Value) : List Line := [.ok (Json.indented v ++ "\n")]

/-- The lines of all items of a value. -/
def each (v : Value) (lines : Value → List Line) : List Line :=
  match v.items with
  | .ok vs => vs.flatMap lines
  | .error e => [.error e]

def column (v : Value) (name : Text) (width : Nat) : Line :=
  match v.get name with
  | .ok v => v.inColumn width
  | .error e => .error e

/-- Columns with a blank between them, and a last text of any width. -/
def row (lead : Text) : List Line → Line → Line
  | [], last => last.map fun t => lead ++ t ++ "\n"
  | .error e :: _, _ => .error e
  | .ok t :: columns, last => row (lead ++ t ++ " ") columns last

def entryLine (v : Value) : Line :=
  row "  " [column v "label" 24, column v "scope" 50] ((v.get "locator").map Value.shown)

def entryLines (v : Value) : List Line := each v fun e => [entryLine e]

def count (v : Value) : Line :=
  v.length.map fun n => "(" ++ Text.decimal n ++ ")"

def lookup (token : Text) (asJson : Bool) (entries : Value) : List Line :=
  if asJson then json (.object [("token", .text token), ("entries", entries)])
  else if entries.isVoid then [.ok ("No entries for '" ++ token ++ "'.\n")]
  else row (token ++ " ") [] (count entries) :: entryLines entries

def resultLine (v : Value) : Line :=
  row [] [column v "token" 30, column v "label" 24]
    (match v.get "entries" with
      | .ok v => count v
      | .error e => .error e)

def resultLines (showEntries : Bool) (v : Value) : List Line :=
  resultLine v ::
    if showEntries then
      match v.get "entries" with
      | .ok entries => entryLines entries
      | .error e => [.error e]
    else []

def search (start : Text) (asJson showEntries : Bool) (results : Value) : List Line :=
  if asJson then json (.object [("prefix", .text start), ("results", results)])
  else if results.isVoid then [.ok ("No tokens start with '" ++ start ++ "'.\n")]
  else each results (resultLines showEntries)

def tokens (asJson : Bool) (tokens : Value) : List Line :=
  if asJson then json (.object [("tokens", tokens)])
  else each tokens fun v => [.ok (v.shown ++ "\n")]

def infoLine (v : Value) (name title : Text) : Line :=
  (v.get name).map fun v => title ++ ": " ++ v.shown ++ "\n"

def info (asJson : Bool) (v : Value) : List Line :=
  if asJson then json v
  else [infoLine v "source" "Source", infoLine v "token_count" "Tokens",
    infoLine v "entry_count" "Entries"]

end Report

end TokenIndex
