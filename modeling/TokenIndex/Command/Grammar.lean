import TokenIndex.Text.Basic

namespace TokenIndex

inductive Switch where
  | help
  | verbose
  | json
  | name
  | entries
  | index
  | category
  | limit
  | host
  | portNumber
  deriving DecidableEq, Repr

inductive Takes where
  | nothing
  | text
  | integer
  deriving DecidableEq, Repr

namespace Switch

/-- The spellings of a switch, the one for the usage line first. -/
def names : Switch → List Text
  | help => ["-h", "--help"]
  | verbose => ["--verbose", "-v"]
  | json => ["--json"]
  | name => ["--name"]
  | entries => ["--entries"]
  | index => ["--index", "-i"]
  | category => ["--category"]
  | limit => ["--limit", "-n"]
  | host => ["--host"]
  | portNumber => ["--port"]

def takes : Switch → Takes
  | help | verbose | json | name | entries => .nothing
  | index | category | host => .text
  | limit | portNumber => .integer

def placeholder : Switch → Text
  | index => "INDEX"
  | category => "CATEGORY"
  | limit => "LIMIT"
  | host => "HOST"
  | portNumber => "PORT"
  | _ => []

end Switch

inductive Command where
  | lookup
  | search
  | info
  | tokens
  | serve
  deriving DecidableEq, Repr

/-- What a command line takes besides switches. -/
inductive Operand where
  | nothing
  | one (name description : Text)
  /-- A command, to which all further words belong. -/
  | command
  deriving DecidableEq, Repr

structure Grammar where
  program : Text
  description : Text
  /-- Each switch with the words that describe it. -/
  switches : List (Switch × Text)
  operand : Operand

namespace Command

def all : List Command := [lookup, search, info, tokens, serve]

def name : Command → Text
  | lookup => "lookup"
  | search => "search"
  | info => "info"
  | tokens => "tokens"
  | serve => "serve"

def summary : Command → Text
  | lookup => "Look up a token"
  | search => "List tokens starting with a prefix"
  | info => "Show index summary"
  | tokens => "List all tokens"
  | serve => "Serve the search API"

def ofName? (t : Text) : Option Command := all.find? fun c => c.name == t

end Command

namespace Grammar

def programName : Text := "docsearch"

def helpSwitch : Switch × Text := (.help, "show this help message and exit")

def main : Grammar where
  program := programName
  description := "Documentation search index CLI"
  switches := [helpSwitch, (.verbose, "Log loader activity")]
  operand := .command

def categorySwitch : Switch × Text := (.category, "File category for directories (default: all)")

/-- The switches of all commands that can read an index. -/
def reading : List (Switch × Text) :=
  [(.index, "Search data file or directory (default: query the API)"), categorySwitch,
    (.json, "Print raw JSON")]

def switchesOf : Command → List (Switch × Text)
  | .lookup =>
    (.name, "Normalize the argument first (operator= -> operator_3d)") :: reading
  | .search =>
    (.limit, "Maximum number of tokens") ::
      (.entries, "Show every entry, not just the label") :: reading
  | .info | .tokens => reading
  | .serve =>
    [(.index, "Search data file or directory (default: $DOCSEARCH_INDEX)"), categorySwitch,
      (.host, []), (.portNumber, [])]

def operandOf : Command → Operand
  | .lookup => .one "token" "Search token (e.g. onidle) or, with --name, a raw identifier"
  | .search => .one "prefix" "Token prefix"
  | _ => .nothing

def ofCommand (c : Command) : Grammar where
  program := programName ++ " " ++ c.name
  description := []
  switches := helpSwitch :: switchesOf c
  operand := operandOf c

/-- All spellings of all switches, in order. -/
def spellings (g : Grammar) : List (Text × Switch) :=
  g.switches.flatMap fun (s, _) => s.names.map fun name => (name, s)

end Grammar

end TokenIndex
