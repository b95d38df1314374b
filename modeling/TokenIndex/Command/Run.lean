import TokenIndex.Command.Arguments
import TokenIndex.Command.Client
import TokenIndex.Command.Report
import TokenIndex.Command.Usage
import TokenIndex.Load.Activity
import TokenIndex.Token
import TokenIndex.World

namespace TokenIndex

/-- What a command asks to be done outside. -/
inductive Call where
  | get (q : Inquiry)
  | serve (host : Given Text) (portNumber : Given Int)
  deriving Repr

/-- An error that no command reports on its own. -/
inductive Escape where
  | use (e : Value.UseError)
  | unencodable (e : Utf8.EncodeFault)
  | variable (e : ValueError)
  deriving DecidableEq, Repr

def Escape.message : Escape → Text
  | .use e => e.message
  | .unencodable e => e.message
  | .variable e => e.message

structure Outcome where
  exit : Nat
  output : Text
  errors : Text
  calls : List Call
  escaped : Option Escape
  deriving Repr

namespace Outcome

def quiet : Outcome := ⟨0, [], [], [], none⟩

def failed (message : Text) : Outcome :=
  { quiet with exit := 1, output := "✗ Error: " ++ message ++ "\n" }

def escape (e : Escape) : Outcome := { quiet with exit := 1, escaped := some e }

/-- The output takes every text, surrogates as well: what a strict encoding of it would refuse is
left out. -/
def ofLines (lines : List Line) : Outcome :=
  match Report.print lines with
  | (text, none) => { quiet with output := text }
  | (text, some e) => { quiet with exit := 1, output := text, escaped := some (.use e) }

/-- Help is an answer; a complaint goes with the usage line. -/
def ofHalt (h : Halt) : Outcome :=
  match h.stop with
  | .help => { quiet with output := h.grammar.help }
  | .complaint c =>
    { quiet with
      exit := 2
      errors := h.grammar.usage ++ h.grammar.program ++ ": error: " ++ c.message ++ "\n" }

end Outcome

/-- Why a table cannot answer a question. -/
inductive QuestionError where
  /-- A limit without a value cannot be compared with a number of rows. -/
  | limitWithoutValue
  deriving DecidableEq, Repr

def QuestionError.message : QuestionError → Text
  | .limitWithoutValue => "'>=' not supported between instances of 'int' and 'list'"

/-- A question that can be put to a table as well as to a running service. -/
structure Question where
  ofTable : Table → Except QuestionError Value
  inquiry : Text → Except Utf8.EncodeFault Inquiry
  /-- The field of the service's answer that holds what is asked for, if not all of it does. -/
  field : Option Text

namespace Question

def info : Question := ⟨fun t => .ok t.summary, fun base => .ok (.index base), none⟩

def tokens : Question :=
  ⟨fun t => .ok (.array (t.tokens.map .text)), fun base => .ok (.tokens base), some "tokens"⟩

def lookup (token : Text) : Question :=
  ⟨fun t => .ok (entriesValue (t.lookup token)), fun base => Inquiry.lookup base token,
    some "entries"⟩

/-- The rows of a table that begin with a text. A limit is compared once per row. -/
def rows (start : Text) (t : Table) : Option (Given Int) → Except QuestionError (List Row)
  | none => .ok (t.search start none)
  | some (.value n) => .ok (t.search start (some n))
  | some .dropped =>
    if (t.search start none).isEmpty then .ok [] else .error .limitWithoutValue

def search (start : Text) (limit : Option (Given Int)) : Question :=
  ⟨fun t => (rows start t limit).map fun rows => .array (rows.map rowValue),
    fun base => .ok (.search base start (limit.bind Given.value?)), some "results"⟩

end Question

namespace Command

/-- A text that was given and is not empty. -/
def given? (t : Option Text) : Option Text := t.filter fun t => !t.isEmpty

def categoryFor (w : World) (a : Arguments) : Text := (given? a.category).getD w.env.category

/-- Puts a question to the table that an index gives or names. -/
def askTable (w : World) (a : Arguments) (index : Text) (q : Question)
    (report : Value → List Line) : Outcome :=
  let category := categoryFor w a
  let log := if a.verbose then (activity w.files index category).flatMap Activity.line else []
  let outcome := match load w.files (.text index) category with
    | .error e => Outcome.failed e.message
    | .ok t =>
      match q.ofTable t with
      | .ok v => Outcome.ofLines (report v)
      | .error e => Outcome.failed e.message
  { outcome with errors := log }

/-- Puts a question to a running service. -/
def askService (w : World) (reply : Reply) (q : Question) (report : Value → List Line) : Outcome :=
  match q.inquiry w.env.apiUrl with
  | .error e => .failed e.message
  | .ok inquiry =>
    let answer := match q.field with
      | none => reply.value inquiry
      | some name => reply.field inquiry name
    let outcome := match answer with
      | .ok v => Outcome.ofLines (report v)
      | .error e => Outcome.failed e.message
    { outcome with calls := [.get inquiry] }

/-- The table is asked where an index is given, else the service. -/
def ask (w : World) (a : Arguments) (reply : Reply) (q : Question) (report : Value → List Line) :
    Outcome :=
  match given? a.index with
  | some index => askTable w a index q report
  | none => askService w reply q report

def runLookup (w : World) (a : Arguments) (reply : Reply) (operand : Text) : Outcome :=
  match if a.byName then Token.encode operand else .ok operand with
  | .error e => .escape (.unencodable e)
  | .ok token => ask w a reply (.lookup token) (Report.lookup token a.json)

def assignGiven (env : Environment) (name : Text) (value : Option Text) :
    Except ValueError Environment :=
  match given? value with
  | some v => env.assign name v
  | none => .ok env

/-- The service reads its settings from the environment, so what was given goes there first. -/
def runServe (w : World) (a : Arguments) : Outcome × World :=
  match assignGiven w.env Environment.indexName a.index with
  | .error e => (.escape (.variable e), w)
  | .ok env =>
    match assignGiven env Environment.categoryName a.category with
    | .error e => (.escape (.variable e), { w with env := env })
    | .ok env =>
      ({ Outcome.quiet with calls := [.serve a.host a.portNumber] }, { w with env := env })

def run (w : World) (reply : Reply) (c : Command) (operand : Text) (a : Arguments) :
    Outcome × World :=
  match c with
  | lookup => (runLookup w a reply operand, w)
  | search =>
    (ask w a reply (.search operand a.limit) (Report.search operand a.json a.showEntries), w)
  | info => (ask w a reply .info (Report.info a.json), w)
  | tokens => (ask w a reply .tokens (Report.tokens a.json), w)
  | serve => runServe w a

end Command

/-- Runs a command line. `reply` is what the service answers, should it be asked. -/
def runTexts (w : World) (reply : Reply) (texts : List Text) : Outcome × World :=
  match Task.ofTexts texts with
  | .error halt => (.ofHalt halt, w)
  | .ok .nothing => ({ Outcome.quiet with output := Grammar.main.help }, w)
  | .ok (.run c operand a) => c.run w reply operand a

end TokenIndex
