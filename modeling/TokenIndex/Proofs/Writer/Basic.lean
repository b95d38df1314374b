import TokenIndex.Literal.Document
import TokenIndex.Entry
import TokenIndex.Proofs.Literal.Grammar
import TokenIndex.Proofs.Reference

namespace TokenIndex.Writer

open Literal.Grammar (Blanks)

structure Link where
  locator : Text
  flag : Int
  scope : Text
  located : locator ≠ []
  /-- Longer numbers are not converted back. -/
  short : (Text.decimal flag.natAbs).length ≤ TooManyDigits.limit

structure Topic where
  token : Text
  label : Text
  links : List Link
  named : token ≠ []
  labelled : label ≠ []
  linked : links ≠ []

/-- What search data tells: tokens, and where they lead. -/
structure Index where
  topics : List Topic
  distinct : (topics.map Topic.token).Nodup

def Link.entry (label : Text) (link : Link) : Entry :=
  ⟨label, link.locator, link.scope, link.flag != 0⟩

def Topic.entries (topic : Topic) : List Entry := topic.links.map (Link.entry topic.label)

def Index.strings (index : Index) : List Text :=
  index.topics.flatMap fun topic => topic.token :: topic.label ::
    topic.links.flatMap fun link => [link.locator, link.scope]

def quoteOne (c : CodePoint) : Text :=
  if c = '\\' then "\\\\"
  else if c = '\'' then "\\'"
  else if c = '\n' then "\\n"
  else if c = '\r' then "\\r"
  else [c]

def quote (t : Text) : Text := "'" ++ t.flatMap quoteOne ++ "'"

/-- The lexical elements of an array, from those of its items. -/
def bracketed (items : List (List Text)) : List Text :=
  [("[" : Text)] ++ (items.intersperse [("," : Text)]).flatten ++ [("]" : Text)]

def Link.lexemes (link : Link) : List Text :=
  bracketed [[quote link.locator], [Text.decimalInt link.flag],
    [quote (Reference.escape link.scope)]]

/-- Only labels and scopes may hold character references. -/
def Topic.lexemes (topic : Topic) : List Text :=
  bracketed [[quote topic.token],
    bracketed ([quote (Reference.escape topic.label)] :: topic.links.map Link.lexemes)]

def Index.lexemes (index : Index) : List Text :=
  [("var" : Text), "searchData", "="] ++ bracketed (index.topics.map Topic.lexemes) ++
    [(";" : Text)]

/-- The white space in front of each lexical element, by its number, and at the end. -/
structure Layout where
  gap : Nat → Text
  blank : ∀ i, Blanks (gap i)
  /-- The name of the variable stands apart from the keyword. -/
  apart : gap 1 ≠ []

/-- Lexical elements, the first of which has number `i`, and the gaps around them. -/
def spread (gap : Nat → Text) (i : Nat) : List Text → Text
  | [] => gap i
  | lexeme :: lexemes => gap i ++ lexeme ++ spread gap (i + 1) lexemes

def render (layout : Layout) (index : Index) : Text := spread layout.gap 0 index.lexemes

/-- The search data value of a link. -/
def Link.raw (link : Link) : Value :=
  .array [.text link.locator, .int link.flag, .text (Reference.escape link.scope)]

def Topic.raw (topic : Topic) : Value :=
  .array [.text topic.token,
    .array (.text (Reference.escape topic.label) :: topic.links.map Link.raw)]

end TokenIndex.Writer
