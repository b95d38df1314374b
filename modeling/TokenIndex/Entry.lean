import TokenIndex.Value

namespace TokenIndex

/-- One place in the documentation that a token leads to. -/
structure Entry where
  label : Text
  locator : Text
  scope : Text
  /-- Whether the link opens in the parent frame. -/
  parentFrame : Bool
  deriving DecidableEq, Repr

/-- A token and what it leads to. -/
abbrev Row := Text × List Entry

def Entry.toValue (e : Entry) : Value :=
  .object [("label", .text e.label), ("locator", .text e.locator), ("scope", .text e.scope),
    ("parent_frame", .bool e.parentFrame)]

def entriesValue (entries : List Entry) : Value := .array (entries.map Entry.toValue)

/-- The label shown for a row is that of its first entry. -/
def rowValue (r : Row) : Value :=
  .object [("token", .text r.1), ("label", .text ((r.2.head?.map Entry.label).getD [])),
    ("entries", entriesValue r.2)]

end TokenIndex
