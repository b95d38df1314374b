import TokenIndex.Text.Printable

namespace TokenIndex

namespace CodePoint

/-- The form of a code point between quotes `quote`. -/
def quotedIn (quote c : CodePoint) : Text :=
  if c = quote || c = '\\' then ['\\', c]
  else if c = '\n' then "\\n"
  else if c = '\r' then "\\r"
  else if c = '\t' then "\\t"
  else if c.isPrintable then [c]
  else c.escaped

end CodePoint

namespace Text

/-- A text between single quotes, or double ones if only single quotes occur in it; what cannot
be printed is escaped. -/
def quoted (t : Text) : Text :=
  let single : CodePoint := '\''
  let double : CodePoint := '"'
  let quote := if t.contains single && !t.contains double then double else single
  quote :: t.flatMap (CodePoint.quotedIn quote) ++ [quote]

end Text

end TokenIndex
