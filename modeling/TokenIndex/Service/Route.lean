import TokenIndex.Percent

namespace TokenIndex.Service

inductive Route where
  | root
  | index
  | tokens
  | lookup (token : Text)
  | search
  deriving DecidableEq, Repr

namespace Route

def fixed : List (Text × Route) :=
  [("/", root), ("/api/index", index), ("/api/tokens", tokens), ("/api/search", search)]

def lookupLead : Text := "/api/lookup/"

/-- The route of a decoded path. A path without a token may end in a line feed; a token holds no
slash. The pages on which a framework describes the service are left out. -/
def ofPath? (path : Text) : Option Route :=
  let slash : CodePoint := '/'
  match fixed.find? fun f => path == f.1 || path == f.1 ++ "\n" with
  | some f => some f.2
  | none =>
    match Text.after? lookupLead path with
    | some token => if token.isEmpty || token.contains slash then none else some (lookup token)
    | none => none

/-- The path with a slash less, or more, at its end, if that is one the service answers. -/
def nearby? (path : Text) : Option Text :=
  let slash : CodePoint := '/'
  if path = "/" then none
  else
    -- all slashes at the end are taken off at once
    let other :=
      if path.getLast? = some slash then Text.dropEndWhile (· = slash) path else path ++ "/"
    if (ofPath? other).isSome then some other else none

/-- The one host that every request is taken to be for. -/
def base : Text := "http://docs.local"

def isKeptInLocation (c : CodePoint) : Bool :=
  Percent.isUnreserved c || c.isOneOf ":/%#?=@[]!$&'()*+,;"

/-- The address of a decoded path and a query. -/
def location (path query : Text) : Except Utf8.EncodeFault Text :=
  let mark : CodePoint := '?'
  let tail := if query.isEmpty then [] else mark :: query
  Percent.encodeKeeping isKeptInLocation (base ++ path ++ tail)

end Route

end TokenIndex.Service
