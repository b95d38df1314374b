import TokenIndex.Service.Origin
import TokenIndex.Service.Query
import TokenIndex.Service.Route
import TokenIndex.World

namespace TokenIndex.Service

inductive AnswerError where
  | serve (e : ServeError)
  /-- An answer that holds a surrogate cannot be sent. -/
  | unsendable (e : Utf8.EncodeFault)
  deriving DecidableEq, Repr

def AnswerError.message : AnswerError → Text
  | .serve e => e.message
  | .unsendable e => e.message

def about : Value := .object [("name", .ofString "Docsearch API"), ("version", .ofString "0.1.0")]

def tokensValue (t : Table) : Value := .object [("tokens", .array (t.tokens.map .text))]

def lookupValue (t : Table) (token : Text) : Value :=
  .object [("token", .text token), ("entries", entriesValue (t.lookup token))]

def searchValue (start : Text) (rows : List Row) : Value :=
  .object [("prefix", .text start), ("results", .array (rows.map rowValue))]

def defectsValue (ds : List Query.Defect) : Value :=
  .object [("detail", .array (ds.map Query.Defect.toValue))]

def send (v : Value) : Except AnswerError Response :=
  match Response.ofValue v with
  | .ok r => .ok r
  | .error e => .error (.unsendable e)

/-- The answer on a route that needs the table. -/
def answerFrom (t : Table) (query : Text) : Route → Except AnswerError Response
  | .root => send about
  | .index => send t.summary
  | .tokens => send (tokensValue t)
  | .lookup token => send (lookupValue t token)
  | .search =>
    match Query.search query with
    | .error ds => .ok (.json 422 (defectsValue ds))
    | .ok (start, bound) => send (searchValue start (t.search start (bound.map Int.ofNat)))

def answerRoute (w : World) (query : Text) (route : Route) : Except AnswerError Response × World :=
  if route = .root then (send about, w)
  else
    -- a table that cannot be loaded comes before a query that is wrong
    match w.table with
    | (.ok t, w) => (answerFrom t query route, w)
    | (.error e, w) => (.error (.serve e), w)

/-- The response to a path that is not answered. -/
def elsewhere (path query : Text) : Except AnswerError Response :=
  match Route.nearby? path with
  | none => .ok (.refusal 404 "Not Found")
  | some other =>
    match Route.location other query with
    | .ok url => .ok ⟨307, [("location", url)], .text []⟩
    | .error e => .error (.unsendable e)

def notAllowed : Response :=
  (Response.refusal 405 "Method Not Allowed").addHeaders [("allow", "GET")]

/-- The decoded path of a target, and its query. -/
def splitTarget (target : Text) : Text × Text :=
  let mark : CodePoint := '?'
  (Percent.decode (target.takeWhile (· ≠ mark)), (target.dropWhile (· ≠ mark)).drop 1)

def route (w : World) (r : Request) : Except AnswerError Response × World :=
  let (path, query) := splitTarget r.target
  match Route.ofPath? path with
  | none => (elsewhere path query, w)
  | some route => if r.method = "GET" then answerRoute w query route else (.ok notAllowed, w)

def answer (w : World) (r : Request) : Except AnswerError Response × World :=
  match Origin.permission? r with
  | some response => (.ok response, w)
  | none =>
    let (result, w) := route w r
    (result.map (Origin.complete r), w)

end TokenIndex.Service
