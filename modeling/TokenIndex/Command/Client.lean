import TokenIndex.Command.Status
import TokenIndex.Json.Encoding
import TokenIndex.Json.Reader
import TokenIndex.Json.Writer
import TokenIndex.Url
import TokenIndex.Value.Display

namespace TokenIndex

structure Inquiry where
  url : Text
  fields : Option (List (Text × Value))
  deriving Repr

inductive Reply where
  | json (status : Nat) (v : Value)
  | text (status : Nat) (t : Text)
  /-- No reply came. -/
  | failed (message : Text)
  deriving Repr

inductive ClientError where
  | unsendable (e : Utf8.EncodeFault)
  | badUrl (f : Url.Fault)
  | failed (message : Text)
  | notFinite
  | status (code : Nat) (url : Text)
  | encoding (f : Json.Encoding.Fault)
  | body (e : Json.SyntaxError)
  | use (e : Value.UseError)
  deriving DecidableEq, Repr

namespace ClientError

def helpUrl : Text := "https://developer.mozilla.org/en-US/docs/Web/HTTP/Status/"

def message : ClientError → Text
  | unsendable e => e.message
  | badUrl f => f.message
  | failed t => t
  | notFinite => "Out of range float values are not JSON compliant"
  | status code url =>
    Status.family code ++ " '" ++ Text.decimal code ++ " " ++ Status.name code ++ "' for url '" ++
      url ++ "'\nFor more information check: " ++ helpUrl ++ Text.decimal code
  | encoding f => f.message
  | body e => e.message
  | use e => e.message

end ClientError

namespace Inquiry

def plain (base path : Text) : Inquiry := ⟨base ++ path, none⟩

def index (base : Text) : Inquiry := plain base "/index"

def tokens (base : Text) : Inquiry := plain base "/tokens"

def lookup (base token : Text) : Except Utf8.EncodeFault Inquiry :=
  (Percent.encode token).map fun t => plain base ("/lookup/" ++ t)

/-- A limit of zero is not sent. -/
def search (base start : Text) (limit : Option Int) : Inquiry :=
  let bound : List (Text × Value) := match limit with
    | some n => if n = 0 then [] else [("limit", .int n)]
    | none => []
  ⟨base ++ "/search", some (("prefix", .text start) :: bound)⟩

/-- A part of a query; a blank becomes a plus sign. -/
def queryPart (t : Text) : Except Utf8.EncodeFault Text :=
  let plus : CodePoint := '+'
  let blank : CodePoint := ' '
  (Percent.encodeKeeping (fun c => Percent.isUnreserved c || c = blank) t).map
    (·.map fun c => if c = blank then plus else c)

def query : List (Text × Value) → Except Utf8.EncodeFault (List Text)
  | [] => .ok []
  | (name, v) :: rest =>
    match queryPart v.shown, query rest with
    | .ok value, .ok parts => .ok ((name ++ "=" ++ value) :: parts)
    | .error e, _ | _, .error e => .error e

def address (q : Inquiry) : Except ClientError Url :=
  let given : Except ClientError (Option Text) := match q.fields with
    | none => .ok none
    | some fields =>
      match query fields with
      | .ok parts => .ok (some (Text.join "&" parts))
      | .error e => .error (.unsendable e)
  match given with
  | .error e => .error e
  | .ok given => ((Url.ofText q.url given).bind Url.requestable).mapError .badUrl

end Inquiry

namespace Reply

/-- What a reply has in it. The null value is how a reply without a body is given; a body that
spells null is given as a text. -/
def content (v : Value) : Except ClientError Text :=
  match v with
  | .null => .ok []
  | v => if v.isFinite then .ok (Json.compact v) else .error .notFinite

def bytes (t : Text) : Except ClientError Bytes := (Utf8.encode t).mapError .unsendable

def parse (bytes : Bytes) : Except ClientError Value :=
  match Json.decode bytes with
  | .error f => .error (.encoding f)
  | .ok t => (Json.parse t).mapError .body

/-- Anything but a success is an error, before its content is looked at. -/
def checked (q : Inquiry) (status : Nat) (t : Except ClientError Text) : Except ClientError Value :=
  match q.address, t.bind bytes with
  | .error e, _ | .ok _, .error e => .error e
  | .ok url, .ok bytes =>
    if Status.isSuccess status then parse bytes else .error (.status status url.toText)

def value (q : Inquiry) : Reply → Except ClientError Value
  | .json status v => checked q status (content v)
  | .text status t => checked q status (.ok t)
  | .failed message => .error (.failed message)

/-- A field of the answer. -/
def field (q : Inquiry) (name : Text) (r : Reply) : Except ClientError Value :=
  match r.value q with
  | .error e => .error e
  | .ok v => (v.get name).mapError .use

end Reply

end TokenIndex
