import TokenIndex.Host.Basic
import TokenIndex.Text.Integer

namespace TokenIndex

structure Url where
  scheme : Text
  user : Text
  host : Text
  portNumber : Option Int
  path : Text
  query : Option Text
  fragment : Option Text
  deriving DecidableEq, Repr

namespace Url

inductive Fault where
  | tooLong
  | queryTooLong
  | control (c : CodePoint) (offset : Nat)
  | unencodable (e : Utf8.EncodeFault)
  | host (f : Host.Fault)
  | badPort (t : Text)
  | twoSlashes
  | colonFirst
  | label (f : Host.LabelFault)
  | notAscii (e : Utf8.EncodeFault)
  deriving DecidableEq, Repr

def Fault.message : Fault → Text
  | tooLong => "URL too long"
  | queryTooLong => "URL component 'query' too long"
  | control c n =>
    "Invalid non-printable ASCII character in URL, " ++ Text.quoted [c] ++ " at position " ++
      Text.decimal n ++ "."
  | unencodable e => e.message
  | host f => f.message
  | badPort t => "Invalid port: " ++ t.quoted
  | twoSlashes => "Relative URLs cannot have a path starting with '//'"
  | colonFirst => "Relative URLs cannot have a path starting with ':'"
  | label f => f.message
  | notAscii e => "'ascii' codec can't encode " ++ e.place ++ ": ordinal not in range(128)"

def greatestLength : Nat := 65536

def isControl (c : CodePoint) : Bool := c.val < 0x20 || c.val = 0x7F

/-- A text up to the first character in `ends`, and the rest. -/
def cut (ends : String) (t : Text) : Text × Text :=
  (t.takeWhile fun c => !c.isOneOf ends, t.dropWhile fun c => !c.isOneOf ends)

/-- What follows a character, if a text begins with it. -/
def behind? (c : Char) : Text → Option Text
  | [] => none
  | d :: rest => if d = c then some rest else none

def isLetter (c : CodePoint) : Bool := c.between 'a' 'z' || c.between 'A' 'Z'

def inScheme (c : CodePoint) : Bool := isLetter c || c.between '0' '9' || c.isOneOf "+.-"

/-- The text before a colon, if it can be a scheme or is empty, and what follows the colon. -/
def splitScheme (t : Text) : Text × Text :=
  let scheme := if t.head?.any isLetter then t.takeWhile inScheme else []
  match behind? ':' (t.drop scheme.length) with
  | some rest => (scheme, rest)
  | none => ([], t)

structure Parts where
  scheme : Text
  authority : Text
  path : Text
  query : Option Text
  fragment : Option Text

def Parts.ofText (t : Text) : Parts :=
  let (scheme, rest) := splitScheme t
  let (authority, rest) := match Text.after? "//" rest with
    | some rest => cut "/?#" rest
    | none => ([], rest)
  let (path, rest) := cut "?#" rest
  let (query, rest) := match behind? '?' rest with
    | some rest => let (query, rest) := cut "#" rest; (some query, rest)
    | none => (none, rest)
  ⟨scheme, authority, path, query, behind? '#' rest⟩

/-- A text up to and without the last `c`, and what follows it. -/
def splitLast (c : CodePoint) (t : Text) : Option (Text × Text) :=
  if t.contains c then
    let tail := (t.reverse.takeWhile (· ≠ c)).reverse
    some (t.take (t.length - tail.length - 1), tail)
  else none

/-- The user, the host and the port in an authority. -/
def splitAuthority (t : Text) : Text × Text × Text :=
  let (user, rest) := (splitLast '@' t).getD ([], t)
  let closing : CodePoint := ']'
  let (host, rest) := match behind? '[' rest, splitLast ']' rest with
    | some _, some (inner, rest) => (inner ++ [closing], rest)
    | _, _ => cut ":" rest
  (user, host, (behind? ':' rest).getD rest)

/-- Characters that are kept in a fragment; all other parts keep fewer of them. -/
def plainInFragment (c : CodePoint) : Bool :=
  c.between '!' '~' && !c.isOneOf "\"<>`"

def plainInQuery (c : CodePoint) : Bool := c.between '!' '~' && !c.isOneOf "\"#<>"

def plainInPath (c : CodePoint) : Bool := plainInQuery c && !c.isOneOf "?`\x7b\x7d"

def plainInUser (c : CodePoint) : Bool := plainInPath c && !c.isOneOf "/;=@[\\]^|"

/-- Escapes what is not kept. A character that cannot be escaped is told as standing alone. -/
def escape (kept : CodePoint → Bool) (t : Text) : Except Fault Text :=
  (Percent.encodeKeeping kept t).mapError fun e => .unencodable ⟨0, e.first, 1⟩

/-- A scheme is looked up as it stands, so capitals have no default. -/
def defaultPort (scheme : Text) : Option Int :=
  let table : List (Text × Int) :=
    [("ftp", 21), ("http", 80), ("https", 443), ("ws", 80), ("wss", 443)]
  table.lookup scheme

/-- The number of a port, unless it is absent or the default. -/
def portOf (scheme t : Text) : Except Fault (Option Int) :=
  if t.isEmpty then .ok none
  else
    match t.toInt? with
    | none => .error (.badPort t)
    | some n => .ok (if defaultPort scheme = some n then none else some n)

/-- The parts of a path without dot parts: `.` is dropped, and `..` goes up. -/
def dropDots (parts : List Text) : List Text :=
  parts.foldl (fun (kept : List Text) (part : Text) =>
    if part = "." then kept
    else if part = ".." then if kept = [[]] then kept else kept.dropLast
    else kept ++ [part]) []

/-- A path that is relative to another URL is left as it stands. -/
def pathOf (isAbsolute : Bool) (path : Text) : Except Fault Text :=
  if isAbsolute then escape plainInPath (Text.join "/" (dropDots (Text.splitOn '/' path)))
  else if path.startsWith "//" then .error .twoSlashes
  else if path.startsWith ":" then .error .colonFirst
  else escape plainInPath path

def escapeGiven (kept : CodePoint → Bool) : Option Text → Except Fault (Option Text)
  | none => .ok none
  | some t => (escape kept t).map some

/-- The faults of the parts, in this order, come before those of the next ones. -/
def ofParts (p : Parts) : Except Fault Url := do
  let (user, host, number) := splitAuthority p.authority
  let user ← escape plainInUser user
  let host ← (Host.encode host).mapError .host
  let number ← portOf p.scheme number
  let isAbsolute := !(p.scheme.isEmpty && user.isEmpty && host.isEmpty && number.isNone)
  let path ← pathOf isAbsolute p.path
  let query ← escapeGiven plainInQuery p.query
  let fragment ← escapeGiven plainInFragment p.fragment
  pure ⟨p.scheme.lower, user, host, number, path, query, fragment⟩

/-- Reads a URL; a query that is given takes the place of its own. -/
def ofText (t : Text) (query : Option Text) : Except Fault Url :=
  if greatestLength < t.length then .error .tooLong
  else
    match t.find? isControl with
    | some c => .error (.control c (t.takeWhile (· ≠ c)).length)
    | none =>
      if query.any fun q => greatestLength < q.length then .error .queryTooLong
      else
        let parts := Parts.ofText t
        ofParts { parts with query := query.orElse fun _ => parts.query }

/-- A host with a colon in it stands between brackets. -/
def hostText (u : Url) : Text :=
  let colon : CodePoint := ':'
  let opening : CodePoint := '['
  if u.host.contains colon then opening :: u.host ++ "]" else u.host

/-- The host, and the port if it is not the default. -/
def site (u : Url) : Text :=
  u.hostText ++ match u.portNumber with
    | some n => ":" ++ Text.decimalInt n
    | none => []

def authority (u : Url) : Text :=
  let lead : Text := if u.user.isEmpty then [] else u.user ++ "@"
  lead ++ u.site

/-- A part behind the sign that begins it, if there is such a part. -/
def led (sign : Text) : Option Text → Text
  | some t => sign ++ t
  | none => []

def toText (u : Url) : Text :=
  let scheme : Text := if u.scheme.isEmpty then [] else u.scheme ++ ":"
  let authority : Text := if u.authority.isEmpty then [] else "//" ++ u.authority
  scheme ++ authority ++ u.path ++ led "?" u.query ++ led "#" u.fragment

/-- A URL that a request can be made for: its host can be named in the request. -/
def requestable (u : Url) : Except Fault Url :=
  let labels := if u.host.startsWith Host.encodedLead then Host.decodeName u.host else .ok []
  match labels, Utf8.firstFault? (·.val < 0x80) (0x80 ≤ ·.val) u.site with
  | .error f, _ => .error (.label f)
  | .ok _, some e => .error (.notAscii e)
  | .ok _, none => .ok u

end Url

end TokenIndex
