import TokenIndex.Path
import TokenIndex.Text.LineEnds
import TokenIndex.Text.Quoted

namespace TokenIndex

inductive Node where
  | file (bytes : Bytes)
  | directory
  deriving DecidableEq, Repr

/-- Where a node is: the names from the root down to it. -/
abbrev Place := List Text

/-- A directory above a node is a node as well; the root and the working directory always are
directories. This is an ideal file system: all of it may be seen, listed and read, there are no
links and no nodes of other kinds, and nothing changes between two looks. What a system may refuse
stands in `Machine`. -/
structure Files where
  here : Place
  nodes : List (Place × Node)
  deriving DecidableEq, Repr

inductive Lost where
  | missing
  | nameTooLong
  deriving DecidableEq, Repr

inductive ReadFault where
  | notFound (path : Text)
  | nameTooLong (path : Text)
  | isDirectory (path : Text)
  | encoding (e : Utf8.DecodeFault)
  deriving DecidableEq, Repr

def longestName : Nat := 255

def longestPath : Nat := 4095

namespace Files

def empty (here : Place) : Files := ⟨here, []⟩

def node? (fs : Files) (place : Place) : Option Node :=
  if place.isPrefixOf fs.here then some .directory else fs.nodes.lookup place

/-- One step from a place that must be a directory. The root is above itself. -/
def step (fs : Files) (place : Place) (part : Text) : Except Lost Place :=
  match fs.node? place with
  | some .directory =>
    -- going up never fails, for nothing but directories has been walked through
    if part = ".." then .ok place.dropLast
    else if longestName < (Path.byteLength? part).getD 0 then .error .nameTooLong
    else if (fs.node? (place ++ [part])).isSome then .ok (place ++ [part])
    else .error .missing
  | _ => .error .missing

def walk (fs : Files) : Place → List Text → Except Lost Place
  | place, [] => .ok place
  | place, part :: parts =>
    match step fs place part with
    | .error e => .error e
    | .ok next => walk fs next parts

def start (fs : Files) (p : Path) : Place := if p.anchor = .relative then fs.here else []

def resolve (fs : Files) (p : Path) : Except Lost Place :=
  match Path.byteLength? p.toText with
  | none => .error .missing
  | some n => if longestPath < n then .error .nameTooLong else walk fs (fs.start p) p.parts

/-- What is at a path, nothing if it leads nowhere; only a name can be too long to ask. -/
def status (fs : Files) (p : Path) : Except Text (Option Node) :=
  match resolve fs p with
  | .ok place => .ok (fs.node? place)
  | .error .missing => .ok none
  | .error .nameTooLong => .error p.toText

/-- The text of a file, line ends normalised. -/
def read (fs : Files) (p : Path) : Except ReadFault Text :=
  match status fs p with
  | .error path => .error (.nameTooLong path)
  | .ok none => .error (.notFound p.toText)
  | .ok (some .directory) => .error (.isDirectory p.toText)
  | .ok (some (.file bytes)) =>
    match Utf8.decode bytes with
    | .ok t => .ok t.normalizeLineEnds
    | .error e => .error (.encoding e)

/-- The names in a directory. -/
def listing (fs : Files) (p : Path) : List Text :=
  match resolve fs p with
  | .ok dir => (fs.nodes.filter fun e => e.1.dropLast = dir).filterMap fun e => e.1.getLast?
  | .error _ => []

/-- Puts a node at a place, instead of one that is there. -/
def put (fs : Files) (place : Place) (node : Node) : Files :=
  if fs.nodes.any (·.1 == place) then
    { fs with nodes := fs.nodes.map fun e => if e.1 == place then (place, node) else e }
  else { fs with nodes := fs.nodes ++ [(place, node)] }

def placeOf (fs : Files) (p : Path) : Place :=
  p.parts.foldl (fun (place : Place) (part : Text) =>
    if part = ".." then place.dropLast else place ++ [part]) (fs.start p)

/-- Puts a node at a path, and directories above it. -/
def write (fs : Files) (p : Path) (node : Node) : Files :=
  let place := fs.placeOf p
  let above := (List.range place.length).map place.take
  let fs := above.foldl
    (fun fs dir => if (node? fs dir).isSome then fs else fs.put dir .directory) fs
  if place.isPrefixOf fs.here then fs else fs.put place node

/-- Removes a file, or a directory with all below it. -/
def remove (fs : Files) (p : Path) : Files :=
  let place := fs.placeOf p
  { fs with nodes := fs.nodes.filter fun e => !place.isPrefixOf e.1 }

end Files

def ReadFault.message : ReadFault → Text
  | .notFound path => "[Errno 2] No such file or directory: " ++ path.quoted
  | .nameTooLong path => "[Errno 36] File name too long: " ++ path.quoted
  | .isDirectory path => "[Errno 21] Is a directory: " ++ path.quoted
  | .encoding e => e.message

end TokenIndex
