import TokenIndex.DataFile
import TokenIndex.Files
import TokenIndex.Literal.Document
import TokenIndex.Shape
import TokenIndex.Table

namespace TokenIndex

inductive Malformed where
  | literal (cause : Literal.Cause) (offset : Nat)
  | shape (d : Shape.Defect)
  | fileNotFound
  | directoryNotFound
  | noDataFiles (category : Text)
  | duplicateToken (token : Text)
  | unreadable (e : ReadFault)
  deriving DecidableEq, Repr

inductive LoadError where
  | malformed (source : Text) (what : Malformed)
  | tooManyDigits (e : TooManyDigits)
  | nameTooLong (path : Text)
  | emptyTokens (e : Table.EmptyTokens)
  | unsupported (kind : Text)
  deriving DecidableEq, Repr

def Malformed.message : Malformed → Text
  | .literal cause offset => (Literal.SyntaxError.defect cause offset).message
  | .shape d => d.message
  | .fileNotFound => "File not found"
  | .directoryNotFound => "Directory not found"
  | .noDataFiles category => "No '" ++ category ++ "' search data files"
  | .duplicateToken token => "duplicate token " ++ token.quoted
  | .unreadable e => e.message

def LoadError.message : LoadError → Text
  | .malformed source what => source ++ ": " ++ what.message
  | .tooManyDigits e => e.message
  | .nameTooLong path => (ReadFault.nameTooLong path).message
  | .emptyTokens e => e.message
  | .unsupported kind => "Cannot load search data from " ++ kind

namespace Load

def parse (source text : Text) : Except LoadError (List Value) :=
  match Literal.parse text with
  | .ok items => .ok items
  | .error (.defect cause offset) => .error (.malformed source (.literal cause offset))
  | .error (.tooManyDigits e) => .error (.tooManyDigits e)

def shape (source : Text) (items : Value) : Except LoadError (List Row) :=
  match Shape.rows items with
  | .ok rows => .ok rows
  | .error (.defect d) => .error (.malformed source (.shape d))
  | .error (.tooManyDigits e) => .error (.tooManyDigits e)

def table (source : Text) (rows : List Row) : Except LoadError Table :=
  match Table.ofRows source rows with
  | .ok t => .ok t
  | .error e => .error (.emptyTokens e)

/-- The rows of a search data text. -/
def rows (source text : Text) : Except LoadError (List Row) :=
  match parse source text with
  | .ok items => shape source (.array items)
  | .error e => .error e

def read (fs : Files) (p : Path) : Except LoadError Text :=
  match fs.read p with
  | .ok t => .ok t
  | .error e => .error (.malformed p.toText (.unreadable e))

/-- Adds the rows of a data file to those of the files before it. -/
def addFile (fs : Files) (before : List Row) (p : Path) : Except LoadError (List Row) :=
  match read fs p with
  | .error e => .error e
  | .ok text =>
    match rows p.toText text with
    | .error e => .error e
    | .ok new =>
      -- within a file tokens are distinct already
      match new.find? fun r => before.any (·.1 == r.1) with
      | some r => .error (.malformed p.toText (.duplicateToken r.1))
      | none => .ok (before ++ new)

def addFiles (fs : Files) (before : List Row) : List Path → Except LoadError (List Row)
  | [] => .ok before
  | p :: ps =>
    match addFile fs before p with
    | .error e => .error e
    | .ok rows => addFiles fs rows ps

def dataFiles (fs : Files) (dir : Path) (category : Text) : List Path :=
  (DataFile.inOrder category (fs.listing dir)).map dir.child

end Load

def loadItems (source : Text) (items : Value) : Except LoadError Table :=
  match Load.shape source items with
  | .ok rows => Load.table source rows
  | .error e => .error e

def loadText (source text : Text) : Except LoadError Table :=
  match Load.parse source text with
  | .ok items => loadItems source (.array items)
  | .error e => .error e

def loadFile (fs : Files) (p : Path) : Except LoadError Table :=
  match fs.status p with
  | .error path => .error (.nameTooLong path)
  | .ok (some (.file _)) =>
    match Load.read fs p with
    | .ok text => loadText p.toText text
    | .error e => .error e
  | .ok _ => .error (.malformed p.toText .fileNotFound)

def loadDirectory (fs : Files) (p : Path) (category : Text) : Except LoadError Table :=
  match fs.status p with
  | .error path => .error (.nameTooLong path)
  | .ok (some .directory) =>
    match Load.dataFiles fs p category with
    | [] => .error (.malformed p.toText (.noDataFiles category))
    | files =>
      match Load.addFiles fs [] files with
      | .ok rows => Load.table p.toText rows
      | .error e => .error e
  | .ok _ => .error (.malformed p.toText .directoryNotFound)

/-- What a table can be loaded from. -/
inductive Source where
  /-- Search data, or else a path. -/
  | text (t : Text)
  | path (p : Path)
  | items (vs : List Value)
  /-- A value of another kind, which is refused. -/
  | other (kind : Text)

namespace Source

/-- Whether a text is search data: it begins with an assignment or a bracket. -/
def isData (t : Text) : Bool :=
  (Literal.afterAssignment? t).isSome || t.dropBlank.startsWith "["

def textName : Text := "<string>"

def itemsName : Text := "<list>"

end Source

def loadPath (fs : Files) (p : Path) (category : Text) : Except LoadError Table :=
  match fs.status p with
  | .error path => .error (.nameTooLong path)
  | .ok (some .directory) => loadDirectory fs p category
  | .ok _ => loadFile fs p

/-- Loads a table from an ideal file system, on a stack without end. `Machine.load` has neither. -/
def load (fs : Files) (source : Source) (category : Text) : Except LoadError Table :=
  match source with
  | .items vs => loadItems Source.itemsName (.array vs)
  | .text t =>
    if Source.isData t then loadText Source.textName t else loadPath fs (.ofText t) category
  | .path p => loadPath fs p category
  | .other kind => .error (.unsupported kind)

end TokenIndex
