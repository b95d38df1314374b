import TokenIndex.Load

namespace TokenIndex

inductive Activity where
  | reading (file : Path)
  /-- `files` only where a directory was loaded. -/
  | loaded (tokens entries : Nat) (files : Option Nat) (source : Text)
  deriving DecidableEq, Repr

namespace Activity

def logger : Text := "docsearch.core.loader"

/-- The log line, with its line end. -/
def line : Activity → Text
  | .reading p => "DEBUG " ++ logger ++ ": Reading " ++ p.toText ++ "\n"
  | .loaded tokens entries files source =>
    let count : Text := match files with
      | some n => Text.decimal n ++ " file(s) in "
      | none => []
    "INFO " ++ logger ++ ": Loaded " ++ Text.decimal tokens ++ " tokens (" ++
      Text.decimal entries ++ " entries) from " ++ count ++ source ++ "\n"

end Activity

namespace Load

/-- The files of a directory that are opened: all up to the first that cannot be added. -/
def opened (fs : Files) (before : List Row) : List Path → List Path
  | [] => []
  | p :: ps =>
    p :: match addFile fs before p with
      | .ok rows => opened fs rows ps
      | .error _ => []

/-- The files opened at a path, and how many data files a directory there has. -/
def openedAt (fs : Files) (p : Path) (category : Text) : List Path × Option Nat :=
  match fs.status p with
  | .ok (some .directory) =>
    let files := dataFiles fs p category
    (opened fs [] files, some files.length)
  | .ok (some (.file _)) => ([p], none)
  | _ => ([], none)

end Load

/-- The activity of loading a table that a text gives or names. -/
def activity (fs : Files) (t category : Text) : List Activity :=
  let (files, count) :=
    if Source.isData t then ([], none) else Load.openedAt fs (.ofText t) category
  let result := match load fs (.text t) category with
    | .ok table => [.loaded table.size table.entryCount count table.source]
    | .error _ => []
  files.map .reading ++ result

end TokenIndex
