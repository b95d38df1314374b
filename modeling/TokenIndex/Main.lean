import TokenIndex.Command.Run
import TokenIndex.Service.Startup

namespace TokenIndex.Program

def plainString (t : Text) : String := String.ofList (t.map fun c => c.toChar?.getD '\uFFFD')

def bytesIn (contents : ByteArray) : Bytes := contents.toList.map fun b => Utf8.byte b.toNat

/-- Adds what is at a path: a file, or a directory with its files. -/
def snapshot (fs : Files) (name : Text) : IO Files := do
  let path := Path.ofText name
  let target := (← IO.currentDir) / plainString path.toText
  if ← target.isDir then
    let mut found := fs.write path .directory
    for entry in ← target.readDir do
      let inner := path.child (Text.ofString entry.fileName)
      if ← entry.path.isDir then
        found := found.write inner .directory
      else
        found := found.write inner (.file (bytesIn (← IO.FS.readBinFile entry.path)))
    return found
  else if ← target.pathExists then
    return fs.write path (.file (bytesIn (← IO.FS.readBinFile target)))
  else
    return fs

def readEnvironment : List Text → IO Environment
  | [] => return []
  | name :: names => do
    let rest ← readEnvironment names
    match ← IO.getEnv (plainString name) with
    | some value => return (name, Text.ofString value) :: rest
    | none => return rest

def settingNames : List Text :=
  [Environment.indexName, Environment.categoryName, Environment.apiUrlName]

def readWorld (texts : List Text) : IO World := do
  let here := (Path.ofText (Text.ofString (← IO.currentDir).toString)).parts
  let env ← readEnvironment settingNames
  let given := match Task.ofTexts texts with
    | .ok (.run _ _ a) => a.index.toList
    | _ => []
  let files ← (given ++ (env.index.toOption).toList).foldlM snapshot (Files.empty here)
  return ⟨files, env, none⟩

def greet (w : World) : Call → IO Unit
  | .get _ => return ()
  | .serve _ _ =>
    match (Service.start w).1 with
    | .ok t => IO.print (plainString t)
    | .error e => IO.eprintln (plainString e.message)

def run (args : List String) : IO UInt32 := do
  let texts := args.map Text.ofString
  let (outcome, w) := runTexts (← readWorld texts) (.failed "no network") texts
  IO.eprint (plainString outcome.errors)
  IO.print (plainString outcome.output)
  match outcome.escaped with
  | some e => IO.eprintln (plainString e.message)
  | none => outcome.calls.forM (greet w)
  return outcome.exit.toUInt32

end TokenIndex.Program

def main (args : List String) : IO UInt32 := TokenIndex.Program.run args
