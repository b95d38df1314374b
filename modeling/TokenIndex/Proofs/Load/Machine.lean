import TokenIndex.Proofs.Literal.Nesting
import TokenIndex.Proofs.Load.Failure

namespace TokenIndex

/-- What a load meets with: files, what the system refuses to do with them, and the stack that is
left when the load begins. There is room on it for everything but arrays in arrays. How deep these
may go is known within bounds only, for what is inside the innermost takes some room too. -/
structure Machine where
  files : Files
  /-- Why it cannot be told what is at a path, as where a directory above it may not be searched. -/
  unasked? : Path → Option Text
  /-- Why a directory cannot be listed. -/
  unlisted? : Path → Option Text
  /-- Why a file cannot be read. -/
  unread? : Path → Option Text
  overflows : Text → Bool
  leastRoom : Nat
  mostRoom : Nat
  leastRoom_lt : ∀ t, overflows t = true → leastRoom < Literal.nesting t
  overflows_of_lt : ∀ t, mostRoom < Literal.nesting t → overflows t = true

/-- What leaves a load that gives no table. -/
inductive Thrown where
  | told (e : LoadError)
  /-- A file that the system does not let be read is malformed, and named. -/
  | unreadable (source message : Text)
  | refused (message : Text)
  | overflow
  deriving DecidableEq, Repr

namespace Machine

variable (m : Machine)

def status (p : Path) : Except Thrown (Option Node) :=
  match m.unasked? p with
  | some message => .error (.refused message)
  | none => (m.files.status p).mapError fun path => .told (.nameTooLong path)

/-- What keeps the text of a file from being read to its end or its first defect. -/
def obstacle? (file : Path) : Option Thrown :=
  match m.unread? file with
  | some message => some (.unreadable file.toText message)
  | none =>
    match Load.read m.files file with
    | .ok text => if m.overflows text then some .overflow else none
    | .error _ => none

def addFile (before : List Row) (file : Path) : Except Thrown (List Row) :=
  match m.obstacle? file with
  | some e => .error e
  | none => (Load.addFile m.files before file).mapError .told

def addFiles (before : List Row) : List Path → Except Thrown (List Row)
  | [] => .ok before
  | file :: files =>
    match m.addFile before file with
    | .error e => .error e
    | .ok rows => addFiles rows files

def loadText (source text : Text) : Except Thrown Table :=
  if m.overflows text then .error .overflow else (TokenIndex.loadText source text).mapError .told

def loadFile (p : Path) : Except Thrown Table :=
  match m.status p with
  | .error e => .error e
  | .ok (some (.file _)) =>
    match m.obstacle? p with
    | some e => .error e
    | none => (TokenIndex.loadFile m.files p).mapError .told
  | .ok _ => .error (.told (.malformed p.toText .fileNotFound))

def loadDirectory (p : Path) (category : Text) : Except Thrown Table :=
  match m.status p with
  | .error e => .error e
  | .ok (some .directory) =>
    match m.unlisted? p with
    | some message => .error (.refused message)
    | none =>
      match Load.dataFiles m.files p category with
      | [] => .error (.told (.malformed p.toText (.noDataFiles category)))
      | files =>
        match m.addFiles [] files with
        | .ok rows => (Load.table p.toText rows).mapError .told
        | .error e => .error e
  | .ok _ => .error (.told (.malformed p.toText .directoryNotFound))

def loadPath (p : Path) (category : Text) : Except Thrown Table :=
  match m.status p with
  | .error e => .error e
  | .ok (some .directory) => m.loadDirectory p category
  | .ok _ => m.loadFile p

def load (source : Source) (category : Text) : Except Thrown Table :=
  match source with
  | .items vs => (loadItems Source.itemsName (.array vs)).mapError .told
  | .text t =>
    if Source.isData t then m.loadText Source.textName t else m.loadPath (.ofText t) category
  | .path p => m.loadPath p category
  | .other kind => .error (.told (.unsupported kind))

/-- The system does not tell what is at a path, or what is in the directory that is there. -/
inductive Refuses (p : Path) (message : Text) : Prop
  | status : m.unasked? p = some message → Refuses p message
  | listing : m.unasked? p = none → m.files.status p = .ok (some .directory) →
      m.unlisted? p = some message → Refuses p message

/-- What stops a load before it comes to a defect. -/
inductive Stops (category : Text) : Source → Thrown → Prop
  | refused {source : Source} {p : Path} {message : Text} : source.path? = some p →
      m.Refuses p message → Stops category source (.refused message)
  | text {t : Text} : Source.isData t = true → m.overflows t = true →
      Stops category (.text t) .overflow
  | file {source : Source} {p : Path} {bytes : Bytes} {e : Thrown} : source.path? = some p →
      m.unasked? p = none → m.files.status p = .ok (some (.file bytes)) →
      m.obstacle? p = some e → Stops category source e
  | dataFile {source : Source} {p file : Path} {front rest : List Path} {rows : List Row}
      {e : Thrown} : source.path? = some p → m.unasked? p = none →
      m.files.status p = .ok (some .directory) → m.unlisted? p = none →
      Load.dataFiles m.files p category = front ++ file :: rest → m.addFiles [] front = .ok rows →
      m.obstacle? file = some e → Stops category source e

/-- A step of a load ends as it does where nothing stands in its way, or it is stopped. -/
def Goes {α : Type} (stops : Thrown → Prop) (outcome : Except Thrown α)
    (ideal : Except LoadError α) : Prop :=
  outcome = ideal.mapError .told ∨ ∃ e, outcome = .error e ∧ stops e

variable {m} {category : Text} {source : Source} {p : Path}

theorem status_of_unasked {message : Text} (h : m.unasked? p = some message) :
    m.status p = .error (.refused message) := by
  rw [status, h]

theorem status_of_asked (h : m.unasked? p = none) :
    m.status p = (m.files.status p).mapError fun path => .told (.nameTooLong path) := by
  rw [status, h]

theorem status_eq_ok {node : Option Node} (h : m.unasked? p = none)
    (hstatus : m.files.status p = .ok node) : m.status p = .ok node := by
  rw [status_of_asked h, hstatus]
  rfl

theorem obstacle?_ne_told (file : Path) (err : LoadError) :
    m.obstacle? file ≠ some (.told err) := by
  rw [obstacle?]
  split
  · nofun
  · split
    · split_ifs <;> nofun
    · nofun

theorem not_stops_told (err : LoadError) : ¬m.Stops category source (.told err) := by
  intro h
  cases h with
  | file _ _ _ hobstacle => exact obstacle?_ne_told _ _ hobstacle
  | dataFile _ _ _ _ _ _ hobstacle => exact obstacle?_ne_told _ _ hobstacle

theorem addFile_goes (before : List Row) (file : Path) :
    Goes (fun e => m.obstacle? file = some e) (m.addFile before file)
      (Load.addFile m.files before file) := by
  rw [addFile]
  cases hobstacle : m.obstacle? file with
  | some e => exact .inr ⟨e, rfl, rfl⟩
  | none => exact .inl rfl

theorem addFiles_goes (before : List Row) (files : List Path) :
    Goes (fun e => ∃ front file rest rows, files = front ++ file :: rest ∧
        m.addFiles before front = .ok rows ∧ m.obstacle? file = some e)
      (m.addFiles before files) (Load.addFiles m.files before files) := by
  induction files generalizing before with
  | nil => exact .inl rfl
  | cons file files ih =>
    rw [addFiles, Load.addFiles]
    obtain hfile | ⟨e, hfile, he⟩ := addFile_goes (m := m) before file
    · cases hrows : Load.addFile m.files before file with
      | error e =>
        rw [hfile, hrows]
        exact .inl rfl
      | ok rows =>
        rw [hrows] at hfile
        rw [hfile]
        obtain hfiles | ⟨e, hfiles, front, later, rest, out, rfl, hfront, he⟩ := ih rows
        · exact .inl hfiles
        · refine .inr ⟨e, hfiles, file :: front, later, rest, out, rfl, ?_, he⟩
          rw [addFiles, hfile]
          exact hfront
    · rw [hfile]
      exact .inr ⟨e, rfl, [], file, files, before, rfl, rfl, he⟩

theorem addFiles_of_obstacle {before rows : List Row} {front : List Path} {file : Path}
    {e : Thrown} (rest : List Path) (hfront : m.addFiles before front = .ok rows)
    (h : m.obstacle? file = some e) : m.addFiles before (front ++ file :: rest) = .error e := by
  induction front generalizing before with
  | nil => rw [List.nil_append, addFiles, addFile, h]
  | cons first front ih =>
    rw [addFiles] at hfront
    rw [List.cons_append, addFiles]
    cases hfirst : m.addFile before first with
    | error e' =>
      rw [hfirst] at hfront
      cases hfront
    | ok out =>
      rw [hfirst] at hfront
      exact ih hfront

section Path

variable (hp : source.path? = some p) (hasked : m.unasked? p = none)
include hp hasked

theorem loadFile_goes (category : Text) :
    Goes (m.Stops category source) (m.loadFile p) (TokenIndex.loadFile m.files p) := by
  rw [loadFile, status_of_asked hasked]
  cases hstatus : m.files.status p with
  | error path =>
    rw [TokenIndex.loadFile, hstatus]
    exact .inl rfl
  | ok node =>
    rcases node with _ | bytes | _
    · rw [TokenIndex.loadFile, hstatus]
      exact .inl rfl
    · dsimp only [Except.mapError]
      cases hobstacle : m.obstacle? p with
      | some e => exact .inr ⟨e, rfl, .file hp hasked hstatus hobstacle⟩
      | none => exact .inl rfl
    · rw [TokenIndex.loadFile, hstatus]
      exact .inl rfl

theorem loadDirectory_goes (category : Text) :
    Goes (m.Stops category source) (m.loadDirectory p category)
      (TokenIndex.loadDirectory m.files p category) := by
  rw [loadDirectory, TokenIndex.loadDirectory, status_of_asked hasked]
  cases hstatus : m.files.status p with
  | error path => exact .inl rfl
  | ok node =>
    rcases node with _ | bytes | _
    · exact .inl rfl
    · exact .inl rfl
    · dsimp only [Except.mapError]
      cases hlisted : m.unlisted? p with
      | some message => exact .inr ⟨_, rfl, .refused hp (.listing hasked hstatus hlisted)⟩
      | none =>
        dsimp only
        cases hfiles : Load.dataFiles m.files p category with
        | nil => exact .inl rfl
        | cons file files =>
          dsimp only
          obtain hadd | ⟨e, hadd, front, opened, rest, rows, heq, hfront, he⟩ :=
            addFiles_goes (m := m) [] (file :: files)
          · rw [hadd]
            cases Load.addFiles m.files [] (file :: files) <;> exact .inl rfl
          · rw [hadd]
            exact .inr ⟨e, rfl, .dataFile hp hasked hstatus hlisted (hfiles.trans heq) hfront he⟩

end Path

theorem loadPath_goes (hp : source.path? = some p) :
    Goes (m.Stops category source) (m.loadPath p category)
      (TokenIndex.loadPath m.files p category) := by
  rw [loadPath]
  cases hasked : m.unasked? p with
  | some message =>
    rw [status_of_unasked hasked]
    exact .inr ⟨_, rfl, .refused hp (.status hasked)⟩
  | none =>
    have hfile := loadFile_goes hp hasked category
    have hdirectory := loadDirectory_goes hp hasked category
    rw [status_of_asked hasked, TokenIndex.loadPath]
    cases m.files.status p with
    | error path => exact .inl rfl
    | ok node =>
      rcases node with _ | bytes | _
      · exact hfile
      · exact hfile
      · exact hdirectory

theorem load_goes (source : Source) (category : Text) :
    Goes (m.Stops category source) (m.load source category)
      (TokenIndex.load m.files source category) := by
  cases source with
  | items vs => exact .inl rfl
  | path p => exact loadPath_goes rfl
  | other kind => exact .inl rfl
  | text t =>
    rw [load, TokenIndex.load]
    split_ifs with hdata
    · rw [loadText]
      split_ifs with hover
      · exact .inr ⟨_, rfl, .text hdata hover⟩
      · exact .inl rfl
    · exact loadPath_goes (by rw [Source.path?, if_neg hdata])

theorem load_of_path (h : source.path? = some p) :
    m.load source category = m.loadPath p category := by
  cases source with
  | path => cases h; rfl
  | text t =>
    rw [Source.path?] at h
    split_ifs at h with hdata
    cases h
    rw [load, if_neg hdata]
  | items => cases h
  | other => cases h

theorem loadPath_of_directory (hasked : m.unasked? p = none)
    (hstatus : m.files.status p = .ok (some .directory)) :
    m.loadPath p category = m.loadDirectory p category := by
  rw [loadPath, status_eq_ok hasked hstatus]

theorem load_of_stops {e : Thrown} (h : m.Stops category source e) :
    m.load source category = .error e := by
  cases h with
  | refused hp hrefuses =>
    rw [load_of_path hp]
    cases hrefuses with
    | status hunasked => rw [loadPath, status_of_unasked hunasked]
    | listing hasked hstatus hunlisted =>
      rw [loadPath_of_directory hasked hstatus, loadDirectory, status_eq_ok hasked hstatus]
      dsimp only
      rw [hunlisted]
  | text hdata hover => rw [load, if_pos hdata, loadText, if_pos hover]
  | file hp hasked hstatus hobstacle =>
    rw [load_of_path hp, loadPath, status_eq_ok hasked hstatus]
    dsimp only
    rw [loadFile, status_eq_ok hasked hstatus]
    dsimp only
    rw [hobstacle]
  | @dataFile _ p file front rest rows e hp hasked hstatus hlisted hfiles hfront hobstacle =>
    have hadd := addFiles_of_obstacle rest hfront hobstacle
    rw [load_of_path hp, loadPath_of_directory hasked hstatus, loadDirectory,
      status_eq_ok hasked hstatus]
    dsimp only
    rw [hlisted]
    dsimp only
    rw [hfiles]
    split
    · rename_i hnil
      exact absurd hnil (List.append_ne_nil_of_right_ne_nil front (List.cons_ne_nil file rest))
    · rw [hadd]

/-- A load that nothing stops ends as a load of the files. -/
theorem load_of_not_stops (h : ∀ e, ¬m.Stops category source e) :
    m.load source category = (TokenIndex.load m.files source category).mapError .told := by
  obtain hload | ⟨e, -, he⟩ := load_goes (m := m) source category
  · exact hload
  · exact absurd he (h e)

theorem load_eq_error_of_told {err : LoadError} (h : m.load source category = .error (.told err)) :
    TokenIndex.load m.files source category = .error err := by
  obtain hload | ⟨e, hload, he⟩ := load_goes (m := m) source category
  · rw [hload] at h
    cases hideal : TokenIndex.load m.files source category with
    | ok t =>
      rw [hideal] at h
      cases h
    | error err' =>
      rw [hideal] at h
      cases h
      rfl
  · rw [hload] at h
    cases h
    exact absurd he (not_stops_told err)

/-- A machine that refuses nothing, with room for so many arrays in each other. -/
def plain (fs : Files) (room : Nat) : Machine where
  files := fs
  unasked? _ := none
  unlisted? _ := none
  unread? _ := none
  overflows t := decide (room < Literal.nesting t)
  leastRoom := room
  mostRoom := room
  leastRoom_lt _ h := of_decide_eq_true h
  overflows_of_lt _ h := decide_eq_true h

end Machine

end TokenIndex
