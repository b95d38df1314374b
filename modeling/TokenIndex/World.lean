import TokenIndex.Load
import TokenIndex.Settings

namespace TokenIndex

structure World where
  files : Files
  env : Environment
  served : Option Table

inductive ServeError where
  | setting (e : SettingError)
  | load (e : LoadError)
  deriving DecidableEq, Repr

def ServeError.message : ServeError → Text
  | .setting e => e.message
  | .load e => e.message

namespace World

/-- No files, no variables, no table. -/
def empty (here : Place) : World := ⟨.empty here, [], none⟩

/-- Loads the table that the settings name. -/
def loadServed (w : World) : Except ServeError Table :=
  match w.env.index with
  | .error e => .error (.setting e)
  | .ok source =>
    match load w.files (.text source) w.env.category with
    | .ok t => .ok t
    | .error e => .error (.load e)

/-- The served table; the first load that succeeds fixes it. -/
def table (w : World) : Except ServeError Table × World :=
  match w.served with
  | some t => (.ok t, w)
  | none =>
    match w.loadServed with
    | .ok t => (.ok t, { w with served := some t })
    | .error e => (.error e, w)

def forget (w : World) : World := { w with served := none }

theorem table_of_served {w : World} {t : Table} (h : w.served = some t) :
    w.table = (.ok t, w) := by
  simp [table, h]

theorem table_error {w : World} {e : ServeError} (h : w.table.1 = .error e) : w.table.2 = w := by
  unfold table at h ⊢
  cases hs : w.served with
  | some t => rfl
  | none =>
    cases hl : w.loadServed with
    | ok t => simp [hs, hl] at h
    | error e => rfl

end World

end TokenIndex
