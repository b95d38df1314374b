import TokenIndex.Entry
import TokenIndex.Text.Quoted
import TokenIndex.Token

namespace TokenIndex

/-- Puts a row in its place; a row of the same token gives way. -/
def insertRow (row : Row) : List Row → List Row
  | [] => [row]
  | r :: rows =>
    if row.1 < r.1 then row :: r :: rows
    else if row.1 = r.1 then row :: rows
    else r :: insertRow row rows

theorem mem_insertRow {row r : Row} {rows : List Row} (h : r ∈ insertRow row rows) :
    r = row ∨ r ∈ rows := by
  induction rows with
  | nil => simpa [insertRow] using h
  | cons s rows ih =>
    unfold insertRow at h
    grind

theorem insertRow_pairwise {row : Row} {rows : List Row} (h : rows.Pairwise (·.1 < ·.1)) :
    (insertRow row rows).Pairwise (·.1 < ·.1) := by
  induction rows with
  | nil => simp [insertRow]
  | cons r rows ih =>
    rw [List.pairwise_cons] at h
    unfold insertRow
    split
    · rename_i hlt
      refine List.pairwise_cons.2 ⟨fun s hs => ?_, List.pairwise_cons.2 h⟩
      rcases List.mem_cons.1 hs with rfl | hs
      · exact hlt
      · exact List.lt_trans hlt (h.1 s hs)
    · split
      · rename_i heq
        exact List.pairwise_cons.2 ⟨fun s hs => heq ▸ h.1 s hs, h.2⟩
      · rename_i hlt hne
        refine List.pairwise_cons.2 ⟨fun s hs => ?_, ih h.2⟩
        rcases mem_insertRow hs with rfl | hs
        · refine Classical.byContradiction fun hge => hne ?_
          exact List.le_antisymm (List.not_lt.1 hge) (List.not_lt.1 hlt)
        · exact h.1 s hs

/-- Rows in the order of their tokens; of rows with one token the last is kept. -/
def sortRows (rows : List Row) : List Row := rows.foldl (fun sorted row => insertRow row sorted) []

theorem sortRows_pairwise (rows : List Row) : (sortRows rows).Pairwise (·.1 < ·.1) := by
  suffices h : ∀ sorted : List Row, sorted.Pairwise (·.1 < ·.1) →
      (rows.foldl (fun sorted row => insertRow row sorted) sorted).Pairwise (·.1 < ·.1) from
    h [] List.Pairwise.nil
  induction rows with
  | nil => exact fun _ h => h
  | cons row rows ih => exact fun sorted h => ih _ (insertRow_pairwise h)

structure Table where
  source : Text
  rows : List Row
  sorted : rows.Pairwise (·.1 < ·.1)
  filled : ∀ r ∈ rows, r.2 ≠ []

namespace Table

/-- Tokens given no entries. -/
structure EmptyTokens where
  tokens : List Text
  deriving DecidableEq, Repr

def EmptyTokens.message (e : EmptyTokens) : Text :=
  "Tokens without entries: " ++ Text.join ", " e.tokens

def ofRows (source : Text) (rows : List Row) : Except EmptyTokens Table :=
  let kept := sortRows rows
  if h : ∀ r ∈ kept, r.2 ≠ [] then .ok ⟨source, kept, sortRows_pairwise rows, h⟩
  else .error ⟨(kept.filter (·.2.isEmpty)).map (·.1)⟩

instance : BEq Table := ⟨fun t u => t.rows == u.rows⟩

def size (t : Table) : Nat := t.rows.length

def tokens (t : Table) : List Text := t.rows.map (·.1)

def entryCount (t : Table) : Nat := (t.rows.map (·.2.length)).foldr (· + ·) 0

def contains (t : Table) (token : Text) : Bool := t.rows.any (·.1 == token)

/-- The entries of exactly this token, none if it is absent. -/
def lookup (t : Table) (token : Text) : List Entry := (t.rows.lookup token).getD []

def lookupName (t : Table) (name : Text) : Except Utf8.EncodeFault (List Entry) :=
  (Token.encode name).map t.lookup

/-- The rows whose tokens begin with a text that is not empty, the first `limit` of them. They
are neighbours, and begin where the text itself would stand. -/
def search (t : Table) (start : Text) (limit : Option Int) : List Row :=
  if start.isEmpty then []
  else
    let block := (t.rows.dropWhile (·.1 < start)).takeWhile (·.1.startsWith start)
    match limit with
    | none => block
    | some n => block.take n.toNat

def toValue (t : Table) : Value :=
  .object (t.rows.map fun (token, entries) => (token, entriesValue entries))

/-- Where a table came from, and its counts. -/
def summary (t : Table) : Value :=
  .object [("source", .text t.source), ("token_count", .ofNat t.size),
    ("entry_count", .ofNat t.entryCount)]

def describe (t : Table) : Text :=
  "Table(source=" ++ t.source.quoted ++ ", tokens=" ++ Text.decimal t.size ++ ")"

def unhashable : Text := "unhashable type: 'Table'"

end Table

end TokenIndex
