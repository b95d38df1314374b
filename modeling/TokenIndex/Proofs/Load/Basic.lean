import TokenIndex.Load
import TokenIndex.Proofs.Shape
import TokenIndex.Proofs.Table
import TokenIndex.Proofs.Text.Utf8

namespace TokenIndex

open Shape (Accepted rowsFrom)

namespace Load

/-- Two results that are both errors, or equal tables. -/
def Alike (r s : Except LoadError Table) : Prop :=
  ((∃ t, r = .ok t) ↔ ∃ u, s = .ok u) ∧ ∀ t u, r = .ok t → s = .ok u → (t == u) = true

/-- A table of all rows of the items, or an error if there are no such rows. -/
def Loads (items : List Value) : Except LoadError Table → Prop
  | .ok t => ∃ rows, Accepted items rows ∧ t.rows.Perm rows
  | .error _ => ∀ rows, ¬Accepted items rows

theorem exists_table (source : Text) {items : List Value} {rows : List Row}
    (h : Accepted items rows) : ∃ t, table source rows = .ok t ∧ t.rows.Perm rows := by
  obtain ⟨t, ht, -, hperm⟩ := Table.exists_ofRows source h.distinct h.filled
  refine ⟨t, ?_, hperm⟩
  rw [table, ht]

theorem loads_table (source : Text) {items : List Value} {rows : List Row}
    (h : Accepted items rows) : Loads items (table source rows) := by
  obtain ⟨t, ht, hperm⟩ := exists_table source h
  rw [ht]
  exact ⟨rows, h, hperm⟩

theorem shape_eq_ok_iff {source : Text} {items : List Value} {out : List Row} :
    shape source (.array items) = .ok out ↔ rowsFrom [] items = .ok out := by
  rw [shape, Shape.rows]
  split <;> simp [*]

theorem loads_loadItems (source : Text) (items : List Value) :
    Loads items (loadItems source (.array items)) := by
  rw [loadItems]
  cases hs : shape source (.array items) with
  | error e =>
    intro rows h
    rw [shape_eq_ok_iff.2 (Shape.rowsFrom_nil_eq_ok_iff.2 h)] at hs
    cases hs
  | ok rows => exact loads_table source (Shape.rowsFrom_nil_eq_ok_iff.1 (shape_eq_ok_iff.1 hs))

/-- A file of the bytes of a text is read as that text, with its line ends normalised. -/
theorem read_of_encoded {fs : Files} {p : Path} {t : Text} {bytes : Bytes}
    (hbytes : Utf8.encode t = .ok bytes) (hfile : fs.status p = .ok (some (.file bytes))) :
    read fs p = .ok t.normalizeLineEnds := by
  have hs := Utf8.plain_of_encode hbytes
  cases (Utf8.encode_eq_ok hs).symm.trans hbytes
  rw [read, Files.read, hfile]
  dsimp only
  rw [Utf8.decode_encode hs]

namespace Loads

variable {items : List Value} {r : Except LoadError Table} {t : Table}

theorem size_eq (h : Loads items (.ok t)) : t.size = items.length := by
  obtain ⟨rows, hrows, hperm⟩ := h
  rw [Table.size, hperm.length_eq, hrows.reads.length_eq]

theorem entryCount_eq (h : Loads items (.ok t)) :
    t.entryCount = (items.map Shape.rawCount).sum := by
  obtain ⟨rows, hrows, hperm⟩ := h
  rw [Table.entryCount_eq_of_perm hperm, hrows.rawCount_sum]

theorem exists_ok_iff (h : Loads items r) :
    (∃ t, r = .ok t) ↔ ∃ rows, Accepted items rows := by
  cases r with
  | ok t =>
    obtain ⟨rows, hrows, -⟩ := h
    exact ⟨fun _ => ⟨rows, hrows⟩, fun _ => ⟨t, rfl⟩⟩
  | error e =>
    constructor
    · rintro ⟨t, ht⟩
      cases ht
    · rintro ⟨rows, hrows⟩
      exact absurd hrows (h rows)

/-- The same items in any order load alike, wherever they come from. -/
theorem alike_of_perm (h : Loads items r) {items' : List Value} {r' : Except LoadError Table}
    (h' : Loads items' r') (hp : items'.Perm items) : Alike r r' := by
  refine ⟨?_, ?_⟩
  · rw [h.exists_ok_iff, h'.exists_ok_iff]
    constructor
    · rintro ⟨rows, hrows⟩
      obtain ⟨rows', hrows', -⟩ := hrows.exists_of_perm hp
      exact ⟨rows', hrows'⟩
    · rintro ⟨rows', hrows'⟩
      obtain ⟨rows, hrows, -⟩ := hrows'.exists_of_perm hp.symm
      exact ⟨rows, hrows⟩
  · rintro t u rfl rfl
    obtain ⟨rows, hrows, ht⟩ := h
    obtain ⟨rows', hrows', hu⟩ := h'
    obtain ⟨_, hmoved, hperm⟩ := hrows.exists_of_perm hp
    rw [hmoved.unique hrows'] at hperm
    exact Table.beq_of_perm (ht.trans (hperm.symm.trans hu.symm))

end Loads

end Load

end TokenIndex
