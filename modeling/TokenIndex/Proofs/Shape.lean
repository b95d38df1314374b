import TokenIndex.Shape
import TokenIndex.Proofs.Basic
import Mathlib.Algebra.GroupWithZero.Nat
import Mathlib.Data.List.Permutation
import Mathlib.Tactic.SplitIfs

namespace TokenIndex.Shape

/-- The link flag that a value stands for. -/
inductive Flag : Value → Bool → Prop
  | int (i : Int) : Flag (.int i) (i != 0)
  | bool (b : Bool) : Flag (.bool b) b

/-- A well-formed raw entry and the entry it stands for. -/
inductive Reads (label : Text) : Value → Entry → Prop
  | mk {locator scope resolved : Text} {flag : Value} {link : Bool} (more : List Value) :
      locator ≠ [] → Flag flag link → Reference.resolve scope = .ok resolved →
      Reads label (.array (.text locator :: flag :: .text scope :: more))
        ⟨label, locator, resolved, link⟩

/-- A well-formed item and the row it stands for. -/
inductive ReadsItem : Value → Row → Prop
  | mk {token label resolved : Text} {raws : List Value} {entries : List Entry} :
      token ≠ [] → label ≠ [] → raws ≠ [] → Reference.resolve label = .ok resolved →
      List.Forall₂ (Reads resolved) raws entries →
      ReadsItem (.array [.text token, .array (.text label :: raws)]) (token, entries)

theorem Flag.of_match {flag : Value} {link : Bool} (h : (match flag with
    | .int i => some (i != 0)
    | .bool b => some b
    | _ => none) = some link) : Flag flag link := by
  cases flag with
  | int i =>
    cases h
    exact .int i
  | bool =>
    cases h
    exact .bool link
  | _ => cases h

theorem resolve_eq_ok_iff {t resolved : Text} :
    resolve t = .ok resolved ↔ Reference.resolve t = .ok resolved := by
  unfold resolve
  cases Reference.resolve t <;> simp

theorem entry_sound {label : Text} {fail : EntryDefect → Defect} {raw : Value} {e : Entry} :
    entry label fail raw = .ok e → Reads label raw e := by
  fun_cases entry label fail raw with
  | case2 flag more c locator _ link scope hlink =>
    intro h
    obtain ⟨resolved, hr, rfl⟩ := map_eq_ok_iff.1 h
    exact .mk more (List.cons_ne_nil c locator) (.of_match hlink) (resolve_eq_ok_iff.1 hr)
  | _ => exact nofun

theorem entry_complete {label : Text} {raw : Value} {e : Entry} (h : Reads label raw e)
    (fail : EntryDefect → Defect) : entry label fail raw = .ok e := by
  obtain @⟨locator, scope, resolved, flag, link, more, hne, hflag, hr⟩ := h
  cases locator with
  | nil => exact absurd rfl hne
  | cons c locator =>
    cases hflag <;> exact map_eq_ok_iff.2 ⟨resolved, resolve_eq_ok_iff.2 hr, rfl⟩

theorem entries_eq_ok_iff {label : Text} {fail : Nat → EntryDefect → Defect} {j : Nat}
    {raws : List Value} {es : List Entry} :
    entries label fail j raws = .ok es ↔ List.Forall₂ (Reads label) raws es := by
  induction raws generalizing j es with
  | nil =>
    rw [entries, List.forall₂_nil_left_iff]
    exact ⟨fun h => (Except.ok.inj h).symm, fun h => h ▸ rfl⟩
  | cons raw raws ih =>
    rw [entries, List.forall₂_cons_left_iff]
    constructor
    · intro h
      cases he : entry label (fail j) raw with
      | error d => rw [he] at h; cases h
      | ok e =>
        rw [he] at h
        obtain ⟨es', hes, rfl⟩ := map_eq_ok_iff.1 h
        exact ⟨e, es', entry_sound he, ih.1 hes, rfl⟩
    · rintro ⟨e, es', he, hes, rfl⟩
      rw [entry_complete he]
      exact map_eq_ok_iff.2 ⟨es', ih.2 hes, rfl⟩

theorem any_token_eq_false_iff {rows : List Row} {token : Text} :
    rows.any (·.1 == token) = false ↔ token ∉ rows.map (·.1) := by
  rw [← Bool.not_eq_true, List.any_eq_true, List.mem_map]
  simp only [beq_iff_eq]

theorem row_sound {before : List Row} {item : Value} {r : Row} :
    row before item = .ok r → ReadsItem item r ∧ r.1 ∉ before.map (·.1) := by
  fun_cases row before item with
  | case3 _ c rest token raw raws d label hnew resolved hr =>
    intro h
    obtain ⟨es, hes, rfl⟩ := map_eq_ok_iff.1 h
    refine ⟨.mk (List.cons_ne_nil c rest) (List.cons_ne_nil d label) (List.cons_ne_nil raw raws)
      (resolve_eq_ok_iff.1 hr) (entries_eq_ok_iff.1 hes), ?_⟩
    exact any_token_eq_false_iff.1 (Bool.not_eq_true _ ▸ hnew)
  | _ => exact nofun

theorem row_complete {before : List Row} {item : Value} {r : Row} (h : ReadsItem item r)
    (hnew : r.1 ∉ before.map (·.1)) : row before item = .ok r := by
  obtain @⟨token, label, resolved, raws, entries, htoken, hlabel, hraws, hr, hes⟩ := h
  cases token with
  | nil => exact absurd rfl htoken
  | cons c rest =>
  cases label with
  | nil => exact absurd rfl hlabel
  | cons d label =>
  cases raws with
  | nil => exact absurd rfl hraws
  | cons raw raws =>
    rw [row, any_token_eq_false_iff.2 hnew, resolve_eq_ok_iff.2 hr]
    exact map_eq_ok_iff.2 ⟨entries, entries_eq_ok_iff.2 hes, rfl⟩

/-- The rows before decide only which tokens are taken. -/
theorem rowsFrom_eq_ok_iff {before out : List Row} {items : List Value} :
    rowsFrom before items = .ok out ↔ ∃ new, out = before ++ new ∧
      List.Forall₂ ReadsItem items new ∧ (new.map (·.1)).Nodup ∧
      (before.map (·.1)).Disjoint (new.map (·.1)) := by
  induction items generalizing before with
  | nil =>
    simp only [rowsFrom, Except.ok.injEq, List.forall₂_nil_left_iff]
    constructor
    · rintro rfl
      exact ⟨[], (List.append_nil _).symm, rfl, List.nodup_nil, List.disjoint_nil_right _⟩
    · rintro ⟨new, rfl, rfl, -⟩
      exact (List.append_nil _).symm
  | cons item items ih =>
    rw [rowsFrom]
    constructor
    · intro h
      cases hr : row before item with
      | error e => rw [hr] at h; cases h
      | ok r =>
        rw [hr] at h
        obtain ⟨hitem, hnew⟩ := row_sound hr
        -- to the items that follow, `r` is one of the rows before
        obtain ⟨new, rfl, hitems, hnodup, hdisj⟩ := ih.1 h
        rw [List.map_append, List.disjoint_append_left] at hdisj
        have hr : r.1 ∉ new.map (·.1) := List.singleton_disjoint.1 hdisj.2
        refine ⟨r :: new, by simp, .cons hitem hitems, List.nodup_cons.2 ⟨hr, hnodup⟩, ?_⟩
        exact List.disjoint_cons_right.2 ⟨hnew, hdisj.1⟩
    · rintro ⟨all, rfl, hall, hnodup, hdisj⟩
      obtain ⟨r, new, hitem, hitems, rfl⟩ := List.forall₂_cons_left_iff.1 hall
      rw [List.map_cons, List.nodup_cons] at hnodup
      rw [List.map_cons, List.disjoint_cons_right] at hdisj
      rw [row_complete hitem hdisj.1]
      refine ih.2 ⟨new, by simp, hitems, hnodup.2, ?_⟩
      rw [List.map_append, List.disjoint_append_left]
      exact ⟨hdisj.2, List.singleton_disjoint.2 hnodup.1⟩

theorem rowsFrom_append_eq_ok_iff {before out : List Row} {items more : List Value} :
    rowsFrom before (items ++ more) = .ok out ↔
      ∃ rows, rowsFrom before items = .ok rows ∧ rowsFrom rows more = .ok out := by
  induction items generalizing before with
  | nil =>
    rw [List.nil_append, rowsFrom]
    exact ⟨fun h => ⟨before, rfl, h⟩, fun ⟨_, hrows, h⟩ => Except.ok.inj hrows ▸ h⟩
  | cons item items ih =>
    rw [List.cons_append, rowsFrom, rowsFrom]
    cases row before item with
    | error e => simp
    | ok r => exact ih

/-- Data that is accepted, and its rows. -/
structure Accepted (items : List Value) (rows : List Row) : Prop where
  reads : List.Forall₂ ReadsItem items rows
  distinct : (rows.map (·.1)).Nodup

theorem rowsFrom_nil_eq_ok_iff {items : List Value} {out : List Row} :
    rowsFrom [] items = .ok out ↔ Accepted items out := by
  rw [rowsFrom_eq_ok_iff]
  constructor
  · rintro ⟨new, rfl, hitems, hnodup, -⟩
    exact ⟨hitems, hnodup⟩
  · rintro ⟨hitems, hnodup⟩
    exact ⟨out, rfl, hitems, hnodup, List.disjoint_nil_left _⟩

/-- How many raw entries an item has. -/
def rawCount : Value → Nat
  | .array [_, .array (_ :: raws)] => raws.length
  | _ => 0

theorem ReadsItem.length_eq {item : Value} {r : Row} (h : ReadsItem item r) :
    r.2.length = rawCount item := by
  obtain ⟨-, -, -, -, hes⟩ := h
  exact hes.length_eq.symm

theorem ReadsItem.ne_nil {item : Value} {r : Row} (h : ReadsItem item r) : r.2 ≠ [] := by
  obtain ⟨-, -, hraws, -, hes⟩ := h
  intro hnil
  dsimp only at hnil
  rw [hnil] at hes
  exact hraws (List.forall₂_nil_right_iff.1 hes)

namespace Accepted

variable {items : List Value} {rows : List Row}

theorem filled (h : Accepted items rows) : ∀ r ∈ rows, r.2 ≠ [] := by
  intro r hr
  have hall := h.reads
  clear h
  induction hall with
  | nil => cases hr
  | cons hitem _ ih =>
    rcases List.mem_cons.1 hr with rfl | hr
    · exact hitem.ne_nil
    · exact ih hr

theorem rawCount_sum (h : Accepted items rows) :
    (rows.map (·.2.length)).sum = (items.map rawCount).sum := by
  have hall := h.reads
  clear h
  induction hall with
  | nil => rfl
  | cons hitem _ ih =>
    rw [List.map_cons, List.map_cons, List.sum_cons, List.sum_cons, hitem.length_eq, ih]

theorem exists_of_perm (h : Accepted items rows) {items' : List Value} (hp : items'.Perm items) :
    ∃ rows', Accepted items' rows' ∧ rows'.Perm rows := by
  obtain ⟨rows', hall, hrows⟩ := List.perm_comp_forall₂ hp h.reads
  have hdistinct : (rows'.map (·.1)).Nodup := (hrows.map (·.1)).symm.nodup h.distinct
  exact ⟨rows', ⟨hall, hdistinct⟩, hrows⟩

theorem unique (h : Accepted items rows) {rows' : List Row} (h' : Accepted items rows') :
    rows = rows' := by
  have hr := rowsFrom_nil_eq_ok_iff.2 h
  have hr' := rowsFrom_nil_eq_ok_iff.2 h'
  exact Except.ok.inj (hr.symm.trans hr')

end Accepted

end TokenIndex.Shape
