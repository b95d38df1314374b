import TokenIndex.Command.Report
import TokenIndex.Entry
import TokenIndex.Proofs.Basic
import Mathlib.Tactic.SplitIfs
import Mathlib.Tactic.MkIffOfInductiveProp

namespace TokenIndex

namespace Value

/-- The kinds of values that have a form in a column. -/
def Columnar : Value → Prop
  | text _ | bool _ | int _ | float _ => True
  | null | array _ | object _ => False

/-- The kinds of values that have a length and items. -/
def Sized : Value → Prop
  | text _ | array _ | object _ => True
  | null | bool _ | int _ | float _ => False

/-- An object with a field of this name and kind. -/
def HasField (v : Value) (name : Text) (p : Value → Prop) : Prop :=
  ∃ fields x, v = .object fields ∧ field? fields name = some x ∧ p x

/-- A list of such values. Nothing else with items will do, unless it has none. -/
def Listing (p : Value → Prop) : Value → Prop
  | array vs => ∀ v ∈ vs, p v
  | text t => t = []
  | object fields => fields = []
  | null | bool _ | int _ | float _ => False

@[mk_iff]
structure EntryLike (v : Value) : Prop where
  label : v.HasField "label" Columnar
  scope : v.HasField "scope" Columnar
  locator : v.HasField "locator" fun _ => True

/-- The entries of a result only have to be counted, unless they are to be shown. -/
@[mk_iff]
structure ResultLike (showEntries : Bool) (v : Value) : Prop where
  token : v.HasField "token" Columnar
  label : v.HasField "label" Columnar
  entries : v.HasField "entries" fun es => es.Sized ∧ (showEntries = true → es.Listing EntryLike)

@[mk_iff]
structure InfoLike (v : Value) : Prop where
  source : v.HasField "source" fun _ => True
  tokenCount : v.HasField "token_count" fun _ => True
  entryCount : v.HasField "entry_count" fun _ => True

theorem get_eq_ok_iff {v x : Value} {name : Text} :
    v.get name = .ok x ↔ ∃ fields, v = .object fields ∧ field? fields name = some x := by
  cases v with
  | object fields =>
    rw [get]
    cases hx : field? fields name <;> simp [hx]
  | _ => simp [get]

section Field

variable {v : Value} {name : Text} {p : Value → Prop}

theorem hasField_iff_of_ok {x : Value} (h : v.get name = .ok x) : v.HasField name p ↔ p x := by
  obtain ⟨fields, rfl, hx⟩ := get_eq_ok_iff.1 h
  refine ⟨?_, fun hp => ⟨fields, x, rfl, hx, hp⟩⟩
  rintro ⟨_, y, ⟨⟩, hy, hp⟩
  cases hx.symm.trans hy
  exact hp

theorem not_hasField_of_error {e : UseError} (h : v.get name = .error e) :
    ¬v.HasField name p := by
  rintro ⟨fields, x, rfl, hx, -⟩
  cases h.symm.trans (get_eq_ok_iff.2 ⟨fields, rfl, hx⟩)

end Field

theorem not_hasField_text (t name : Text) (p : Value → Prop) : ¬(text t).HasField name p := by
  rintro ⟨fields, x, h, -⟩
  cases h

theorem exists_length_iff {v : Value} : (∃ n, v.length = .ok n) ↔ v.Sized := by
  cases v <;> simp [length, Sized]

theorem exists_items_iff {v : Value} : (∃ vs, v.items = .ok vs) ↔ v.Sized := by
  cases v <;> simp [items, Sized]

theorem exists_inColumn_iff {v : Value} {width : Nat} :
    (∃ t, v.inColumn width = .ok t) ↔ v.Columnar := by
  cases v <;> simp [inColumn, Columnar]

theorem listing_entriesValue (es : List Entry) : (entriesValue es).Listing EntryLike :=
  List.forall_mem_map.2 fun e _ => ⟨⟨_, .text e.label, rfl, rfl, trivial⟩,
    ⟨_, .text e.scope, rfl, rfl, trivial⟩, ⟨_, .text e.locator, rfl, rfl, trivial⟩⟩

theorem resultLike_rowValue (showEntries : Bool) (r : Row) :
    (rowValue r).ResultLike showEntries :=
  ⟨⟨_, .text r.1, rfl, rfl, trivial⟩, ⟨_, _, rfl, rfl, trivial⟩,
    ⟨_, entriesValue r.2, rfl, rfl, trivial, fun _ => listing_entriesValue r.2⟩⟩

end Value

namespace Report

open Value (HasField Columnar EntryLike ResultLike InfoLike Listing Sized)

/-- A line that can be written. -/
def Written (l : Line) : Prop := ∃ t, l = .ok t

theorem written_ok (t : Text) : Written (.ok t) := ⟨t, rfl⟩

theorem not_written_error (e : Value.UseError) : ¬Written (.error e) := nofun

theorem written_map_iff {α : Type} {r : Except Value.UseError α} {f : α → Text} :
    Written (r.map f) ↔ ∃ a, r = .ok a := by
  cases r <;> simp [Written, Except.map]

/-- A report is printed to its end exactly if all its lines can be written. -/
theorem print_snd_eq_none_iff {lines : List Line} :
    (print lines).2 = none ↔ ∀ l ∈ lines, Written l := by
  induction lines with
  | nil => simp [print]
  | cons l lines ih =>
    rw [List.forall_mem_cons, ← ih]
    cases l with
    | ok t => exact (and_iff_right (written_ok t)).symm
    | error e => exact iff_of_false nofun fun h => not_written_error e h.1

theorem print_map_ok (texts : List Text) : print (texts.map .ok) = (texts.flatten, none) := by
  induction texts with
  | nil => rfl
  | cons text texts ih => rw [List.map_cons, print, ih, List.flatten_cons]

theorem written_column_iff {v : Value} {name : Text} {width : Nat} :
    Written (column v name width) ↔ v.HasField name Columnar := by
  rw [column]
  cases hv : v.get name with
  | ok x => exact Value.exists_inColumn_iff.trans (Value.hasField_iff_of_ok hv).symm
  | error e => exact iff_of_false (not_written_error e) (Value.not_hasField_of_error hv)

theorem written_get_iff {v : Value} {name : Text} {f : Value → Text} :
    Written ((v.get name).map f) ↔ v.HasField name fun _ => True := by
  cases hv : v.get name with
  | ok x => exact iff_of_true (written_ok _) ((Value.hasField_iff_of_ok hv).2 trivial)
  | error e => exact iff_of_false (not_written_error e) (Value.not_hasField_of_error hv)

theorem written_row_iff {lead : Text} {columns : List Line} {last : Line} :
    Written (row lead columns last) ↔ (∀ l ∈ columns, Written l) ∧ Written last := by
  induction columns generalizing lead with
  | nil =>
    rw [row, written_map_iff]
    simp [Written]
  | cons l columns ih =>
    rw [List.forall_mem_cons]
    cases l with
    | ok t => rw [row, ih, and_iff_right (written_ok t)]
    | error e => exact iff_of_false (not_written_error e) fun h => not_written_error e h.1.1

theorem written_count_iff {v : Value} : Written (count v) ↔ v.Sized := by
  rw [count, written_map_iff, Value.exists_length_iff]

theorem written_entryLine_iff {v : Value} : Written (entryLine v) ↔ v.EntryLike := by
  rw [entryLine, written_row_iff, List.forall_mem_cons, List.forall_mem_singleton,
    written_column_iff, written_column_iff, written_get_iff, Value.entryLike_iff, and_assoc]

theorem written_each_iff {v : Value} {lines : Value → List Line} {p : Value → Prop}
    (h : ∀ x, (∀ l ∈ lines x, Written l) ↔ p x) (htext : ∀ t, ¬p (.text t)) :
    (∀ l ∈ each v lines, Written l) ↔ v.Listing p := by
  have hitems (vs : List Value) :
      (∀ l ∈ vs.flatMap lines, Written l) ↔ ∀ x ∈ vs, p x := by
    simp only [List.forall_mem_flatMap, h]
  have hnone {α : Type} (f : α → Text) (l : List α) :
      (∀ x ∈ l.map fun a => Value.text (f a), p x) ↔ l = [] := by
    rw [List.forall_mem_map, List.eq_nil_iff_forall_not_mem]
    exact forall₂_congr fun a _ => iff_of_false (htext _) id
  cases v with
  | array vs => exact hitems vs
  | text t => exact (hitems _).trans (hnone (fun c => [c]) t)
  | object fields => exact (hitems _).trans (hnone (·.1) fields)
  | _ => exact iff_of_false (fun hl => not_written_error _ (hl _ List.mem_cons_self)) id

theorem written_entryLines_iff {v : Value} :
    (∀ l ∈ entryLines v, Written l) ↔ v.Listing EntryLike :=
  written_each_iff (fun x => by rw [List.forall_mem_singleton, written_entryLine_iff])
    fun t h => Value.not_hasField_text t _ _ h.label

theorem sized_of_listing {v : Value} {p : Value → Prop} (h : v.Listing p) : v.Sized := by
  cases v <;> trivial

theorem written_lookup_iff {token : Text} {asJson : Bool} {v : Value} :
    (∀ l ∈ lookup token asJson v, Written l) ↔
      asJson = true ∨ v.isVoid = true ∨ v.Listing EntryLike := by
  rw [lookup]
  split_ifs with hjson hvoid
  · exact iff_of_true (List.forall_mem_singleton.2 (written_ok _)) (.inl hjson)
  · exact iff_of_true (List.forall_mem_singleton.2 (written_ok _)) (.inr (.inl hvoid))
  · rw [or_iff_right hjson, or_iff_right hvoid, List.forall_mem_cons, written_row_iff,
      written_count_iff, written_entryLines_iff]
    exact ⟨And.right, fun h => ⟨⟨nofun, sized_of_listing h⟩, h⟩⟩

theorem written_resultLines_iff {showEntries : Bool} {v : Value} :
    (∀ l ∈ resultLines showEntries v, Written l) ↔ v.ResultLike showEntries := by
  rw [resultLines, List.forall_mem_cons, resultLine, written_row_iff, List.forall_mem_cons,
    List.forall_mem_singleton, written_column_iff, written_column_iff, Value.resultLike_iff,
    and_assoc, and_assoc]
  refine and_congr_right fun _ => and_congr_right fun _ => ?_
  cases hv : v.get "entries" with
  | ok es =>
    rw [Value.hasField_iff_of_ok hv]
    dsimp only
    rw [written_count_iff]
    refine and_congr_right fun _ => ?_
    split_ifs with hshow
    · exact written_entryLines_iff.trans (imp_iff_right hshow).symm
    · exact iff_of_true nofun fun h => absurd h hshow
  | error e =>
    exact iff_of_false (fun h => not_written_error e h.1) (Value.not_hasField_of_error hv)

theorem written_search_iff {start : Text} {asJson showEntries : Bool} {v : Value} :
    (∀ l ∈ search start asJson showEntries v, Written l) ↔
      asJson = true ∨ v.isVoid = true ∨ v.Listing (ResultLike showEntries) := by
  rw [search]
  split_ifs with hjson hvoid
  · exact iff_of_true (List.forall_mem_singleton.2 (written_ok _)) (.inl hjson)
  · exact iff_of_true (List.forall_mem_singleton.2 (written_ok _)) (.inr (.inl hvoid))
  · rw [or_iff_right hjson, or_iff_right hvoid]
    exact written_each_iff (fun _ => written_resultLines_iff)
      fun t h => Value.not_hasField_text t _ _ h.label

theorem written_tokens_iff {asJson : Bool} {v : Value} :
    (∀ l ∈ tokens asJson v, Written l) ↔ asJson = true ∨ v.Sized := by
  rw [tokens]
  split_ifs with hjson
  · exact iff_of_true (List.forall_mem_singleton.2 (written_ok _)) (.inl hjson)
  · rw [or_iff_right hjson, ← Value.exists_items_iff, each]
    cases v.items with
    | ok vs =>
      refine iff_of_true (List.forall_mem_flatMap.2 fun x _ => ?_) ⟨vs, rfl⟩
      exact List.forall_mem_singleton.2 (written_ok _)
    | error e =>
      exact iff_of_false (fun h => not_written_error e (h _ List.mem_cons_self)) nofun

theorem written_info_iff {asJson : Bool} {v : Value} :
    (∀ l ∈ info asJson v, Written l) ↔ asJson = true ∨ v.InfoLike := by
  rw [info]
  split_ifs with hjson
  · exact iff_of_true (List.forall_mem_singleton.2 (written_ok _)) (.inl hjson)
  · rw [or_iff_right hjson, List.forall_mem_cons, List.forall_mem_cons, List.forall_mem_singleton,
      infoLine, infoLine, infoLine, written_get_iff, written_get_iff, written_get_iff,
      Value.infoLike_iff]

end Report

end TokenIndex
