import TokenIndex.Settings
import TokenIndex.Proofs.Text.Pieces

namespace TokenIndex.Environment

/-- A text that a process can be given: its bytes end at the first zero, so none is zero. -/
def IsArgument (t : Text) : Prop := ∃ bytes : Bytes, 0 ∉ bytes ∧ Utf8.decodeKeeping bytes = t

section Argument

variable {t : Text}

theorem stored_of_plain (h : t.hasSurrogate = false) : stored t = t := by
  rw [stored, Utf8.encodeKept_of_plain h, Utf8.decodeKeeping_encode h]

theorem stored_of_isArgument (h : IsArgument t) : stored t = t := by
  obtain ⟨bytes, -, rfl⟩ := h
  rw [stored, Utf8.encodeKept_decodeKeeping]

theorem isArgument_of_plain (h : t.hasSurrogate = false) (hzero : 0 ∉ t) : IsArgument t := by
  refine ⟨t.flatMap Utf8.encodeOne, ?_, Utf8.decodeKeeping_encode h⟩
  intro hmem
  obtain ⟨c, hc, hbyte⟩ := List.mem_flatMap.1 hmem
  exact hzero (Utf8.eq_zero_of_zero_mem_encodeOne hbyte ▸ hc)

theorem IsArgument.cons {c : CodePoint} (h : IsArgument t) (hc : c.isSurrogate = false)
    (hzero : c ≠ 0) : IsArgument (c :: t) := by
  obtain ⟨bytes, hbytes, rfl⟩ := h
  refine ⟨Utf8.encodeOne c ++ bytes, ?_, ?_⟩
  · rw [List.mem_append, not_or]
    exact ⟨fun hmem => hzero (Utf8.eq_zero_of_zero_mem_encodeOne hmem), hbytes⟩
  · rw [Utf8.decodeKeeping, Utf8.pieces_encodeOne hc]
    rfl

theorem encodable_of_isArgument (h : IsArgument t) :
    Utf8.encodeFault? Utf8.standsForByte t = none := by
  obtain ⟨bytes, -, rfl⟩ := h
  exact Utf8.encodable_decodeKeeping bytes

theorem zero_not_mem_of_isArgument (h : IsArgument t) : 0 ∉ t := by
  obtain ⟨bytes, hbytes, rfl⟩ := h
  intro hzero
  apply hbytes
  rw [← Utf8.encodeKept_decodeKeeping bytes]
  exact List.mem_flatMap.2 ⟨0, hzero, by decide⟩

end Argument

section Set

variable {env : Environment} {name value : Text}

theorem get?_set (env : Environment) (name value : Text) :
    (env.set name value).get? name = some (stored value) := by
  rw [get?, set, List.lookup_cons_self]

theorem get?_unset_of_ne {other : Text} (h : stored other ≠ stored name) :
    (env.unset name).get? other = env.get? other := by
  rw [get?, get?, unset]
  induction env with
  | nil => rfl
  | cons e env ih =>
    rw [List.filter_cons, List.lookup_cons]
    cases he : e.1 != stored name with
    | true => rw [if_pos rfl, List.lookup_cons, ih]
    | false =>
      have hne : stored other ≠ e.1 := by
        rw [bne_eq_false_iff_eq.1 he]
        exact h
      rw [if_neg Bool.false_ne_true, beq_eq_false_iff_ne.2 hne]
      exact ih

theorem get?_set_of_ne {other : Text} (h : stored other ≠ stored name) :
    (env.set name value).get? other = env.get? other := by
  refine Eq.trans ?_ (get?_unset_of_ne h)
  rw [get?, get?, set, List.lookup_cons, beq_eq_false_iff_ne.2 h]

theorem assign_of_isArgument (env : Environment) (name : Text) (h : IsArgument value) :
    env.assign name value = .ok (env.set name value) := by
  have hzero : value.contains (0 : CodePoint) = false := by
    simpa using zero_not_mem_of_isArgument h
  rw [assign, encodable_of_isArgument h]
  dsimp only
  rw [hzero, if_neg Bool.false_ne_true]

end Set

theorem stored_indexName : stored indexName = indexName := stored_of_plain (by decide)

theorem stored_categoryName : stored categoryName = categoryName := stored_of_plain (by decide)

theorem index_eq_ok {env : Environment} {t : Text} (h : env.get? indexName = some t) :
    env.index = .ok t := by
  have hname : Utf8.encodeFault? Utf8.standsForByte indexName = none := rfl
  unfold index setting
  rw [hname, h]

theorem index_set (env : Environment) (t : Text) :
    (env.set indexName t).index = .ok (stored t) := index_eq_ok (get?_set ..)

theorem category_set_index (env : Environment) (t : Text) :
    (env.set indexName t).category = env.category := by
  rw [category, category, get?_set_of_ne]
  rw [stored_indexName, stored_categoryName]
  decide

theorem index_set_category (env : Environment) (t c : Text) :
    ((env.set indexName t).set categoryName c).index = .ok (stored t) := by
  apply index_eq_ok
  rw [get?_set_of_ne, get?_set]
  rw [stored_indexName, stored_categoryName]
  decide

theorem category_set (env : Environment) (c : Text) :
    (env.set categoryName c).category = stored c := by
  rw [category, get?_set, Option.getD_some]

end TokenIndex.Environment
