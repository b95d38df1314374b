import TokenIndex.Proofs.Writer.RoundTrip

namespace TokenIndex

/-- Objects with the same fields, in whatever order. -/
def Value.SameFields : Value → Value → Prop
  | .object fs, .object gs => fs.Perm gs
  | _, _ => False

theorem Entry.toValue_injective : Function.Injective Entry.toValue := by
  rintro ⟨label, locator, scope, link⟩ ⟨label', locator', scope', link'⟩ h
  simp only [toValue, Value.object.injEq, List.cons.injEq, Prod.mk.injEq, true_and, and_true,
    Value.text.injEq, Value.bool.injEq] at h
  obtain ⟨rfl, rfl, rfl, rfl⟩ := h
  rfl

theorem entriesValue_injective : Function.Injective entriesValue := by
  intro es fs h
  exact Entry.toValue_injective.list_map (Value.array.inj h)

namespace Table

variable {t u : Table}

theorem beq_iff_rows_eq : (t == u) = true ↔ t.rows = u.rows := beq_iff_eq (a := t.rows)

theorem mem_rows_iff {token : Text} {entries : List Entry} :
    (token, entries) ∈ t.rows ↔ entries ≠ [] ∧ t.lookup token = entries := by
  constructor
  · intro h
    exact ⟨t.filled _ h, lookup_of_mem h⟩
  · rintro ⟨hne, rfl⟩
    have htoken : token ∈ t.tokens := by
      by_contra hnot
      exact hne (lookup_of_not_mem hnot)
    obtain ⟨⟨_, entries⟩, hrow, rfl⟩ := List.mem_map.1 htoken
    rw [lookup_of_mem hrow]
    exact hrow

theorem rows_eq_of_lookup (h : ∀ token, t.lookup token = u.lookup token) : t.rows = u.rows := by
  apply rows_eq_of_perm
  rw [List.perm_ext_iff_of_nodup t.nodup_tokens.of_map u.nodup_tokens.of_map]
  rintro ⟨token, entries⟩
  rw [mem_rows_iff, mem_rows_iff, h]

theorem rows_eq_of_sameFields (h : t.toValue.SameFields u.toValue) : t.rows = u.rows := by
  apply rows_eq_of_perm
  have hinj : Function.Injective fun r : Row => (r.1, entriesValue r.2) := by
    rintro ⟨token, entries⟩ ⟨token', entries'⟩ heq
    obtain ⟨htoken, hentries⟩ := Prod.mk.inj heq
    exact Prod.ext htoken (entriesValue_injective hentries)
  exact (List.map_perm_map_iff hinj).1 h

/-- Two tables that answer every query alike. -/
structure Agree (t u : Table) : Prop where
  lookup : ∀ token, t.lookup token = u.lookup token
  lookupName : ∀ name, t.lookupName name = u.lookupName name
  tokens : t.tokens = u.tokens
  size : t.size = u.size
  contains : ∀ token, t.contains token = u.contains token
  entryCount : t.entryCount = u.entryCount
  search : ∀ start limit, t.search start limit = u.search start limit
  value : t.toValue = u.toValue

theorem agree_of_rows_eq (h : t.rows = u.rows) : t.Agree u := by
  have hlookup (token : Text) : t.lookup token = u.lookup token := by
    rw [Table.lookup, Table.lookup, h]
  refine ⟨hlookup, ?_, ?_, ?_, ?_, ?_, ?_, ?_⟩
  · intro name
    rw [Table.lookupName, Table.lookupName, funext hlookup]
  · rw [Table.tokens, Table.tokens, h]
  · rw [Table.size, Table.size, h]
  · intro token
    rw [Table.contains, Table.contains, h]
  · rw [Table.entryCount, Table.entryCount, h]
  · intro start limit
    rw [Table.search, Table.search, h]
  · rw [Table.toValue, Table.toValue, h]

/-- Tables are equal exactly if they have the same entries for every token, and exactly if their
values have the same fields; then they agree in every answer. Where a table came from makes no
difference. The same items in another order give an equal table, or none in either order. -/
theorem beq_iff_lookup_eq (t u : Table) :
    ((t == u) = true ↔ ∀ token, t.lookup token = u.lookup token) ∧
    ((t == u) = true ↔ t.toValue.SameFields u.toValue) ∧
    ((t == u) = true → t.Agree u) ∧
    (∀ source source', ({ t with source := source } == { u with source := source' }) = (t == u)) ∧
    ∀ fs fs' category category' items items', items'.Perm items →
      ((∃ v, load fs (.items items) category = .ok v) ↔
        ∃ w, load fs' (.items items') category' = .ok w) ∧
      ∀ v w, load fs (.items items) category = .ok v →
        load fs' (.items items') category' = .ok w → (v == w) = true ∧ v.Agree w := by
  refine ⟨?_, ?_, ?_, fun _ _ => rfl, ?_⟩
  · rw [beq_iff_rows_eq]
    exact ⟨fun h => (agree_of_rows_eq h).lookup, rows_eq_of_lookup⟩
  · rw [beq_iff_rows_eq]
    refine ⟨fun h => ?_, rows_eq_of_sameFields⟩
    rw [(agree_of_rows_eq h).value]
    exact List.Perm.refl _
  · rw [beq_iff_rows_eq]
    exact agree_of_rows_eq
  · intro fs fs' category category' items items' hp
    obtain ⟨hiff, heq⟩ := (Load.loads_loadItems Source.itemsName items).alike_of_perm
      (Load.loads_loadItems Source.itemsName items') hp
    refine ⟨hiff, fun v w hv hw => ?_⟩
    exact ⟨heq v w hv hw, agree_of_rows_eq (beq_iff_rows_eq.1 (heq v w hv hw))⟩

open Writer in
theorem beq_iff_lookup_eq_swapped : ∃ v w,
    load (.empty []) (.items [(sampleTopic "b" (by decide)).raw,
      (sampleTopic "a" (by decide)).raw]) "all" = .ok v ∧
    load (.empty []) (.items [(sampleTopic "a" (by decide)).raw,
      (sampleTopic "b" (by decide)).raw]) "all" = .ok w ∧
    (v == w) = true ∧ ({ v with source := "f.js" } : Table).Agree w := by
  have hboth := Index.accepted
    ⟨[sampleTopic "b" (by decide), sampleTopic "a" (by decide)], by decide⟩
  obtain ⟨v, hv⟩ := (Load.loads_loadItems Source.itemsName _).exists_ok_iff.2 ⟨_, hboth⟩
  obtain ⟨hiff, halike⟩ := (beq_iff_lookup_eq v v).2.2.2.2 (.empty []) (.empty []) "all" "all" _ _
    (List.Perm.swap _ _ [])
  obtain ⟨w, hw⟩ := hiff.1 ⟨v, hv⟩
  obtain ⟨heq, -⟩ := halike v w hv hw
  have hmoved : (({ v with source := "f.js" } : Table) == w) = true := heq
  exact ⟨v, w, hv, hw, heq, (beq_iff_lookup_eq _ w).2.2.1 hmoved⟩

end Table

end TokenIndex
