import TokenIndex.Proofs.Load.Failure

namespace TokenIndex.Shape

open Reference (Oversized)

/-- No decimal reference in the text has more digits than are converted. -/
def Convertible (t : Text) : Prop := ∀ run, ¬Oversized t run

/-- A list that begins with a locator, a link flag and a scope. -/
inductive ValidEntry : Value → Prop
  | mk {locator scope : Text} {flag : Value} {link : Bool} (more : List Value) :
      locator ≠ [] → Flag flag link → Convertible scope →
      ValidEntry (.array (.text locator :: flag :: .text scope :: more))

/-- A pair of a token and of a list that begins with a label and goes on with entries. -/
inductive ValidItem : Text → Value → Prop
  | mk {token label : Text} {raws : List Value} : token ≠ [] → label ≠ [] → raws ≠ [] →
      Convertible label → (∀ raw ∈ raws, ValidEntry raw) →
      ValidItem token (.array [.text token, .array (.text label :: raws)])

/-- A list of items with different tokens. -/
inductive Valid : Value → Prop
  | mk {items : List Value} {tokens : List Text} : List.Forall₂ ValidItem tokens items →
      tokens.Nodup → Valid (.array items)

theorem convertible_iff {t : Text} :
    Convertible t ↔ ∃ resolved, Reference.resolve t = .ok resolved := by
  constructor
  · intro h
    cases hr : Reference.resolve t with
    | ok resolved => exact ⟨resolved, rfl⟩
    | error e =>
      obtain ⟨run, hrun, -⟩ := Reference.exists_oversized hr
      exact absurd hrun (h run)
  · rintro ⟨resolved, hr⟩ run hrun
    obtain ⟨e, he⟩ := hrun.fails
    rw [hr] at he
    cases he

theorem validEntry_iff (label : Text) {raw : Value} :
    ValidEntry raw ↔ ∃ e, Reads label raw e := by
  constructor
  · rintro ⟨more, hlocator, hflag, hscope⟩
    obtain ⟨resolved, hr⟩ := convertible_iff.1 hscope
    exact ⟨_, .mk more hlocator hflag hr⟩
  · rintro ⟨_, more, hlocator, hflag, hr⟩
    exact .mk more hlocator hflag (convertible_iff.2 ⟨_, hr⟩)

theorem exists_forall₂_iff {α β : Type} {R : α → β → Prop} {l : List α} :
    (∃ m, List.Forall₂ R l m) ↔ ∀ a ∈ l, ∃ b, R a b := by
  induction l with
  | nil => exact iff_of_true ⟨[], .nil⟩ (List.forall_mem_nil _)
  | cons a l ih =>
    rw [List.forall_mem_cons, ← ih]
    constructor
    · rintro ⟨_, _ | ⟨hab, hl⟩⟩
      exact ⟨⟨_, hab⟩, _, hl⟩
    · rintro ⟨⟨b, hab⟩, m, hl⟩
      exact ⟨b :: m, .cons hab hl⟩

theorem validItem_iff {token : Text} {item : Value} :
    ValidItem token item ↔ ∃ entries, ReadsItem item (token, entries) := by
  constructor
  · rintro ⟨htoken, hlabel, hraws, hconvertible, hvalid⟩
    obtain ⟨resolved, hr⟩ := convertible_iff.1 hconvertible
    obtain ⟨entries, hes⟩ := exists_forall₂_iff.2 fun raw hraw =>
      (validEntry_iff resolved).1 (hvalid raw hraw)
    exact ⟨entries, .mk htoken hlabel hraws hr hes⟩
  · rintro ⟨entries, htoken, hlabel, hraws, hr, hes⟩
    refine .mk htoken hlabel hraws (convertible_iff.2 ⟨_, hr⟩) fun raw hraw => ?_
    exact (validEntry_iff _).2 (exists_forall₂_iff.1 ⟨entries, hes⟩ raw hraw)

theorem forall₂_validItem_iff {tokens : List Text} {items : List Value} :
    List.Forall₂ ValidItem tokens items ↔
      ∃ rows : List Row, List.Forall₂ ReadsItem items rows ∧ rows.map (·.1) = tokens := by
  constructor
  · intro h
    induction h with
    | nil => exact ⟨[], .nil, rfl⟩
    | cons hitem _ ih =>
      obtain ⟨entries, hreads⟩ := validItem_iff.1 hitem
      obtain ⟨rows, hrows, rfl⟩ := ih
      exact ⟨_ :: rows, .cons hreads hrows, rfl⟩
  · rintro ⟨rows, hrows, rfl⟩
    rw [List.forall₂_map_left_iff]
    refine List.Forall₂.flip (hrows.imp fun item r hreads => ?_)
    exact validItem_iff.2 ⟨r.2, hreads⟩

theorem valid_array_iff {items : List Value} :
    Valid (.array items) ↔ ∃ rows, Accepted items rows := by
  constructor
  · rintro ⟨hitems, hdistinct⟩
    obtain ⟨rows, hrows, rfl⟩ := forall₂_validItem_iff.1 hitems
    exact ⟨rows, hrows, hdistinct⟩
  · rintro ⟨rows, hrows, hdistinct⟩
    exact .mk (forall₂_validItem_iff.2 ⟨rows, hrows, rfl⟩) hdistinct

theorem rows_eq_ok_iff {data : Value} {out : List Row} :
    rows data = .ok out ↔ ∃ items, data = .array items ∧ Accepted items out := by
  constructor
  · intro h
    cases data with
    | array items => exact ⟨items, rfl, rowsFrom_nil_eq_ok_iff.1 h⟩
    | _ => cases h
  · rintro ⟨items, rfl, h⟩
    exact rowsFrom_nil_eq_ok_iff.2 h

/-- Data has rows exactly if it is valid. The rows are those of its items, one for each and in
their order, with one entry for each raw entry: the label and the scope resolved, the locator as it
is, and the flag told from zero. No row is without entries, so a table can be made of them, and no
load fails for a token without entries. -/
theorem exists_rows_iff_valid (data : Value) :
    ((∃ out, rows data = .ok out) ↔ Valid data) ∧
      (∀ out, rows data = .ok out ↔ ∃ items, data = .array items ∧ Accepted items out) ∧
      (∀ out, rows data = .ok out →
        (∀ r ∈ out, r.2 ≠ []) ∧ ∀ source, ∃ t, Table.ofRows source out = .ok t) ∧
      ∀ fs source category e, load fs source category ≠ .error (.emptyTokens e) := by
  refine ⟨?_, fun out => rows_eq_ok_iff, ?_, ?_⟩
  · simp only [rows_eq_ok_iff]
    constructor
    · rintro ⟨out, items, rfl, h⟩
      exact valid_array_iff.2 ⟨out, h⟩
    · rintro @⟨items, tokens, hitems, hdistinct⟩
      obtain ⟨out, h⟩ := valid_array_iff.1 (.mk hitems hdistinct)
      exact ⟨out, items, rfl, h⟩
  · intro out h
    obtain ⟨items, -, haccepted⟩ := rows_eq_ok_iff.1 h
    refine ⟨haccepted.filled, fun source => ?_⟩
    obtain ⟨t, ht, -⟩ := Table.exists_ofRows source haccepted.distinct haccepted.filled
    exact ⟨t, ht⟩
  · intro fs source category e h
    cases Load.fails_of_load h

/-- A reference in a label is resolved, and the scope of an entry may be empty. -/
theorem exists_rows_iff_valid_reference :
    rows (.array [Load.oneEntry "a" "&#65;" "x.html" []]) =
        .ok [("a", [⟨"A", "x.html", [], true⟩])] ∧
      Valid (.array [Load.oneEntry "a" "&#65;" "x.html" []]) ∧
      ∀ source, ∃ t, Table.ofRows source [("a", [⟨"A", "x.html", [], true⟩])] = .ok t := by
  have h : rows (.array [Load.oneEntry "a" "&#65;" "x.html" []]) =
      .ok [("a", [⟨"A", "x.html", [], true⟩])] := by cbv
  obtain ⟨hvalid, -, htable, -⟩ :=
    exists_rows_iff_valid (.array [Load.oneEntry "a" "&#65;" "x.html" []])
  exact ⟨h, hvalid.1 ⟨_, h⟩, (htable _ h).2⟩

end TokenIndex.Shape
