import TokenIndex.Proofs.Shape.Valid

namespace TokenIndex

namespace Shape

/-- What is wrong with a raw entry; of several defects, the one that is told. -/
inductive Faulty : Value → EntryDefect → Prop
  | shape {raw : Value} : (∀ locator flag scope more,
      raw ≠ .array (locator :: flag :: scope :: more)) → Faulty raw .shape
  | locator {locator flag scope : Value} {more : List Value} :
      (∀ t, t ≠ [] → locator ≠ .text t) →
      Faulty (.array (locator :: flag :: scope :: more)) .locator
  | flag {locator : Text} {flag scope : Value} {more : List Value} : locator ≠ [] →
      (∀ link, ¬Flag flag link) → Faulty (.array (.text locator :: flag :: scope :: more)) .flag
  | scope {locator : Text} {flag scope : Value} {link : Bool} {more : List Value} :
      locator ≠ [] → Flag flag link → (∀ t, scope ≠ .text t) →
      Faulty (.array (.text locator :: flag :: scope :: more)) .scope

/-- The index of the first raw entry that is not valid, and what is wrong with it. -/
inductive FirstFault : List Value → Nat → EntryDefect → Prop
  | here {raw : Value} {raws : List Value} {defect : EntryDefect} : Faulty raw defect →
      FirstFault (raw :: raws) 0 defect
  | behind {raw : Value} {raws : List Value} {k : Nat} {defect : EntryDefect} : ValidEntry raw →
      FirstFault raws k defect → FirstFault (raw :: raws) (k + 1) defect

section Entries

variable {label : Text} {raw : Value} {raws : List Value} {d : Defect}

theorem resolve_ne_defect (t : Text) (d : Defect) : resolve t ≠ .error (.defect d) := by
  rw [resolve]
  cases Reference.resolve t <;> rintro ⟨⟩

theorem not_flag_of_match {flag : Value} (h : (match flag with
    | .int i => some (i != 0)
    | .bool b => some b
    | _ => none) = none) (link : Bool) : ¬Flag flag link := by
  rintro (_ | _) <;> cases h

theorem faulty_of_entry {fail : EntryDefect → Defect} :
    entry label fail raw = .error (.defect d) → ∃ defect, Faulty raw defect ∧ d = fail defect := by
  fun_cases entry label fail raw with
  | case1 flag scope more c locator link hlink =>
    rintro ⟨⟩
    exact ⟨.flag, .flag (List.cons_ne_nil c locator) (not_flag_of_match hlink), rfl⟩
  | case2 =>
    intro h
    exact absurd (map_eq_error_iff.1 h) (resolve_ne_defect _ d)
  | case3 flag scope more c locator link _ hlink hscope =>
    rintro ⟨⟩
    exact ⟨.scope, .scope (List.cons_ne_nil c locator) (.of_match hlink) hscope, rfl⟩
  | case4 locator flag scope more hlocator =>
    rintro ⟨⟩
    refine ⟨.locator, .locator fun t ht => ?_, rfl⟩
    obtain ⟨c, t, rfl⟩ := List.exists_cons_of_ne_nil ht
    exact hlocator c t
  | case5 _ hshape =>
    rintro ⟨⟩
    exact ⟨.shape, .shape hshape, rfl⟩

theorem entry_of_faulty {defect : EntryDefect} (h : Faulty raw defect) (label : Text)
    (fail : EntryDefect → Defect) : entry label fail raw = .error (.defect (fail defect)) := by
  cases h with
  | shape h =>
    rw [entry.eq_def]
    split
    · exact absurd rfl (h _ _ _ _)
    · rfl
  | @locator locator flag scope more h =>
    rw [entry.eq_def]
    dsimp only
    split
    · exact absurd rfl (h _ (List.cons_ne_nil _ _))
    · rfl
  | @flag locator flag scope more hne h =>
    obtain ⟨c, locator, rfl⟩ := List.exists_cons_of_ne_nil hne
    cases flag with
    | int i => exact absurd (.int i) (h _)
    | bool b => exact absurd (.bool b) (h b)
    | _ => rfl
  | @scope locator flag scope link more hne hflag h =>
    obtain ⟨c, locator, rfl⟩ := List.exists_cons_of_ne_nil hne
    cases scope with
    | text t => exact absurd rfl (h t)
    | _ => cases hflag <;> rfl

theorem entries_eq_defect_iff {fail : Nat → EntryDefect → Defect} {j : Nat} :
    entries label fail j raws = .error (.defect d) ↔
      ∃ k defect, FirstFault raws k defect ∧ d = fail (j + k) defect := by
  induction raws generalizing j with
  | nil => exact ⟨nofun, fun ⟨_, _, h, _⟩ => nomatch h⟩
  | cons raw raws ih =>
    rw [entries]
    constructor
    · intro h
      cases he : entry label (fail j) raw with
      | error e =>
        rw [he] at h
        cases h
        obtain ⟨defect, hfaulty, rfl⟩ := faulty_of_entry he
        exact ⟨0, defect, .here hfaulty, rfl⟩
      | ok e =>
        rw [he] at h
        obtain ⟨k, defect, hfirst, rfl⟩ := ih.1 (map_eq_error_iff.1 h)
        have hvalid : ValidEntry raw := (validEntry_iff label).2 ⟨e, entry_sound he⟩
        refine ⟨k + 1, defect, .behind hvalid hfirst, ?_⟩
        rw [Nat.add_right_comm, Nat.add_assoc]
    · rintro ⟨_, defect, hfaulty | @⟨_, _, k, _, hvalid, hfirst⟩, rfl⟩
      · rw [entry_of_faulty hfaulty]
        rfl
      · obtain ⟨e, he⟩ := (validEntry_iff label).1 hvalid
        rw [entry_complete he]
        refine map_eq_error_iff.2 (ih.2 ⟨k, defect, hfirst, ?_⟩)
        rw [Nat.add_right_comm, Nat.add_assoc]

end Entries

/-- An item that is well formed up to its label: its token, its label as written and its raw
entries. -/
inductive Led : Value → Text → Text → List Value → Prop
  | mk {token label : Text} {raws : List Value} : token ≠ [] → label ≠ [] → raws ≠ [] →
      Led (.array [.text token, .array (.text label :: raws)]) token label raws

/-- The index of the item that a defect is in. -/
def Defect.item? : Defect → Option Nat
  | .notList => none
  | .item i | .token i | .body i _ | .label i _ | .duplicate i _ | .entry i _ _ _ => some i

theorem Defect.exists_message {d : Defect} {i : Nat} (h : d.item? = some i) :
    ∃ rest, d.message = place i ++ rest ∧ Text.Ends CodePoint.isDigit rest := by
  have hcolon : CodePoint.isDigit ':' = false := by decide
  have hblank : CodePoint.isDigit ' ' = false := by decide
  cases d with
  | notList => cases h
  | item | token =>
    cases h
    exact ⟨_, rfl, Text.ends_cons.2 hcolon⟩
  | _ =>
    cases h
    simp only [Defect.message, placeOf, List.append_assoc]
    exact ⟨_, rfl, Text.ends_cons.2 hblank⟩

section Items

variable {before rows : List Row} {item : Value} {items : List Value} {token label : Text}
  {raws : List Value} {d : Defect}

theorem row_of_led (h : Led item token label raws) : row before item =
    if before.any (·.1 == token) then .error (.defect (.duplicate before.length token))
    else match resolve label with
      | .error e => .error e
      | .ok resolved =>
        (entries resolved (.entry before.length token) 0 raws).map (token, ·) := by
  obtain ⟨htoken, hlabel, hraws⟩ := h
  obtain ⟨c, token, rfl⟩ := List.exists_cons_of_ne_nil htoken
  obtain ⟨d, label, rfl⟩ := List.exists_cons_of_ne_nil hlabel
  obtain ⟨raw, raws, rfl⟩ := List.exists_cons_of_ne_nil hraws
  rfl

theorem row_of_taken (h : Led item token label raws) (htaken : token ∈ before.map (·.1)) :
    row before item = .error (.defect (.duplicate before.length token)) := by
  have hany : before.any (·.1 == token) = true := by
    rw [← Bool.not_eq_false, any_token_eq_false_iff, not_not]
    exact htaken
  rw [row_of_led h, if_pos hany]

theorem row_of_new (h : Led item token label raws) (hnew : token ∉ before.map (·.1)) :
    row before item = match resolve label with
      | .error e => .error e
      | .ok resolved =>
        (entries resolved (.entry before.length token) 0 raws).map (token, ·) := by
  rw [row_of_led h, any_token_eq_false_iff.2 hnew, if_neg Bool.false_ne_true]

theorem row_eq_defect_iff (h : Led item token label raws) (hnew : token ∉ before.map (·.1)) :
    row before item = .error (.defect d) ↔ Convertible label ∧
      ∃ k defect, FirstFault raws k defect ∧ d = .entry before.length token k defect := by
  rw [row_of_new h hnew, convertible_iff]
  cases hr : resolve label with
  | error e =>
    constructor
    · rintro ⟨⟩
      exact absurd hr (resolve_ne_defect label d)
    · rintro ⟨⟨resolved, hresolved⟩, -⟩
      rw [resolve_eq_ok_iff.2 hresolved] at hr
      cases hr
  | ok resolved =>
    dsimp only
    rw [map_eq_error_iff, entries_eq_defect_iff, and_iff_right ⟨resolved, resolve_eq_ok_iff.1 hr⟩]
    simp only [Nat.zero_add]

theorem item?_of_row :
    row before item = .error (.defect d) → d.item? = some before.length := by
  fun_cases row before item with
  | case2 _ _ _ _ _ _ _ _ _ hr =>
    rintro ⟨⟩
    exact absurd hr (resolve_ne_defect _ d)
  | case3 =>
    intro h
    obtain ⟨k, defect, -, rfl⟩ := entries_eq_defect_iff.1 (map_eq_error_iff.1 h)
    rfl
  | _ =>
    rintro ⟨⟩
    rfl

theorem rowsFrom_append (h : rowsFrom before items = .ok rows) (more : List Value) :
    rowsFrom before (items ++ more) = rowsFrom rows more := by
  induction items generalizing before with
  | nil =>
    cases h
    rfl
  | cons item items ih =>
    rw [rowsFrom] at h
    rw [List.cons_append, rowsFrom]
    cases hr : row before item with
    | error e => rw [hr] at h; cases h
    | ok r =>
      rw [hr] at h
      exact ih h

theorem mem_tokens_iff (h : List.Forall₂ ReadsItem items rows) :
    token ∈ rows.map (·.1) ↔ ∃ body, .array [.text token, body] ∈ items := by
  induction h with
  | nil => simp
  | @cons item r items rows hitem _ ih =>
    obtain @⟨first, label, _, raws, entries, -, -, -, -, -⟩ := hitem
    rw [List.map_cons, List.mem_cons, ih]
    constructor
    · rintro (rfl | ⟨body, hbody⟩)
      · exact ⟨_, List.mem_cons_self⟩
      · exact ⟨body, List.mem_cons_of_mem _ hbody⟩
    · rintro ⟨body, hbody⟩
      obtain heq | hbody := List.mem_cons.1 hbody
      · cases heq
        exact .inl rfl
      · exact .inr ⟨body, hbody⟩

end Items

end Shape

namespace Load

open Shape

/-- How what is wrong with the data of a source is told. -/
def told (source : Text) : Shape.Error → LoadError
  | .defect d => .malformed source (.shape d)
  | .tooManyDigits e => .tooManyDigits e

section Items

variable {source name token label : Text} {items raws : List Value} {item : Value}
  {rows : List Row} {err : LoadError} {what : Malformed}

theorem told_eq_malformed_iff {e : Shape.Error} : told source e = .malformed name what ↔
    ∃ d, e = .defect d ∧ name = source ∧ what = .shape d := by
  cases e with
  | defect d => simp [told, eq_comm]
  | tooManyDigits e => simp [told]

theorem shape_eq_error_iff : shape source (.array items) = .error err ↔
    ∃ e, rowsFrom [] items = .error e ∧ told source e = err := by
  rw [shape, Shape.rows]
  cases rowsFrom [] items with
  | ok rows => simp
  | error e => cases e <;> simp [told]

theorem shape_append_eq_error_iff (h : shape source (.array items) = .ok rows)
    (more : List Value) : shape source (.array (items ++ more)) = .error err ↔
      ∃ e, rowsFrom rows more = .error e ∧ told source e = err := by
  rw [shape_eq_error_iff, rowsFrom_append (shape_eq_ok_iff.1 h)]

theorem rowsFrom_cons_eq_error {e : Shape.Error} (h : row rows item = .error e)
    (more : List Value) : rowsFrom rows (item :: more) = .error e := by
  rw [rowsFrom, h]

theorem rowsFrom_singleton_eq_error_iff {e : Shape.Error} :
    rowsFrom rows [item] = .error e ↔ row rows item = .error e := by
  rw [rowsFrom]
  cases row rows item <;> simp [rowsFrom]

theorem shape_concat_eq_error_iff (h : shape source (.array items) = .ok rows) :
    shape source (.array (items ++ [item])) = .error err ↔
      ∃ e, row rows item = .error e ∧ told source e = err := by
  simp only [shape_append_eq_error_iff h, rowsFrom_singleton_eq_error_iff]

theorem shape_concat_eq_malformed_iff (h : shape source (.array items) = .ok rows) :
    shape source (.array (items ++ [item])) = .error (.malformed name what) ↔
      ∃ d, row rows item = .error (.defect d) ∧ name = source ∧ what = .shape d := by
  simp only [shape_concat_eq_error_iff h, told_eq_malformed_iff]
  constructor
  · rintro ⟨_, he, d, rfl, hname, hwhat⟩
    exact ⟨d, he, hname, hwhat⟩
  · rintro ⟨d, he, hname, hwhat⟩
    exact ⟨_, he, d, rfl, hname, hwhat⟩

/-- Data without a defect, and one more item. A defect that it brings is told whatever comes behind
it, with the index of that item in front. If the item is well formed up to its label, it has to be
new to begin with; then the first of its entries that is not valid is told. If it brings no defect,
it becomes one more row behind the others. -/
theorem shape_first_defect (h : shape source (.array items) = .ok rows) (item : Value) :
    (∀ err, shape source (.array (items ++ [item])) = .error err →
      (∀ more, shape source (.array (items ++ [item] ++ more)) = .error err) ∧
      ∀ name what, err = .malformed name what → name = source ∧
        ∃ rest, err.message = source ++ ": " ++ place items.length ++ rest ∧
          Text.Ends CodePoint.isDigit rest) ∧
    (∀ token label raws, Led item token label raws →
      ((∃ body, .array [.text token, body] ∈ items) →
        shape source (.array (items ++ [item])) =
          .error (.malformed source (.shape (.duplicate items.length token)))) ∧
      ((∀ body, .array [.text token, body] ∉ items) → ∀ name what,
        shape source (.array (items ++ [item])) = .error (.malformed name what) ↔
          Convertible label ∧ ∃ k defect, FirstFault raws k defect ∧ name = source ∧
            what = .shape (.entry items.length token k defect) ∧
            what.message = placeOf items.length token ++ " entry " ++ Text.decimal k ++ ": " ++
              defect.message)) ∧
    ∀ out, shape source (.array (items ++ [item])) = .ok out →
      ∃ r, out = rows ++ [r] ∧ ReadsItem item r ∧ r.1 ∉ rows.map (·.1) := by
  have haccepted := rowsFrom_nil_eq_ok_iff.1 (shape_eq_ok_iff.1 h)
  have hlength : items.length = rows.length := haccepted.reads.length_eq
  refine ⟨fun err herr => ⟨fun more => ?_, ?_⟩, fun token label raws hled => ⟨?_, ?_⟩, ?_⟩
  · obtain ⟨e, he, htold⟩ := (shape_concat_eq_error_iff h).1 herr
    rw [List.append_assoc, shape_append_eq_error_iff h]
    exact ⟨e, rowsFrom_cons_eq_error he more, htold⟩
  · rintro name what rfl
    obtain ⟨d, hd, rfl, rfl⟩ := (shape_concat_eq_malformed_iff h).1 herr
    obtain ⟨rest, hmessage, hrest⟩ := Defect.exists_message (item?_of_row hd)
    refine ⟨rfl, rest, ?_, hrest⟩
    rw [LoadError.message, Malformed.message, hmessage, hlength, List.append_assoc (_ ++ _)]
  · intro htaken
    rw [← mem_tokens_iff haccepted.reads] at htaken
    rw [shape_concat_eq_malformed_iff h, hlength]
    exact ⟨_, row_of_taken hled htaken, rfl, rfl⟩
  · intro hnew name what
    rw [← not_exists, ← mem_tokens_iff haccepted.reads] at hnew
    rw [shape_concat_eq_malformed_iff h, hlength]
    simp only [row_eq_defect_iff hled hnew]
    constructor
    · rintro ⟨_, ⟨hlabel, k, defect, hfirst, rfl⟩, hname, rfl⟩
      exact ⟨hlabel, k, defect, hfirst, hname, rfl, rfl⟩
    · rintro ⟨hlabel, k, defect, hfirst, hname, hwhat, -⟩
      exact ⟨_, ⟨hlabel, k, defect, hfirst, rfl⟩, hname, hwhat⟩
  · intro out hout
    rw [shape_eq_ok_iff, rowsFrom_append (shape_eq_ok_iff.1 h), rowsFrom] at hout
    cases hr : row rows item with
    | error e => rw [hr] at hout; cases hout
    | ok r =>
      rw [hr] at hout
      obtain ⟨hitem, hnew⟩ := row_sound hr
      exact ⟨r, (Except.ok.inj hout).symm, hitem, hnew⟩

end Items

/-- An item with a new token, the second of its entries none at all. -/
def faultyItem : Value :=
  .array [.text "b", .array [.text "B", .array [.text "y.html", .int 0, .text []], .null]]

/-- An item with a token that is taken, and with no good entry either. -/
def takenItem : Value := .array [.text "a", .array [.text "B", .null]]

theorem shape_first_defect_samples :
    (∀ more, shape "<list>" (.array ([oneEntry "a" "A" "x.html" []] ++ [faultyItem] ++ more)) =
      .error (.malformed "<list>" (.shape (.entry 1 "b" 1 .shape)))) ∧
    ∀ more, shape "<list>" (.array ([oneEntry "a" "A" "x.html" []] ++ [takenItem] ++ more)) =
      .error (.malformed "<list>" (.shape (.duplicate 1 "a"))) := by
  have h : shape "<list>" (.array [oneEntry "a" "A" "x.html" []]) =
      .ok [("a", [⟨"A", "x.html", [], true⟩])] := by cbv
  have hne {α : Type} {a : α} {l : List α} : a :: l ≠ [] := List.cons_ne_nil a l
  obtain ⟨hfaulty, hled, -⟩ := shape_first_defect h faultyItem
  obtain ⟨htaken, hagain, -⟩ := shape_first_defect h takenItem
  constructor
  · refine (hfaulty _ (((hled "b" "B" _ (.mk hne hne hne)).2 ?_ _ _).2 ?_)).1
    · intro body hbody
      cases List.mem_singleton.1 hbody
    · have hlabel : Convertible "B" := convertible_iff.2 ⟨"B", by cbv⟩
      have hvalid : ValidEntry (.array [.text "y.html", .int 0, .text []]) :=
        .mk [] hne (.int 0) (convertible_iff.2 ⟨[], by cbv⟩)
      have hnull : Faulty .null .shape := .shape (by rintro _ _ _ _ ⟨⟩)
      exact ⟨hlabel, 1, .shape, .behind hvalid (.here hnull), rfl, rfl, rfl⟩
  · exact (htaken _ ((hagain "a" "B" _ (.mk hne hne hne)).1 ⟨_, List.mem_singleton.2 rfl⟩)).1

end Load

end TokenIndex
