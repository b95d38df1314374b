import TokenIndex.Proofs.Literal.Document
import TokenIndex.Proofs.Text.Decimal

namespace TokenIndex.Literal

open Literal.Grammar

/-- These digits stand in a text and are more than are converted. -/
structure TooLong (s run : Text) : Prop where
  stands : run <:+: s
  digits : ∀ c ∈ run, c.isDigit = true
  long : TooManyDigits.limit < run.length

theorem TooLong.mono {s u run : Text} (h : TooLong s run) (hs : s <:+: u) : TooLong u run :=
  ⟨h.stands.trans hs, h.digits, h.long⟩

theorem escape_ne_tooManyDigits (s : Text) (e : TooManyDigits) :
    escape s ≠ .error (.tooManyDigits e) := by
  fun_cases escape s <;> exact nofun

theorem string_ne_tooManyDigits (quote : CodePoint) (s : Text) (e : TooManyDigits) :
    string quote s ≠ .error (.tooManyDigits e) := by
  fun_induction string quote s with
  | case3 r fault hfault =>
    rintro ⟨⟩
    exact escape_ne_tooManyDigits r e hfault
  | case4 r _ _ _ fault hfault _ ih =>
    rintro ⟨⟩
    exact ih hfault
  | case7 c r _ _ _ fault hfault ih =>
    rintro ⟨⟩
    exact ih hfault
  | _ => rintro ⟨⟩

theorem number_eq_error_iff {negative : Bool} {digits : List Nat} {e : TooManyDigits} :
    number negative digits = .error (.tooManyDigits e) ↔
      TooManyDigits.limit < digits.length ∧ e = ⟨digits.length⟩ := by
  rw [← Text.convertDigits_eq_error_iff, number]
  cases Text.convertDigits digits <;> simp

theorem exists_tooLong_of_scalar {s : Text} {e : TooManyDigits}
    (h : scalar s = .error (.tooManyDigits e)) : ∃ run, TooLong s run ∧ e = ⟨run.length⟩ := by
  cases s with
  | nil => cases h
  | cons c r =>
    by_cases hq : c = '\'' ∨ c = '"'
    · rw [scalar, if_pos hq] at h
      exact absurd (map_eq_error_iff.1 h) (string_ne_tooManyDigits c r e)
    cases hd : digits? (c :: r) with
    | none =>
      rw [scalar, if_neg hq, hd] at h
      dsimp only at h
      split at h <;> cases h
    | some p =>
      obtain ⟨negative, values, rest⟩ := p
      rw [scalar_of_digits hq hd] at h
      obtain ⟨hlong, he⟩ := number_eq_error_iff.1 (map_eq_error_iff.1 h)
      obtain ⟨run, hrun, -, hdigits⟩ := digits?_sound hd
      rw [hdigits.length_eq] at hlong he
      refine ⟨run, ⟨?_, hdigits.isDigit, hlong⟩, he⟩
      rw [hrun]
      have hsigned : run <:+ signed negative run := by
        cases negative
        · exact List.suffix_refl run
        · exact List.suffix_cons _ _
      exact hsigned.isInfix.trans (List.prefix_append _ _).isInfix

theorem dropBlank_suffix (s : Text) : s.dropBlank <:+ s := List.dropWhile_suffix _

theorem item_suffix {s rest : Text} {v : Value} (h : item s = .ok (v, rest)) : rest <:+ s := by
  obtain ⟨x, rfl, -⟩ := item_sound h
  exact List.suffix_append x rest

theorem item_error_cases {s : Text} {fault : Fault} (h : item s = .error fault) :
    (∃ r, s = ('[' : CodePoint) :: r ∧ items r = .error fault) ∨ scalar s = .error fault := by
  cases s with
  | nil => exact .inr h
  | cons c r =>
    rw [item] at h
    split_ifs at h with hc
    · exact .inl ⟨r, by rw [hc], map_eq_error_iff.1 h⟩
    · exact .inr h

theorem exists_items_of_itemsAfter {v : Value} {t : Text} {e : TooManyDigits}
    (h : itemsAfter v t = .error (.tooManyDigits e)) :
    ∃ u, t = (',' : CodePoint) :: u ∧ items u = .error (.tooManyDigits e) := by
  cases t with
  | nil => cases h
  | cons d u =>
    rw [itemsAfter] at h
    split_ifs at h with hclose hcomma
    · exact ⟨u, by rw [hcomma], map_eq_error_iff.1 h⟩
    · cases h

theorem items_error_cases {s : Text} {e : TooManyDigits}
    (h : items s = .error (.tooManyDigits e)) :
    (∃ r, ('[' : CodePoint) :: r <:+ s ∧ items r = .error (.tooManyDigits e)) ∨
      (∃ u, (',' : CodePoint) :: u <:+ s ∧ items u = .error (.tooManyDigits e)) ∨
      scalar s.dropBlank = .error (.tooManyDigits e) := by
  have hsuffix := dropBlank_suffix s
  rw [items_eq] at h
  cases hd : s.dropBlank with
  | nil => rw [hd] at h; cases h
  | cons c r =>
    rw [hd] at h hsuffix
    rw [itemsFrom] at h
    split_ifs at h with hc
    cases hi : item (c :: r) with
    | error fault =>
      rw [hi] at h
      cases h
      obtain ⟨r', hr, he⟩ | hs := item_error_cases hi
      · exact .inl ⟨r', hr ▸ hsuffix, he⟩
      · exact .inr (.inr hs)
    | ok p =>
      rw [hi] at h
      obtain ⟨u, hu, he⟩ := exists_items_of_itemsAfter h
      have hafter : p.2.dropBlank <:+ s :=
        ((dropBlank_suffix p.2).trans (item_suffix hi)).trans hsuffix
      exact .inr (.inl ⟨u, hu ▸ hafter, he⟩)

theorem exists_tooLong_of_items {s : Text} {e : TooManyDigits}
    (h : items s = .error (.tooManyDigits e)) : ∃ run, TooLong s run ∧ e = ⟨run.length⟩ := by
  -- on the length: a nested array and what follows an item are both read from further on
  induction hn : s.length using Nat.strongRecOn generalizing s with
  | _ n ih =>
    subst hn
    have hfurther : ∀ c r, c :: r <:+ s → items r = .error (.tooManyDigits e) →
        ∃ run, TooLong s run ∧ e = ⟨run.length⟩ := by
      intro c r hsuffix hr
      obtain ⟨run, hrun, he⟩ := ih r.length hsuffix.length_le hr rfl
      exact ⟨run, hrun.mono ((List.suffix_cons c r).trans hsuffix).isInfix, he⟩
    obtain ⟨r, hsuffix, hr⟩ | ⟨u, hsuffix, hu⟩ | hs := items_error_cases h
    · exact hfurther _ r hsuffix hr
    · exact hfurther _ u hsuffix hu
    · obtain ⟨run, hrun, he⟩ := exists_tooLong_of_scalar hs
      exact ⟨run, hrun.mono (dropBlank_suffix s).isInfix, he⟩

theorem elements_eq_error_iff {r : Text} {fault : Fault} :
    elements r = .error fault ↔ items r = .error fault :=
  map_eq_error_iff.symm

theorem opening_suffix (s : Text) : ((afterAssignment? s).getD s).dropBlank <:+ s := by
  obtain ⟨a, w, hs, -, -⟩ := exists_opening s
  exact ⟨a ++ w, hs.symm⟩

theorem items_of_document {s : Text} {e : TooManyDigits}
    (h : document s = .error (.tooManyDigits e)) :
    ∃ r, ('[' : CodePoint) :: r <:+ s ∧ items r = .error (.tooManyDigits e) := by
  have hsuffix := opening_suffix s
  rw [document] at h
  split at h
  · cases h
  · rename_i c r hopen
    rw [hopen] at hsuffix
    split_ifs at h with hc
    · split at h
      · rename_i fault hr
        cases h
        exact ⟨r, hc ▸ hsuffix, elements_eq_error_iff.1 hr⟩
      · split at h <;> cases h
    · cases h

theorem exists_tooLong {s : Text} {e : TooManyDigits} (h : parse s = .error (.tooManyDigits e)) :
    ∃ run, TooLong s run ∧ e = ⟨run.length⟩ := by
  have hdocument : document s = .error (.tooManyDigits e) := by
    rw [parse] at h
    split at h
    · cases h
    · cases h
    · rename_i hd
      cases h
      exact hd
  obtain ⟨r, hsuffix, hr⟩ := items_of_document hdocument
  obtain ⟨run, hrun, he⟩ := exists_tooLong_of_items hr
  exact ⟨run, hrun.mono ((List.suffix_cons _ r).trans hsuffix).isInfix, he⟩

section Run

variable {run rest : Text}

theorem exists_digits (h : ∀ c ∈ run, c.isDigit = true) : ∃ values, Digits run values := by
  have hall := Text.takeWhile_run h (Text.ends_nil _)
  rw [List.append_nil] at hall
  exact ⟨_, hall ▸ digits_takeWhile run⟩

theorem scalar_tooLong (hdigits : ∀ c ∈ run, c.isDigit = true)
    (hlong : TooManyDigits.limit < run.length) (hrest : Text.Ends CodePoint.isDigit rest) :
    scalar (run ++ rest) = .error (.tooManyDigits ⟨run.length⟩) := by
  obtain ⟨values, hvalues⟩ := exists_digits hdigits
  cases run with
  | nil => exact absurd hlong (Nat.not_lt_zero _)
  | cons c run =>
    have hd : digits? (c :: run ++ rest) = some (false, values, rest) :=
      digits?_complete false (List.cons_ne_nil c run) hvalues hrest
    have hq : ¬(c = '\'' ∨ c = '"') := by
      have hc := hdigits c List.mem_cons_self
      rintro (rfl | rfl) <;> exact absurd hc (by decide)
    rw [List.cons_append] at hd ⊢
    rw [← hvalues.length_eq] at hlong
    rw [scalar_of_digits hq hd, number_eq_error_iff.2 ⟨hlong, rfl⟩, hvalues.length_eq]
    rfl

theorem items_tooLong (hdigits : ∀ c ∈ run, c.isDigit = true)
    (hlong : TooManyDigits.limit < run.length) (hrest : Text.Ends CodePoint.isDigit rest) :
    items (run ++ rest) = .error (.tooManyDigits ⟨run.length⟩) := by
  have hscalar := scalar_tooLong hdigits hlong hrest
  cases run with
  | nil => exact absurd hlong (Nat.not_lt_zero _)
  | cons c run =>
    have hc := hdigits c List.mem_cons_self
    have hblank : c.isBlank = false := by
      rw [← Bool.not_eq_true]
      intro hb
      rw [CodePoint.not_isDigit_of_isBlank hb] at hc
      cases hc
    have hopen : c ≠ '[' := by
      rintro rfl
      exact absurd hc (by decide)
    have hclose : c ≠ ']' := by
      rintro rfl
      exact absurd hc (by decide)
    have hdrop : Text.dropBlank (c :: run ++ rest) = c :: run ++ rest := by
      rw [List.cons_append, Text.dropBlank, List.dropWhile_cons, hblank, if_neg Bool.false_ne_true]
    rw [items_eq, hdrop]
    rw [List.cons_append] at hscalar ⊢
    rw [itemsFrom, if_neg hclose, item, if_neg hopen, hscalar]

/-- An array that begins with a number too long is not read, whatever follows the number. -/
theorem parse_tooLong (hdigits : ∀ c ∈ run, c.isDigit = true)
    (hlong : TooManyDigits.limit < run.length) (hrest : Text.Ends CodePoint.isDigit rest) :
    parse (('[' : CodePoint) :: (run ++ rest)) = .error (.tooManyDigits ⟨run.length⟩) := by
  have hdocument : document (('[' : CodePoint) :: (run ++ rest)) =
      .error (.tooManyDigits ⟨run.length⟩) :=
    document_of_items_error (a := []) (w := []) (.inl rfl) nofun
      (items_tooLong hdigits hlong hrest)
  rw [parse, hdocument]

end Run

end TokenIndex.Literal
