import TokenIndex.Proofs.Literal.Digits

namespace TokenIndex.Literal

open Literal.Grammar

/-- Causes that lie in one code point and what is before it, and that no continuation removes. -/
def Cause.isFinal : Cause → Bool
  | .expectedSeparator _ => true
  | .newlineInString => true
  | .trailingData => true
  | _ => false

/-- Whether some continuation of a text spells a value. -/
def Begins {β : Type} (spells : Text → β → Prop) (t : Text) : Prop :=
  ∃ (more : Text) (v : β), spells (t ++ more) v

theorem Begins.of_spells {β : Type} {spells : Text → β → Prop} {t : Text} {v : β}
    (h : spells t v) : Begins spells t :=
  ⟨[], v, by rwa [List.append_nil]⟩

/-- A reader stops where `left` code points remain: what is before them begins something that
spells a value, and a final cause is found there whatever follows the next code point. -/
def Stops {α β : Type} (read : Text → Except Fault α) (spells : Text → β → Prop) (cause : Cause)
    (s : Text) (left : Nat) : Prop :=
  ∃ used rest : Text, s = used ++ rest ∧ left = rest.length ∧ Begins spells used ∧
    (cause.isFinal = true → ∃ c r, rest = c :: r ∧
      ∀ r', read (used ++ c :: r') = .error (.defect cause (r'.length + 1)))

section Stops

variable {α α' β β' : Type} {read : Text → Except Fault α} {read' : Text → Except Fault α'}
  {spells : Text → β → Prop} {spells' : Text → β' → Prop} {cause : Cause} {s : Text} {left : Nat}

theorem Stops.lift (lead : Text) (h : Stops read spells cause s left)
    (hspells : ∀ t v, spells t v → Begins spells' (lead ++ t))
    (hread : ∀ t fault, t.head? = s.head? → read t = .error fault →
      read' (lead ++ t) = .error fault) :
    Stops read' spells' cause (lead ++ s) left := by
  obtain ⟨used, rest, rfl, rfl, ⟨more, v, hv⟩, hfinal⟩ := h
  refine ⟨lead ++ used, rest, (List.append_assoc ..).symm, rfl, ?_, fun hc => ?_⟩
  · obtain ⟨more', v', hv'⟩ := hspells _ v hv
    refine ⟨more ++ more', v', ?_⟩
    simpa using hv'
  · obtain ⟨c, r, rfl, hr⟩ := hfinal hc
    refine ⟨c, r, rfl, fun r' => ?_⟩
    rw [List.append_assoc]
    refine hread _ _ ?_ (hr r')
    rw [List.head?_append, List.head?_append, List.head?_cons, List.head?_cons]

theorem stops_of_not_isFinal {rest : Text} (hc : cause.isFinal = false) (h : Begins spells s) :
    Stops read spells cause (s ++ rest) rest.length :=
  ⟨s, rest, rfl, rfl, h, fun hfinal => by rw [hc] at hfinal; cases hfinal⟩

end Stops

theorem escape_error {s : Text} {cause : Cause} {left : Nat}
    (h : escape s = .error (.defect cause left)) : cause.isFinal = false ∧ left = s.length := by
  revert h
  fun_cases escape s with
  | case1 | case3 =>
    rintro ⟨⟩
    exact ⟨rfl, rfl⟩
  | _ => rintro ⟨⟩

theorem after?_of_carriageReturn {m rest : Text} (h : escape ("\r" ++ rest) = .ok (m, rest)) :
    Text.after? "\n" rest = none := by
  have he : escape ("\r" ++ rest) = .ok ([], (Text.after? "\n" rest).getD rest) := rfl
  rw [he] at h
  cases ha : Text.after? "\n" rest with
  | none => rfl
  | some t =>
    rw [ha] at h
    obtain rfl : t = rest := (Prod.mk.inj (Except.ok.inj h)).2
    have hlength := Text.after?_length ha
    exact absurd hlength (by simp [Text.ofString])

theorem exists_escape {s m rest : Text} (h : escape s = .ok (m, rest)) :
    ∃ e, s = e ++ rest ∧ Escape e m ∧
      ∀ rest', rest'.head? = rest.head? → escape (e ++ rest') = .ok (m, rest') := by
  obtain ⟨e, rfl, hm⟩ := escape_sound h
  refine ⟨e, rfl, hm, fun rest' hhead => escape_complete hm ?_⟩
  rintro rfl
  have hends := Text.after?_singleton_eq_none_iff.1 (after?_of_carriageReturn h)
  exact Text.after?_singleton_eq_none_iff.2 (hends.of_head? hhead)

theorem begins_characters_backslash (q : CodePoint) : Begins (Characters q) "\\" :=
  ⟨"n", _, .escape (t := []) (.character (by decide) (by decide) (by decide) (by decide)) .nil⟩

theorem string_stops {q : CodePoint} {s : Text} {cause : Cause} {left : Nat}
    (h : string q s = .error (.defect cause left)) :
    Stops (string q) (Characters q) cause s left := by
  fun_induction string q s with
  | case1 =>
    cases h
    exact stops_of_not_isFinal (s := []) rfl (.of_spells .nil)
  | case2 => cases h
  | case3 r fault he hq =>
    cases h
    obtain ⟨hc, rfl⟩ := escape_error he
    exact stops_of_not_isFinal hc (begins_characters_backslash q)
  | case4 r chars r' he fault hs hq ih =>
    cases h
    obtain ⟨e, rfl, hm, hescape⟩ := exists_escape he
    refine (ih hs).lift ('\\' :: e) ?_ ?_
    · intro t v ht
      exact .of_spells (.escape hm ht)
    · intro t fault hhead ht
      rw [List.cons_append, string_escape hq (hescape t hhead), ht]
      rfl
  | case5 => cases h
  | case6 r hq hb =>
    cases h
    refine ⟨[], _, rfl, rfl, .of_spells .nil, fun _ => ⟨_, r, rfl, fun r' => ?_⟩⟩
    rw [List.nil_append, string, if_neg hq, if_neg hb, if_pos rfl]
  | case7 c r hq hb hn fault hs ih =>
    cases h
    refine (ih hs).lift [c] ?_ ?_
    · intro t v ht
      exact .of_spells (.plain hq hb hn ht)
    · intro t fault hhead ht
      rw [List.singleton_append, string_plain hq hb hn, ht]
      rfl
  | case8 => cases h

theorem digits?_ends {s rest : Text} {negative : Bool} {values : List Nat}
    (h : digits? s = some (negative, values, rest)) : Text.Ends CodePoint.isDigit rest := by
  obtain ⟨sign, body, rfl, hbody⟩ := exists_signed s
  rw [digits?_signed hbody] at h
  split at h
  · cases h
  · cases h
    exact Text.ends_dropWhile _ body

theorem keyword?_ne_int {s rest : Text} {i : Int} : keyword? s ≠ some (.int i, rest) := by
  intro h
  obtain ⟨⟨word, w⟩, hmem, hword⟩ := List.exists_of_findSome?_eq_some h
  obtain ⟨r, -, heq⟩ := Option.map_eq_some_iff.1 hword
  cases heq
  simp [keywords] at hmem

theorem scalar_ends {s rest : Text} {i : Int} (h : scalar s = .ok (.int i, rest)) :
    Text.Ends CodePoint.isDigit rest := by
  cases s with
  | nil => cases h
  | cons c r =>
    by_cases hq : c = '\'' ∨ c = '"'
    · rw [scalar, if_pos hq] at h
      obtain ⟨p, -, hp⟩ := map_eq_ok_iff.1 h
      cases hp
    cases hd : digits? (c :: r) with
    | some p =>
      rw [scalar_of_digits hq hd] at h
      obtain ⟨v, -, hv⟩ := map_eq_ok_iff.1 h
      cases hv
      exact digits?_ends hd
    | none => exact absurd (keyword?_of_scalar hq hd h) keyword?_ne_int

theorem number_ne_defect (negative : Bool) (values : List Nat) (cause : Cause) (left : Nat) :
    number negative values ≠ .error (.defect cause left) := by
  rw [number]
  cases Text.convertDigits values <;> rintro ⟨⟩

theorem scalar_stops {s : Text} {cause : Cause} {left : Nat}
    (h : scalar s = .error (.defect cause left)) : Stops scalar Scalar cause s left := by
  have hbegins : Begins Scalar [] := ⟨"null", .null, .null⟩
  cases s with
  | nil =>
    cases h
    exact stops_of_not_isFinal (s := []) rfl hbegins
  | cons c r =>
    by_cases hq : c = '\'' ∨ c = '"'
    · rw [scalar, if_pos hq] at h
      refine (string_stops (map_eq_error_iff.1 h)).lift [c] ?_ ?_
      · intro t v ht
        exact ⟨[c], .text v, .string hq ht⟩
      · intro t fault _ ht
        rw [List.singleton_append, scalar, if_pos hq, ht]
        rfl
    cases hd : digits? (c :: r) with
    | some p =>
      rw [scalar_of_digits hq hd] at h
      exact absurd (map_eq_error_iff.1 h) (number_ne_defect _ _ _ _)
    | none =>
      rw [scalar, if_neg hq, hd] at h
      dsimp only at h
      split at h
      · cases h
      · cases h
        exact stops_of_not_isFinal (s := []) rfl hbegins

theorem exists_item {s rest : Text} {v : Value} (h : item s = .ok (v, rest)) :
    ∃ x, s = x ++ rest ∧ Item x v ∧
      ∀ rest', rest'.head? = rest.head? → item (x ++ rest') = .ok (v, rest') := by
  obtain ⟨x, rfl, hx⟩ := item_sound h
  refine ⟨x, rfl, hx, fun rest' hhead => item_complete hx ?_⟩
  rintro i rfl
  obtain ⟨r, vs, -, -, hv⟩ | hs := item_cases h
  · cases hv
  · exact (scalar_ends hs).of_head? hhead

theorem item_of_head? {s : Text} (h : s.head? ≠ some ('[' : CodePoint)) : item s = scalar s := by
  cases s with
  | nil => rfl
  | cons c r =>
    have hc : c ≠ '[' := fun hc => h (by rw [hc, List.head?_cons])
    rw [item, if_neg hc]

theorem item_stops {s : Text} {cause : Cause} {left : Nat}
    (hitems : ∀ r, s = ('[' : CodePoint) :: r → items r = .error (.defect cause left) →
      Stops items Elements cause r left)
    (h : item s = .error (.defect cause left)) : Stops item Item cause s left := by
  by_cases hs : s.head? = some ('[' : CodePoint)
  · obtain ⟨r, rfl⟩ := List.head?_eq_some_iff.1 hs
    rw [item, if_pos rfl] at h
    refine (hitems r rfl (map_eq_error_iff.1 h)).lift [('[' : CodePoint)] ?_ ?_
    · intro t vs ht
      exact ⟨[(']' : CodePoint)], .array vs, .array ht⟩
    · intro t fault _ ht
      rw [List.singleton_append, item, if_pos rfl, ht]
      rfl
  · rw [item_of_head? hs] at h
    refine (scalar_stops h).lift [] ?_ ?_
    · intro t v ht
      exact .of_spells (.scalar ht)
    · intro t fault hhead ht
      rw [List.nil_append, item_of_head? (hhead ▸ hs), ht]

section Items

variable {w x z : Text} {v : Value} {cause : Cause} {left : Nat}

theorem Stops.first {c : CodePoint} {r : Text} (hw : Blanks w) (hblank : c.isBlank = false)
    (hclose : c ≠ ']') (h : Stops item Item cause (c :: r) left) :
    Stops items Elements cause (w ++ c :: r) left := by
  refine h.lift w ?_ ?_
  · intro t v ht
    have hone := Elements.last hw ht (z := []) nofun
    rw [List.append_nil] at hone
    exact .of_spells hone
  · intro t fault hhead ht
    obtain ⟨r', rfl⟩ := List.head?_eq_some_iff.1 hhead
    rw [items_eq, dropBlank_blanks hw (Text.ends_cons.2 hblank), itemsFrom, if_neg hclose, ht]

theorem itemsAfter_stops {t : Text} (hw : Blanks w) (hx : Item x v) (hz : Blanks z)
    (hitems : ∀ u, t = (',' : CodePoint) :: u → items u = .error (.defect cause left) →
      Stops items Elements cause u left)
    (h : itemsAfter v t = .error (.defect cause left)) :
    Stops (itemsAfter v) (fun t => Elements (w ++ x ++ z ++ t)) cause t left := by
  have hlast : Begins (fun t => Elements (w ++ x ++ z ++ t)) [] :=
    .of_spells (by rw [List.append_nil]; exact .last hw hx hz)
  cases t with
  | nil =>
    cases h
    exact stops_of_not_isFinal (s := []) rfl hlast
  | cons d u =>
    rw [itemsAfter] at h
    split_ifs at h with hclose hcomma
    · subst hcomma
      refine (hitems u rfl (map_eq_error_iff.1 h)).lift [(',' : CodePoint)] ?_ ?_
      · intro r vs hr
        exact .of_spells (.more hw hx hz hr)
      · intro r fault _ hr
        rw [List.singleton_append, itemsAfter, if_neg hclose, if_pos rfl, hr]
        rfl
    · cases h
      refine ⟨[], _, rfl, rfl, hlast, fun _ => ⟨d, u, rfl, fun r' => ?_⟩⟩
      rw [List.nil_append, itemsAfter, if_neg hclose, if_neg hcomma]

theorem Stops.after {t : Text} (hw : Blanks w) (hx : Item x v) (hz : Blanks z)
    (ht : Text.Ends CodePoint.isBlank t)
    (hread : ∀ rest, rest.head? = (z ++ t).head? → item (x ++ rest) = .ok (v, rest))
    (h : Stops (itemsAfter v) (fun t => Elements (w ++ x ++ z ++ t)) cause t left) :
    Stops items Elements cause (w ++ x ++ z ++ t) left := by
  refine h.lift _ ?_ ?_
  · intro u vs hu
    exact .of_spells hu
  · intro u fault hhead hu
    have hitem : item (x ++ (z ++ u)) = .ok (v, z ++ u) := by
      apply hread
      rw [List.head?_append, List.head?_append, hhead]
    rw [List.append_assoc, items_item hw hx hitem, dropBlank_blanks hz (ht.of_head? hhead), hu]

theorem items_stops {s : Text} (h : items s = .error (.defect cause left)) :
    Stops items Elements cause s left := by
  -- on the length: a nested array and what follows a comma are read by the same reader
  induction hn : s.length using Nat.strongRecOn generalizing s with
  | _ n ih =>
    subst hn
    obtain ⟨w, t, rfl, hw, hblank⟩ := exists_blanks_ends s
    rw [items_eq, dropBlank_blanks hw hblank] at h
    cases t with
    | nil =>
      cases h
      exact stops_of_not_isFinal rfl (.of_spells (.none hw))
    | cons c r =>
    rw [itemsFrom] at h
    split_ifs at h with hclose
    cases hi : item (c :: r) with
    | error fault =>
      rw [hi] at h
      cases h
      have hnested (r' : Text) (hr : c :: r = ('[' : CodePoint) :: r')
          (hr' : items r' = .error (.defect cause left)) : Stops items Elements cause r' left :=
        ih r'.length (by simp [hr]; omega) hr' rfl
      exact (item_stops hnested hi).first hw (Text.ends_cons.1 hblank) hclose
    | ok p =>
      obtain ⟨v, t⟩ := p
      obtain ⟨z, t, rfl, hz, hend⟩ := exists_blanks_ends t
      obtain ⟨x, hx, hv, hread⟩ := exists_item hi
      have hlength := item_length hi
      rw [hi] at h
      dsimp only at h
      rw [dropBlank_blanks hz hend] at h
      have hfurther (u : Text) (hu : t = (',' : CodePoint) :: u)
          (hu' : items u = .error (.defect cause left)) : Stops items Elements cause u left := by
        refine ih u.length ?_ hu' rfl
        simp [hu] at hlength ⊢
        omega
      rw [hx, ← List.append_assoc, ← List.append_assoc]
      exact (itemsAfter_stops hw hv hz hfurther h).after hw hv hz hend hread

end Items

theorem exists_trailing {t r : Text} {c : CodePoint} (h : afterSemicolon t = c :: r) :
    ∃ z, t = z ++ c :: r ∧ afterSemicolon z = [] ∧
      ∀ r', afterSemicolon (z ++ c :: r') = c :: r' := by
  obtain ⟨z, t, rfl, hz, hend⟩ := exists_blanks_ends t
  cases hu : Text.after? ";" t with
  | some u =>
    obtain rfl : t = (';' : CodePoint) :: u := Text.after?_eq_some_iff.1 hu
    obtain ⟨x, u, rfl, hx, hend⟩ := exists_blanks_ends u
    rw [afterSemicolon_of_semicolon hz, dropBlank_blanks hx hend] at h
    subst h
    refine ⟨z ++ (';' : CodePoint) :: x, by simp, ?_, fun r' => ?_⟩
    · rw [afterSemicolon_of_semicolon hz, ← List.append_nil x]
      exact dropBlank_blanks hx (Text.ends_nil _)
    · rw [List.append_assoc, List.cons_append, afterSemicolon_of_semicolon hz]
      exact dropBlank_blanks hx (hend.of_head? rfl)
  | none =>
    rw [afterSemicolon_of_ends hz hend hu] at h
    subst h
    refine ⟨z, rfl, ?_, fun r' => ?_⟩
    · have hnil := afterSemicolon_of_ends hz (Text.ends_nil _) rfl
      rwa [List.append_nil] at hnil
    · have hnone := (Text.after?_singleton_eq_none_iff.1 hu).of_head? (t := c :: r') rfl
      exact afterSemicolon_of_ends hz (hend.of_head? rfl)
        (Text.after?_singleton_eq_none_iff.2 hnone)

section Opening

variable {a w : Text}

theorem begins_document (ha : a = [] ∨ Assignment a) (hw : Blanks w) :
    Begins Document (a ++ w) := by
  have hdoc := Document.mk ha hw (.none (w := []) nofun) (z := []) nofun (.inl rfl)
  exact ⟨"[]", [], by simpa [Text.ofString] using hdoc⟩

theorem document_bracket_stops {r : Text} {cause : Cause} {left : Nat}
    (ha : a = [] ∨ Assignment a) (hw : Blanks w)
    (h : document (a ++ w ++ ('[' : CodePoint) :: r) = .error (.defect cause left)) :
    Stops document Document cause (a ++ w ++ ('[' : CodePoint) :: r) left := by
  cases hi : items r with
  | error fault =>
    rw [document_of_items_error ha hw hi] at h
    cases h
    rw [← List.singleton_append, ← List.append_assoc]
    refine (items_stops hi).lift _ ?_ ?_
    · intro t vs ht
      have hdoc := Document.mk ha hw ht (z := []) nofun (.inl rfl)
      exact ⟨[(']' : CodePoint)], vs, by simpa using hdoc⟩
    · intro t fault _ ht
      rw [List.append_assoc _ [('[' : CodePoint)], List.singleton_append,
        document_of_items_error ha hw ht]
  | ok p =>
    obtain ⟨vs, t⟩ := p
    rw [document_of_items ha hw hi] at h
    cases hrest : afterSemicolon t with
    | nil => rw [hrest] at h; cases h
    | cons c r' =>
      rw [hrest] at h
      cases h
      obtain ⟨x, rfl, hx⟩ := items_sound hi
      obtain ⟨z, rfl, hz, htrail⟩ := exists_trailing hrest
      have hassoc (y : Text) : a ++ w ++ ('[' : CodePoint) :: (x ++ (']' : CodePoint) :: z) ++ y =
          a ++ w ++ ('[' : CodePoint) :: (x ++ (']' : CodePoint) :: (z ++ y)) := by simp
      refine ⟨_, c :: r', (hassoc _).symm, rfl, ?_, fun _ => ⟨c, r', rfl, fun r'' => ?_⟩⟩
      · refine .of_spells (v := vs) (document_eq_ok_iff.1 ?_)
        rw [document_of_items ha hw (items_complete hx z), hz, finish]
      · rw [hassoc, document_of_items ha hw (items_complete hx _), htrail, finish]

end Opening

theorem document_stops {s : Text} {cause : Cause} {left : Nat}
    (h : document s = .error (.defect cause left)) : Stops document Document cause s left := by
  obtain ⟨a, w, hs, ha, hw⟩ := exists_opening s
  cases hopen : ((afterAssignment? s).getD s).dropBlank with
  | nil =>
    rw [document, hopen] at h
    cases h
    rw [hs, hopen]
    exact stops_of_not_isFinal rfl (begins_document ha hw)
  | cons c r =>
    rw [hopen] at hs
    by_cases hc : c = '['
    · subst hc
      rw [hs] at h ⊢
      exact document_bracket_stops ha hw h
    · rw [document, hopen] at h
      dsimp only at h
      rw [if_neg hc] at h
      cases h
      rw [hs]
      exact stops_of_not_isFinal rfl (begins_document ha hw)

/-- Whether some continuation of a text is read. -/
def Viable (t : Text) : Prop := ∃ more vs, parse (t ++ more) = .ok vs

theorem viable_iff {t : Text} : Viable t ↔ Begins Document t := by
  simp only [Viable, Begins, parse_eq_ok_iff_document, document_eq_ok_iff]

theorem parse_eq_defect_iff {s : Text} {cause : Cause} {offset : Nat} :
    parse s = .error (.defect cause offset) ↔
      ∃ left, document s = .error (.defect cause left) ∧ offset = s.length - left := by
  rw [parse]
  constructor
  · intro h
    split at h
    · cases h
    · rename_i hd
      cases h
      exact ⟨_, hd, rfl⟩
    · cases h
  · rintro ⟨left, hd, rfl⟩
    rw [hd]

/-- What is before the offset of a defect begins a text that is read. For a final cause there is a
code point at the offset, and every text that goes so far is refused in the same way. -/
theorem parse_defect_offset {text : Text} {cause : Cause} {offset : Nat}
    (h : parse text = .error (.defect cause offset)) :
    offset ≤ text.length ∧ Viable (text.take offset) ∧
      (cause.isFinal = true → offset < text.length ∧
        ∀ more, parse (text.take (offset + 1) ++ more) = .error (.defect cause offset)) := by
  obtain ⟨left, hd, rfl⟩ := parse_eq_defect_iff.1 h
  obtain ⟨used, rest, rfl, rfl, hbegins, hfinal⟩ := document_stops hd
  have hused (rest : Text) : (used ++ rest).length - rest.length = used.length := by
    rw [List.length_append, Nat.add_sub_cancel]
  rw [hused]
  refine ⟨?_, ?_, fun hc => ?_⟩
  · rw [List.length_append]
    exact Nat.le_add_right _ _
  · rw [List.take_left]
    exact viable_iff.2 hbegins
  · obtain ⟨c, r, rfl, hr⟩ := hfinal hc
    refine ⟨by simp, fun more => parse_eq_defect_iff.2 ⟨more.length + 1, ?_, ?_⟩⟩
    · rw [List.take_length_add_append, List.append_assoc]
      exact hr more
    · rw [List.take_length_add_append, List.append_assoc]
      exact (hused (c :: more)).symm

theorem parse_defect_offset_separator :
    parse "[1 2]" = .error (.defect (.expectedSeparator '2') 3) ∧ Viable "[1 " ∧
      ∀ more, parse ("[1 2" ++ more) = .error (.defect (.expectedSeparator '2') 3) := by
  have hitems : items "1 2]" = .error (.defect (.expectedSeparator '2') 2) := by
    rw [items_eq]
    rfl
  have h : parse "[1 2]" = .error (.defect (.expectedSeparator '2') 3) :=
    parse_eq_defect_iff.2
      ⟨2, document_of_items_error (a := []) (w := []) (.inl rfl) nofun hitems, rfl⟩
  obtain ⟨-, hviable, hfinal⟩ := parse_defect_offset h
  exact ⟨h, hviable, (hfinal rfl).2⟩

end TokenIndex.Literal
