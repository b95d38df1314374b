import TokenIndex.Proofs.Literal.Scalar

namespace TokenIndex.Literal

open Literal.Grammar

/-- What `elements` reads, without the proof that it gets on. -/
def items (s : Text) : Except Fault (List Value × Text) := (elements s).map Subtype.val

/-- Reads one item of an array. -/
def item : Text → Except Fault (Value × Text)
  | [] => scalar []
  | c :: r => if c = '[' then (items r).map fun p => (.array p.1, p.2) else scalar (c :: r)

/-- Reads on behind the item `v`, blanks skipped. -/
def itemsAfter (v : Value) : Text → Except Fault (List Value × Text)
  | [] => .error (.defect .unterminatedArray 0)
  | d :: u =>
    if d = ']' then .ok ([v], u)
    else if d = ',' then (items u).map fun p => (v :: p.1, p.2)
    else .error (.defect (.expectedSeparator d) (u.length + 1))

def itemsFrom : Text → Except Fault (List Value × Text)
  | [] => .error (.defect .unexpectedEnd 0)
  | c :: r =>
    if c = ']' then .ok ([], r)
    else match item (c :: r) with
      | .error e => .error e
      | .ok (v, t) => itemsAfter v t.dropBlank

theorem item_eq (c : CodePoint) (r : Text) {s : Text} (hr : r.length < s.length) :
    item (c :: r) = Except.map Subtype.val
      (if c = '[' then
        match elements r with
        | .error e => .error e
        | .ok ⟨(vs, t), ht⟩ => .ok ⟨(.array vs, t), length_lt_trans (u := t) ht hr⟩
      else
        match h : scalar (c :: r) with
        | .error e => .error e
        | .ok (v, t) => .ok ⟨(v, t), length_lt_of_scalar h hr⟩ :
        Except Fault { p : Value × Text // p.2.length < s.length }) := by
  rw [item]
  by_cases hc : c = '['
  · rw [if_pos hc, if_pos hc, items]
    cases elements r <;> rfl
  · rw [if_neg hc, if_neg hc]
    split
    · rename_i h
      exact h
    · rename_i h
      exact h

theorem itemsFrom_of_item {c : CodePoint} {r t : Text} {v : Value} (hc : c ≠ ']')
    (h : item (c :: r) = .ok (v, t)) : itemsFrom (c :: r) = itemsAfter v t.dropBlank := by
  rw [itemsFrom, if_neg hc, h]

theorem items_eq (s : Text) : items s = itemsFrom s.dropBlank := by
  rw [items]
  fun_cases elements s with
  | case1 hs =>
    rw [hs]
    rfl
  | case2 r hs hr =>
    rw [hs]
    rfl
  | case3 c r hs hr hc it e he =>
    have hi := (item_eq c r hr).trans (congrArg _ he)
    rw [hs, itemsFrom, if_neg hc, hi]
    rfl
  | case4 c r hs hr hc it v t ht hv hu =>
    have hi := (item_eq c r hr).trans (congrArg _ hv)
    rw [hs, itemsFrom_of_item hc hi, hu]
    rfl
  | case5 c r hs hr hc it v t ht hv u hu hlen =>
    have hi := (item_eq c r hr).trans (congrArg _ hv)
    rw [hs, itemsFrom_of_item hc hi, hu, itemsAfter, if_pos rfl]
    rfl
  | case6 c r hs hr hc it v t ht hv u e he hu hlen hne =>
    have hi := (item_eq c r hr).trans (congrArg _ hv)
    rw [hs, itemsFrom_of_item hc hi, hu, itemsAfter, if_neg hne, if_pos rfl, items, he]
    rfl
  | case7 c r hs hr hc it v t ht hv u vs t' ht' hvs hu hlen hne =>
    have hi := (item_eq c r hr).trans (congrArg _ hv)
    rw [hs, itemsFrom_of_item hc hi, hu, itemsAfter, if_neg hne, if_pos rfl, items, hvs]
    rfl
  | case8 c r hs hr hc it v t ht hv d u hu hlen hne hne' =>
    have hi := (item_eq c r hr).trans (congrArg _ hv)
    rw [hs, itemsFrom_of_item hc hi, hu, itemsAfter, if_neg hne, if_neg hne']
    rfl

theorem items_length {s rest : Text} {vs : List Value} (h : items s = .ok (vs, rest)) :
    rest.length < s.length := by
  obtain ⟨p, _, hp⟩ := map_eq_ok_iff.1 h
  have hlen := p.property
  rw [hp] at hlen
  exact hlen

theorem item_cases {s rest : Text} {v : Value} (h : item s = .ok (v, rest)) :
    (∃ r vs, s = ('[' : CodePoint) :: r ∧ items r = .ok (vs, rest) ∧ v = .array vs) ∨
      scalar s = .ok (v, rest) := by
  cases s with
  | nil => cases h
  | cons c r =>
    rw [item] at h
    by_cases hc : c = '['
    · rw [if_pos hc] at h
      obtain ⟨p, hi, hp⟩ := map_eq_ok_iff.1 h
      cases hp
      exact .inl ⟨r, p.1, by rw [hc], hi, rfl⟩
    · rw [if_neg hc] at h
      exact .inr h

theorem item_length {s rest : Text} {v : Value} (h : item s = .ok (v, rest)) :
    rest.length < s.length := by
  obtain ⟨r, vs, rfl, hi, -⟩ | hs := item_cases h
  · exact Nat.lt_succ_of_lt (items_length hi)
  · exact scalar_length hs

theorem exists_blanks (s : Text) : ∃ w, s = w ++ s.dropBlank ∧ Blanks w :=
  Text.exists_run CodePoint.isBlank s

theorem itemsAfter_cases {v : Value} {t rest : Text} {vs : List Value}
    (h : itemsAfter v t.dropBlank = .ok (vs, rest)) : ∃ z, Blanks z ∧
      ((t = z ++ (']' : CodePoint) :: rest ∧ vs = [v]) ∨
        ∃ u ws, t = z ++ (',' : CodePoint) :: u ∧ items u = .ok (ws, rest) ∧ vs = v :: ws) := by
  obtain ⟨z, ht, hz⟩ := exists_blanks t
  refine ⟨z, hz, ?_⟩
  cases hd : t.dropBlank with
  | nil => rw [hd] at h; cases h
  | cons d u =>
    rw [hd] at h ht
    rw [itemsAfter] at h
    by_cases hb : d = ']'
    · rw [if_pos hb] at h
      cases h
      exact .inl ⟨hb ▸ ht, rfl⟩
    rw [if_neg hb] at h
    by_cases hc : d = ','
    · rw [if_pos hc] at h
      obtain ⟨p, hi, hp⟩ := map_eq_ok_iff.1 h
      cases hp
      exact .inr ⟨u, p.1, hc ▸ ht, hi, rfl⟩
    · rw [if_neg hc] at h
      cases h

theorem items_cases {s rest : Text} {vs : List Value} (h : items s = .ok (vs, rest)) :
    ∃ w, Blanks w ∧ ((s = w ++ (']' : CodePoint) :: rest ∧ vs = []) ∨
      ∃ c r v t, s = w ++ c :: r ∧ item (c :: r) = .ok (v, t) ∧
        itemsAfter v t.dropBlank = .ok (vs, rest)) := by
  rw [items_eq] at h
  obtain ⟨w, hs, hw⟩ := exists_blanks s
  refine ⟨w, hw, ?_⟩
  cases hd : s.dropBlank with
  | nil => rw [hd] at h; cases h
  | cons c r =>
    rw [hd] at h hs
    rw [itemsFrom] at h
    by_cases hc : c = ']'
    · rw [if_pos hc] at h
      cases h
      exact .inl ⟨hc ▸ hs, rfl⟩
    rw [if_neg hc] at h
    cases hi : item (c :: r) with
    | error e => rw [hi] at h; cases h
    | ok p =>
      rw [hi] at h
      exact .inr ⟨c, r, p.1, p.2, hs, hi, h⟩

theorem item_sound_of_items {s rest : Text} {v : Value}
    (hitems : ∀ r vs, s = ('[' : CodePoint) :: r → items r = .ok (vs, rest) →
      ∃ t, r = t ++ (']' : CodePoint) :: rest ∧ Elements t vs)
    (h : item s = .ok (v, rest)) : ∃ x, s = x ++ rest ∧ Item x v := by
  obtain ⟨r, vs, rfl, hi, rfl⟩ | hs := item_cases h
  · obtain ⟨x, rfl, hx⟩ := hitems r vs rfl hi
    exact ⟨_, by simp, .array hx⟩
  · obtain ⟨x, hx, hv⟩ := scalar_sound hs
    exact ⟨x, hx, .scalar hv⟩

theorem items_sound {s rest : Text} {vs : List Value} (h : items s = .ok (vs, rest)) :
    ∃ t, s = t ++ (']' : CodePoint) :: rest ∧ Elements t vs := by
  -- on the length: an item that is an array calls back on what is left of the text
  induction hn : s.length using Nat.strongRecOn generalizing s rest vs with
  | _ n ih =>
    subst hn
    obtain ⟨w, hw, ⟨rfl, rfl⟩ | ⟨c, r, v, t, rfl, hi, ha⟩⟩ := items_cases h
    · exact ⟨w, rfl, .none hw⟩
    have hlen := item_length hi
    have hnested (r' : Text) (vs' : List Value) (hr : c :: r = ('[' : CodePoint) :: r')
        (hvs : items r' = .ok (vs', t)) : ∃ x, r' = x ++ (']' : CodePoint) :: t ∧ Elements x vs' :=
      ih r'.length (by simp [hr]; omega) hvs rfl
    obtain ⟨x, hx, hv⟩ := item_sound_of_items hnested hi
    rw [hx]
    obtain ⟨z, hz, ⟨rfl, rfl⟩ | ⟨u, ws, rfl, hu, rfl⟩⟩ := itemsAfter_cases ha
    · exact ⟨_, by simp, .last hw hv hz⟩
    · obtain ⟨y, rfl, hy⟩ := ih u.length (by simp at *; omega) hu rfl
      exact ⟨_, by simp, .more hw hv hz hy⟩

theorem item_sound {s rest : Text} {v : Value} (h : item s = .ok (v, rest)) :
    ∃ x, s = x ++ rest ∧ Item x v :=
  item_sound_of_items (fun _ _ _ => items_sound) h

theorem Grammar.Scalar.head {t : Text} {v : Value} (h : Scalar t v) :
    ∃ c r, t = c :: r ∧ c.isBlank = false ∧ c ≠ '[' ∧ c ≠ ']' := by
  cases h with
  | string hq ht =>
    refine ⟨_, _, rfl, ?_⟩
    rcases hq with rfl | rfl <;> decide
  | number h =>
    cases h with
    | @plain t values hne hlimit ht =>
      cases t with
      | nil => exact absurd rfl hne
      | cons c t =>
        have hc := ht.isDigit c List.mem_cons_self
        refine ⟨c, t, rfl, ?_, ?_, ?_⟩
        · rw [← Bool.not_eq_true]
          intro hb
          rw [CodePoint.not_isDigit_of_isBlank hb] at hc
          cases hc
        · rintro rfl
          exact absurd hc (by decide)
        · rintro rfl
          exact absurd hc (by decide)
    | negative => exact ⟨_, _, rfl, by decide, by decide, by decide⟩
  | yes => exact ⟨_, _, rfl, by decide, by decide, by decide⟩
  | no => exact ⟨_, _, rfl, by decide, by decide, by decide⟩
  | null => exact ⟨_, _, rfl, by decide, by decide, by decide⟩

theorem Grammar.Item.head {t : Text} {v : Value} (h : Item t v) :
    ∃ c r, t = c :: r ∧ c.isBlank = false ∧ c ≠ ']' := by
  cases h with
  | scalar h =>
    obtain ⟨c, r, rfl, hb, -, hc⟩ := h.head
    exact ⟨c, r, rfl, hb, hc⟩
  | array h => exact ⟨_, _, rfl, by decide, by decide⟩

theorem dropBlank_blanks {w rest : Text} (hw : Blanks w) (h : Text.Ends CodePoint.isBlank rest) :
    Text.dropBlank (w ++ rest) = rest :=
  Text.dropWhile_run hw h

theorem exists_blanks_ends (s : Text) :
    ∃ w t, s = w ++ t ∧ Blanks w ∧ Text.Ends CodePoint.isBlank t := by
  obtain ⟨w, hs, hw⟩ := exists_blanks s
  exact ⟨w, s.dropBlank, hs, hw, Text.ends_dropWhile _ s⟩

theorem ends_isDigit_of_blanks {z rest : Text} (hz : Blanks z)
    (h : Text.Ends CodePoint.isDigit rest) : Text.Ends CodePoint.isDigit (z ++ rest) := by
  cases z with
  | nil => exact h
  | cons c z => exact Text.ends_cons.2 (CodePoint.not_isDigit_of_isBlank (hz c List.mem_cons_self))

theorem items_item {w t rest : Text} {v : Value} (hw : Blanks w) (ht : Item t v)
    (h : item (t ++ rest) = .ok (v, rest)) :
    items (w ++ t ++ rest) = itemsAfter v rest.dropBlank := by
  obtain ⟨c, r, rfl, hb, hc⟩ := ht.head
  have hd : Text.dropBlank (w ++ (c :: r ++ rest)) = c :: r ++ rest :=
    dropBlank_blanks hw (Text.ends_cons.2 hb)
  rw [items_eq, List.append_assoc, hd]
  exact itemsFrom_of_item hc h

mutual

theorem item_complete {t : Text} {v : Value} (h : Item t v) {rest : Text}
    (hrest : ∀ i, v = .int i → Text.Ends CodePoint.isDigit rest) :
    item (t ++ rest) = .ok (v, rest) := by
  cases h with
  | scalar h =>
    obtain ⟨c, r, rfl, -, hc, -⟩ := h.head
    rw [List.cons_append, item, if_neg hc]
    exact scalar_complete h hrest
  | array h =>
    have hi := items_complete h rest
    rw [List.cons_append, List.append_assoc, item, if_pos rfl]
    show Except.map _ (items (_ ++ (']' : CodePoint) :: rest)) = _
    rw [hi]
    rfl

theorem items_complete {t : Text} {vs : List Value} (h : Elements t vs) (rest : Text) :
    items (t ++ (']' : CodePoint) :: rest) = .ok (vs, rest) := by
  cases h with
  | none hw =>
    rw [items_eq, dropBlank_blanks hw (Text.ends_cons.2 (by decide)), itemsFrom, if_pos rfl]
  | @last w t z v hw ht hz =>
    have hd : Text.Ends CodePoint.isDigit (z ++ (']' : CodePoint) :: rest) :=
      ends_isDigit_of_blanks hz (Text.ends_cons.2 (by decide))
    rw [List.append_assoc, items_item hw ht (item_complete ht fun _ _ => hd),
      dropBlank_blanks hz (Text.ends_cons.2 (by decide)), itemsAfter, if_pos rfl]
  | @more w t z r v vs hw ht hz hr =>
    -- the item may be a number, which neither a blank nor a comma goes on
    have hd : Text.Ends CodePoint.isDigit
        (z ++ (',' : CodePoint) :: (r ++ (']' : CodePoint) :: rest)) :=
      ends_isDigit_of_blanks hz (Text.ends_cons.2 (by decide))
    have ih := items_complete hr rest
    rw [List.append_assoc, List.append_assoc, List.cons_append,
      items_item hw ht (item_complete ht fun _ _ => hd),
      dropBlank_blanks hz (Text.ends_cons.2 (by decide)), itemsAfter, if_neg (by decide),
      if_pos rfl, ih]
    rfl

end

end TokenIndex.Literal
