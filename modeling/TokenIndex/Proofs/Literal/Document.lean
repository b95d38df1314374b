import TokenIndex.Proofs.Literal.Items

namespace TokenIndex.Literal

open Literal.Grammar

theorem afterAssignment?_sound {s rest : Text} (h : afterAssignment? s = some rest) :
    ∃ a, s = a ++ rest ∧ Assignment a := by
  unfold afterAssignment? at h
  obtain ⟨t, ht, h⟩ := Option.bind_eq_some_iff.1 h
  obtain ⟨w, hs, hw⟩ := exists_blanks s
  rw [Text.after?_eq_some_iff.1 ht] at hs
  split at h
  · rename_i b t' c r hd
    split at h
    · rename_i hc
      rw [Bool.and_eq_true] at hc
      obtain ⟨u, hu, rfl⟩ := Option.map_eq_some_iff.1 h
      obtain ⟨x, hx, hxb⟩ := exists_blanks (b :: t')
      obtain ⟨y, hy, hyb⟩ := exists_blanks (r.dropWhile CodePoint.continuesName)
      obtain ⟨z, hz, hzb⟩ := exists_blanks u
      rw [hd] at hx
      rw [Text.after?_eq_some_iff.1 hu] at hy
      have hn := List.takeWhile_append_dropWhile (p := CodePoint.continuesName) (l := r)
      -- the keyword ends at a blank, and a name does not begin with one
      have hxne : x ≠ [] := by
        rintro rfl
        cases hx
        rw [CodePoint.not_isBlank_of_startsName hc.2] at hc
        cases hc.1
      have hname : ∀ d ∈ r.takeWhile CodePoint.continuesName, d.continuesName = true :=
        List.all_eq_true.1 List.all_takeWhile
      refine ⟨_, ?_, .mk hw hxb hxne hc.2 hname hyb hzb⟩
      calc s
        _ = w ++ ("var" ++ (x ++ c :: (r.takeWhile CodePoint.continuesName ++
            (y ++ ("=" ++ (z ++ u.dropBlank)))))) := by
          rw [hs, hx, ← hz, ← hy, hn]
        _ = _ := by simp [Text.ofString]
    · cases h
  · cases h

theorem afterAssignment?_of_name {s t r : Text} {b c : CodePoint}
    (hs : s.dropBlank = "var" ++ b :: t) (ht : Text.dropBlank (b :: t) = c :: r)
    (hb : b.isBlank = true) (hc : c.startsName = true) : afterAssignment? s =
      (Text.after? "=" (Text.dropBlank (r.dropWhile CodePoint.continuesName))).map
        Text.dropBlank := by
  rw [afterAssignment?, hs, Text.after?_append]
  dsimp only [bind, Option.bind]
  rw [ht]
  dsimp only
  rw [hb, hc]
  rfl

theorem afterAssignment?_complete {a : Text} (h : Assignment a) (rest : Text) :
    afterAssignment? (a ++ rest) = some rest.dropBlank := by
  obtain @⟨w, x, n, y, z, c, hw, hx, hxne, hc, hn, hy, hz⟩ := h
  cases x with
  | nil => exact absurd rfl hxne
  | cons b x =>
  have hvar : Text.dropBlank (w ++ "var" ++ b :: x ++ c :: n ++ y ++ ('=' : CodePoint) :: z ++
      rest) = "var" ++ b :: (x ++ c :: (n ++ (y ++ ('=' : CodePoint) :: (z ++ rest)))) := by
    have hv : Text.Ends CodePoint.isBlank
        ("var" ++ b :: (x ++ c :: (n ++ (y ++ ('=' : CodePoint) :: (z ++ rest))))) :=
      Text.ends_cons.2 (by decide)
    rw [← dropBlank_blanks hw hv]
    simp
  have hlead : Text.dropBlank (b :: x ++ c :: (n ++ (y ++ ('=' : CodePoint) :: (z ++ rest)))) =
      c :: (n ++ (y ++ ('=' : CodePoint) :: (z ++ rest))) :=
    dropBlank_blanks hx (Text.ends_cons.2 (CodePoint.not_isBlank_of_startsName hc))
  have hname : Text.Ends CodePoint.continuesName (y ++ ('=' : CodePoint) :: (z ++ rest)) := by
    cases y with
    | nil => exact Text.ends_cons.2 (by decide +kernel)
    | cons d y =>
      exact Text.ends_cons.2 (CodePoint.not_continuesName_of_isBlank (hy d List.mem_cons_self))
  rw [afterAssignment?_of_name hvar hlead (hx b List.mem_cons_self) hc,
    Text.dropWhile_run hn hname, dropBlank_blanks hy (Text.ends_cons.2 (by decide))]
  exact congrArg some (List.dropWhile_append_of_pos hz)

theorem afterSemicolon_of_semicolon {z : Text} (hz : Blanks z) (t : Text) :
    afterSemicolon (z ++ (';' : CodePoint) :: t) = t.dropBlank := by
  rw [afterSemicolon, dropBlank_blanks hz (Text.ends_cons.2 (by decide))]
  rfl

theorem afterSemicolon_of_ends {z t : Text} (hz : Blanks z) (ht : Text.Ends CodePoint.isBlank t)
    (h : Text.after? ";" t = none) : afterSemicolon (z ++ t) = t := by
  rw [afterSemicolon, dropBlank_blanks hz ht, h]

theorem afterSemicolon_eq_nil_iff {t : Text} : afterSemicolon t = [] ↔
    ∃ z e, t = z ++ e ∧ Blanks z ∧ (e = [] ∨ ∃ x, Blanks x ∧ e = (';' : CodePoint) :: x) := by
  constructor
  · intro h
    obtain ⟨z, ht, hz⟩ := exists_blanks t
    refine ⟨z, t.dropBlank, ht, hz, ?_⟩
    unfold afterSemicolon at h
    split at h
    · rename_i u hu
      obtain ⟨x, hx, hxb⟩ := exists_blanks u
      rw [h, List.append_nil] at hx
      exact .inr ⟨x, hxb, by rw [Text.after?_eq_some_iff.1 hu, ← hx]; rfl⟩
    · exact .inl h
  · rintro ⟨z, e, rfl, hz, rfl | ⟨x, hx, rfl⟩⟩
    · exact afterSemicolon_of_ends hz (Text.ends_nil _) rfl
    · rw [afterSemicolon_of_semicolon hz, ← List.append_nil x]
      exact dropBlank_blanks hx (Text.ends_nil _)

theorem exists_opening (s : Text) : ∃ a w, s = a ++ w ++ ((afterAssignment? s).getD s).dropBlank ∧
    (a = [] ∨ Assignment a) ∧ Blanks w := by
  cases ha : afterAssignment? s with
  | none =>
    obtain ⟨w, hs, hw⟩ := exists_blanks s
    exact ⟨[], w, hs, .inl rfl, hw⟩
  | some rest =>
    obtain ⟨a, rfl, has⟩ := afterAssignment?_sound ha
    obtain ⟨w, hs, hw⟩ := exists_blanks rest
    rw [Option.getD_some]
    exact ⟨a, w, by rw [List.append_assoc, ← hs], .inr has, hw⟩

theorem opening_iff {s r : Text} :
    ((afterAssignment? s).getD s).dropBlank = ('[' : CodePoint) :: r ↔
      ∃ a w, s = a ++ w ++ ('[' : CodePoint) :: r ∧ (a = [] ∨ Assignment a) ∧ Blanks w := by
  have hb : Text.Ends CodePoint.isBlank (('[' : CodePoint) :: r) := Text.ends_cons.2 (by decide)
  constructor
  · intro h
    have hopening := exists_opening s
    rwa [h] at hopening
  · rintro ⟨a, w, rfl, rfl | ha, hw⟩
    · -- a bracket does not begin the keyword
      have hn : afterAssignment? (w ++ ('[' : CodePoint) :: r) = none := by
        rw [afterAssignment?, dropBlank_blanks hw hb]
        rfl
      rw [List.nil_append, hn, Option.getD_none, dropBlank_blanks hw hb]
    · rw [List.append_assoc, afterAssignment?_complete ha, Option.getD_some,
        dropBlank_blanks hw hb]
      exact dropBlank_blanks (w := []) (by simp [Blanks]) hb

theorem document_cases {s : Text} {vs : List Value} (h : document s = .ok vs) :
    ∃ r t, ((afterAssignment? s).getD s).dropBlank = ('[' : CodePoint) :: r ∧
      items r = .ok (vs, t) ∧ afterSemicolon t = [] := by
  unfold document at h
  split at h
  · cases h
  · rename_i c r hd
    by_cases hc : c = '['
    · rw [if_pos hc] at h
      split at h
      · cases h
      · rename_i ws t ht he
        split at h
        · rename_i hend
          cases h
          exact ⟨r, t, hc ▸ hd, by rw [items, he]; rfl, hend⟩
        · cases h
    · rw [if_neg hc] at h
      cases h

/-- What is left of a text behind its array, blanks and a semicolon skipped, is refused. -/
def finish (vs : List Value) : Text → Except Fault (List Value)
  | [] => .ok vs
  | _ :: r => .error (.defect .trailingData (r.length + 1))

section Bracket

variable {a w r : Text}

theorem document_of_items {t : Text} {vs : List Value} (ha : a = [] ∨ Assignment a)
    (hw : Blanks w) (h : items r = .ok (vs, t)) :
    document (a ++ w ++ ('[' : CodePoint) :: r) = finish vs (afterSemicolon t) := by
  obtain ⟨⟨p, hlength⟩, he, hp⟩ := map_eq_ok_iff.1 h
  obtain rfl : p = (vs, t) := hp
  rw [document, opening_iff.2 ⟨a, w, rfl, ha, hw⟩]
  dsimp only
  rw [if_pos rfl, he]
  dsimp only
  cases afterSemicolon t <;> rfl

theorem document_of_items_error {fault : Fault} (ha : a = [] ∨ Assignment a) (hw : Blanks w)
    (h : items r = .error fault) :
    document (a ++ w ++ ('[' : CodePoint) :: r) = .error fault := by
  rw [document, opening_iff.2 ⟨a, w, rfl, ha, hw⟩]
  dsimp only
  rw [if_pos rfl, map_eq_error_iff.1 h]

end Bracket

theorem document_eq_ok_iff {s : Text} {vs : List Value} :
    document s = .ok vs ↔ Document s vs := by
  constructor
  · intro h
    obtain ⟨r, t, hopen, hitems, hend⟩ := document_cases h
    obtain ⟨a, w, rfl, ha, hw⟩ := opening_iff.1 hopen
    obtain ⟨x, rfl, hx⟩ := items_sound hitems
    obtain ⟨z, e, rfl, hz, he⟩ := afterSemicolon_eq_nil_iff.1 hend
    have hdoc := Document.mk ha hw hx hz he
    simpa using hdoc
  · rintro @⟨a, w, t, z, e, _, ha, hw, ht, hz, he⟩
    have hdoc := document_of_items ha hw (items_complete ht (z ++ e))
    rw [afterSemicolon_eq_nil_iff.2 ⟨z, e, rfl, hz, he⟩, finish] at hdoc
    simpa using hdoc

theorem parse_eq_ok_iff_document {s : Text} {vs : List Value} :
    parse s = .ok vs ↔ document s = .ok vs := by
  unfold parse
  constructor
  · intro h
    split at h
    · rename_i hd
      rw [hd, Except.ok.inj h]
    · cases h
    · cases h
  · intro h
    rw [h]

/-- A text is read as the items that the grammar derives from it. The grammar derives at most one
list from a text, and texts from which it derives none are refused. -/
theorem parse_eq_ok_iff_derived (text : Text) :
    (∀ vs, parse text = .ok vs ↔ Document text vs) ∧
      (∀ vs ws, Document text vs → Document text ws → vs = ws) ∧
      ((∃ e, parse text = .error e) ↔ ∀ vs, ¬Document text vs) := by
  have hiff (vs : List Value) : parse text = .ok vs ↔ Document text vs :=
    parse_eq_ok_iff_document.trans document_eq_ok_iff
  refine ⟨hiff, ?_, ?_⟩
  · intro vs ws hv hw
    exact Except.ok.inj (((hiff vs).2 hv).symm.trans ((hiff ws).2 hw))
  · constructor
    · rintro ⟨e, he⟩ vs hv
      rw [(hiff vs).2 hv] at he
      cases he
    · intro hnone
      cases hp : parse text with
      | error e => exact ⟨e, rfl⟩
      | ok vs => exact absurd ((hiff vs).1 hp) (hnone vs)

end TokenIndex.Literal
