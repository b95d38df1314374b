import TokenIndex.Proofs.Literal.Document
import TokenIndex.Proofs.Literal.Progress

namespace TokenIndex

namespace Value

mutual

/-- How many arrays of a value are inside each other. -/
def depth : Value → Nat
  | .array vs => 1 + depths vs
  | _ => 0

def depths : List Value → Nat
  | [] => 0
  | v :: vs => max (depth v) (depths vs)

end

end Value

namespace Literal

open Value (depth depths)

mutual

/-- How many arrays are open at once in reading a value, each by a call inside the one before. -/
def valueNesting (s : Text) : Nat :=
  match _h : Text.after? "[" s.dropBlank with
  | some r => 1 + arrayNesting r
  | none => 0
termination_by (s.length, 0)
decreasing_by
  exact .left _ _ (length_lt_of_dropBlank (Text.after?_eq_some_iff.1 _h))

def arrayNesting (s : Text) : Nat :=
  if s.dropBlank.startsWith "]" then 0
  else match _h : nextItem? s with
    | some u => max (valueNesting s) (arrayNesting u)
    | none => valueNesting s
termination_by (s.length, 1)
decreasing_by
  · exact .right _ Nat.zero_lt_one
  · exact .left _ _ (nextItem?_suffix _h).2
  · exact .right _ Nat.zero_lt_one

end

/-- How many arrays are open at once in reading a text, whether or not it can be read to its
end. -/
def nesting (text : Text) : Nat :=
  let s := ((afterAssignment? text).getD text).dropBlank
  if s.startsWith "[" then valueNesting s else 0

theorem valueNesting_of_bracket {s r : Text} (h : s.dropBlank = ('[' : CodePoint) :: r) :
    valueNesting s = 1 + arrayNesting r := by
  rw [valueNesting, h]
  rfl

theorem depth_of_scalar {s rest : Text} {v : Value} (h : scalar s = .ok (v, rest)) :
    v.depth = 0 := by
  obtain ⟨t, -, ht⟩ := scalar_sound h
  cases ht <;> rfl

theorem valueNesting_eq_depth {s rest : Text} {v : Value} (h : value s = .ok (v, rest))
    (hitems : ∀ r vs t, s.dropBlank = ('[' : CodePoint) :: r → items r = .ok (vs, t) →
      arrayNesting r = depths vs) : valueNesting s = v.depth := by
  cases hs : s.dropBlank with
  | nil =>
    rw [value, hs] at h
    cases h
  | cons c r =>
    by_cases hc : c = '['
    · subst hc
      rw [value_of_bracket hs] at h
      obtain ⟨⟨vs, t⟩, hr, heq⟩ := map_eq_ok_iff.1 h
      cases heq
      rw [valueNesting_of_bracket hs, hitems r vs t hs hr, depth]
    · rw [value, hs, item, if_neg hc] at h
      have hnone : Text.after? "[" (c :: r) = none := by
        rw [Option.eq_none_iff_forall_ne_some]
        intro u hu
        exact hc (List.cons.inj (Text.after?_eq_some_iff.1 hu)).1
      rw [valueNesting, hs, hnone, depth_of_scalar h]

theorem arrayNesting_eq_depths {s rest : Text} {vs : List Value} (h : items s = .ok (vs, rest)) :
    arrayNesting s = depths vs := by
  -- on the length, as the calls are counted
  induction hn : s.length using Nat.strongRecOn generalizing s rest vs with
  | _ n ih =>
    subst hn
    have hvalue {v : Value} {t : Text} (hv : value s = .ok (v, t)) : valueNesting s = v.depth :=
      valueNesting_eq_depth hv fun r ws u hr hws => ih r.length (length_lt_of_dropBlank hr) hws rfl
    cases hclose : s.dropBlank.startsWith "]" with
    | true =>
      rw [items_eq_value, hclose, if_pos rfl] at h
      cases h
      rw [arrayNesting, hclose, if_pos rfl, depths]
    | false =>
      obtain ⟨v, t, hv, hafter⟩ := exists_value_of_items hclose h
      rw [arrayNesting, hclose, if_neg Bool.false_ne_true]
      split
      · rename_i u hu
        obtain ⟨-, v', t', hv', ht⟩ := nextItem?_eq_some_iff.1 hu
        cases hv.symm.trans hv'
        rw [ht, itemsAfter_comma] at hafter
        obtain ⟨⟨ws, w⟩, hws, heq⟩ := map_eq_ok_iff.1 hafter
        cases heq
        rw [hvalue hv, ih u.length (nextItem?_suffix hu).2 hws rfl, depths]
      · rename_i hlast
        have hlength := items_loops.last s hlast vs rest h
        obtain ⟨z, -, ⟨-, rfl⟩ | ⟨u, ws, ht, hws, rfl⟩⟩ := itemsAfter_cases hafter
        · rw [hvalue hv, depths, depths, Nat.max_zero]
        · obtain rfl : ws = [] :=
            List.length_eq_zero_iff.1 (Nat.le_zero.1 (Nat.le_of_succ_le_succ hlength))
          rw [hvalue hv, depths, depths, Nat.max_zero]

/-- A text that can be read nests as deep as its value. -/
theorem nesting_eq_depth {text : Text} {vs : List Value} (h : parse text = .ok vs) :
    nesting text = (Value.array vs).depth := by
  obtain ⟨r, t, hopen, hitems, -⟩ := document_cases (parse_eq_ok_iff_document.1 h)
  have hdrop : Text.dropBlank (('[' : CodePoint) :: r) = ('[' : CodePoint) :: r :=
    List.dropWhile_cons_of_neg (by decide)
  have hbracket : Text.startsWith (('[' : CodePoint) :: r) "[" = true := rfl
  rw [nesting, hopen, if_pos hbracket, valueNesting_of_bracket hdrop,
    arrayNesting_eq_depths hitems, depth]

theorem count_le_of_suffix {s t : Text} (h : s <:+ t) (c : CodePoint) : s.count c ≤ t.count c :=
  h.sublist.count_le c

theorem valueNesting_le_count {s : Text}
    (hitems : ∀ r, s.dropBlank = ('[' : CodePoint) :: r →
      arrayNesting r ≤ r.count ('[' : CodePoint)) :
    valueNesting s ≤ s.count ('[' : CodePoint) := by
  rw [valueNesting]
  split
  · rename_i r hr
    have hs : s.dropBlank = ('[' : CodePoint) :: r := Text.after?_eq_some_iff.1 hr
    have hcount := count_le_of_suffix (hs ▸ dropBlank_suffix s) ('[' : CodePoint)
    rw [List.count_cons_self] at hcount
    have hr := hitems r hs
    omega
  · exact Nat.zero_le _

theorem arrayNesting_le_count (s : Text) : arrayNesting s ≤ s.count ('[' : CodePoint) := by
  induction hn : s.length using Nat.strongRecOn generalizing s with
  | _ n ih =>
    subst hn
    have hvalue : valueNesting s ≤ s.count ('[' : CodePoint) :=
      valueNesting_le_count fun r hr => ih r.length (length_lt_of_dropBlank hr) r rfl
    rw [arrayNesting]
    split_ifs
    · exact Nat.zero_le _
    split
    · rename_i u hu
      have hsuffix := nextItem?_suffix hu
      have hnext := ih u.length hsuffix.2 u rfl
      exact max_le hvalue (hnext.trans (count_le_of_suffix hsuffix.1 _))
    · exact hvalue

theorem nesting_le_count (text : Text) : nesting text ≤ text.count ('[' : CodePoint) := by
  rw [nesting]
  split
  · exact (valueNesting_le_count fun r _ => arrayNesting_le_count r).trans
      (count_le_of_suffix (opening_suffix text) _)
  · exact Nat.zero_le _

theorem dropBlank_fill (n : Nat) (rest : Text) :
    (Text.fill (n + 1) '[' ++ rest).dropBlank =
      ('[' : CodePoint) :: (Text.fill n '[' ++ rest) :=
  List.dropWhile_cons_of_neg (by decide)

theorem valueNesting_le_arrayNesting {s : Text} (h : s.dropBlank.startsWith "]" = false) :
    valueNesting s ≤ arrayNesting s := by
  rw [arrayNesting, h, if_neg Bool.false_ne_true]
  split
  · exact le_max_left _ _
  · exact le_rfl

theorem le_valueNesting_fill (n : Nat) (rest : Text) :
    n + 1 ≤ valueNesting (Text.fill (n + 1) '[' ++ rest) := by
  induction n with
  | zero =>
    rw [valueNesting_of_bracket (dropBlank_fill 0 rest)]
    exact Nat.le_add_right _ _
  | succ n ih =>
    have hopen : (Text.fill (n + 1) '[' ++ rest).dropBlank.startsWith "]" = false := by
      rw [dropBlank_fill]
      rfl
    have hnested := valueNesting_le_arrayNesting hopen
    rw [valueNesting_of_bracket (dropBlank_fill (n + 1) rest)]
    omega

theorem le_nesting_fill (n : Nat) (rest : Text) : n ≤ nesting (Text.fill n '[' ++ rest) := by
  cases n with
  | zero => exact Nat.zero_le _
  | succ n =>
    have hnone : afterAssignment? (Text.fill (n + 1) '[' ++ rest) = none := by
      rw [afterAssignment?, dropBlank_fill]
      rfl
    have hcons : Text.fill (n + 1) '[' ++ rest = ('[' : CodePoint) :: (Text.fill n '[' ++ rest) :=
      rfl
    rw [nesting, hnone, Option.getD_none, dropBlank_fill, ← hcons]
    exact le_valueNesting_fill n rest

end Literal

end TokenIndex
