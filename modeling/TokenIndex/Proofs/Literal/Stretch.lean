import TokenIndex.Proofs.Load.Failure
import TokenIndex.Proofs.Path

namespace TokenIndex

namespace Literal.Grammar

theorem Escape.length_le {e m : Text} (h : Escape e m) : m.length ≤ 1 := by
  cases h <;> simp

theorem Escape.slash_mem {e m : Text} (h : Escape e m) (hslash : ('/' : CodePoint) ∈ e) :
    ('/' : CodePoint) ∈ m := by
  cases h with
  | unicode _ ht | byte _ ht =>
    obtain heq | hmem := List.mem_cons.1 hslash
    · exact absurd heq (by decide)
    · exact absurd hmem (not_mem_of_hexDigits ht rfl)
  | character =>
    rw [← List.mem_singleton.1 hslash]
    decide
  | _ => exact absurd hslash (by decide)

theorem prefix_append_cases {u m v : Text} (hm : m.length ≤ 1) (h : u <+: m ++ v) :
    u = [] ∨ ∃ u', u = m ++ u' ∧ u' <+: v := by
  cases u with
  | nil => exact .inl rfl
  | cons d u =>
    right
    cases m with
    | nil => exact ⟨d :: u, rfl, h⟩
    | cons x m =>
      obtain rfl := List.eq_nil_of_length_eq_zero (Nat.le_zero.1 (Nat.le_of_succ_le_succ hm))
      obtain ⟨rfl, hu⟩ := List.cons_prefix_cons.1 h
      exact ⟨u, rfl, hu⟩

theorem infix_append_cases {u m v : Text} (hm : m.length ≤ 1) (h : u <:+: m ++ v) :
    u <+: m ++ v ∨ u <:+: v := by
  cases m with
  | nil => exact .inr h
  | cons x m =>
    obtain rfl := List.eq_nil_of_length_eq_zero (Nat.le_zero.1 (Nat.le_of_succ_le_succ hm))
    exact List.infix_cons_iff.1 h

theorem Characters.exists_prefix {q : CodePoint} {t v u : Text} (h : Characters q t v)
    (hu : u <+: v) (hslash : ('/' : CodePoint) ∉ u) :
    ∃ s, s <+: t ∧ ('/' : CodePoint) ∉ s ∧ u.length ≤ s.length := by
  induction h generalizing u with
  | nil => exact ⟨[], List.nil_prefix, List.not_mem_nil, hu.length_le⟩
  | @plain c t v _ _ _ _ ih =>
    cases u with
    | nil => exact ⟨[], List.nil_prefix, List.not_mem_nil, le_rfl⟩
    | cons d u =>
      obtain ⟨rfl, hrest⟩ := List.cons_prefix_cons.1 hu
      rw [List.mem_cons, not_or] at hslash
      obtain ⟨s, hs, hnot, hlength⟩ := ih hrest hslash.2
      refine ⟨d :: s, List.cons_prefix_cons.2 ⟨rfl, hs⟩, ?_, Nat.succ_le_succ hlength⟩
      rw [List.mem_cons, not_or]
      exact ⟨hslash.1, hnot⟩
  | @escape e m t v he _ ih =>
    obtain rfl | ⟨u, rfl, hrest⟩ := prefix_append_cases he.length_le hu
    · exact ⟨[], List.nil_prefix, List.not_mem_nil, le_rfl⟩
    · rw [List.mem_append, not_or] at hslash
      obtain ⟨s, hs, hnot, hlength⟩ := ih hrest hslash.2
      refine ⟨'\\' :: (e ++ s), ?_, ?_, ?_⟩
      · exact List.cons_prefix_cons.2 ⟨rfl, (List.prefix_append_right_inj e).2 hs⟩
      · rw [List.mem_cons, List.mem_append, not_or, not_or]
        exact ⟨by decide, mt he.slash_mem hslash.1, hnot⟩
      · have hm := he.length_le
        simp only [List.length_append, List.length_cons]
        omega

theorem Characters.unbroken {q : CodePoint} {t v : Text} {n : Nat} (h : Characters q t v)
    (hv : v.Unbroken n) : t.Unbroken n := by
  obtain ⟨u, hu, hslash, hn⟩ := hv
  have hfront {t v : Text} (h : Characters q t v) (hu : u <+: v) : t.Unbroken n := by
    obtain ⟨s, hs, hnot, hlength⟩ := h.exists_prefix hu hslash
    exact ⟨s, hs.isInfix, hnot, hn.trans hlength⟩
  induction h with
  | nil => exact hfront .nil (List.infix_nil.1 hu ▸ List.nil_prefix)
  | @plain c t v hq hb hl h ih =>
    obtain hu | hu := List.infix_cons_iff.1 hu
    · exact hfront (.plain hq hb hl h) hu
    · exact (ih hu).mono (List.suffix_cons c t).isInfix
  | @escape e m t v he h ih =>
    obtain hu | hu := infix_append_cases he.length_le hu
    · exact hfront (.escape he h) hu
    · exact (ih hu).mono ((List.suffix_append e t).trans (List.suffix_cons _ _)).isInfix

theorem Scalar.unbroken {t text : Text} {v : Value} {n : Nat} (h : Scalar t v) (hv : v.Has text)
    (hn : text.Unbroken n) : t.Unbroken n := by
  cases h with
  | string _ h =>
    rw [Value.has_text_iff] at hv
    subst hv
    refine (h.unbroken hn).mono ?_
    exact (List.prefix_append _ _).isInfix.trans (List.suffix_cons _ _).isInfix
  | _ => cases hv

mutual

theorem Item.unbroken {t text : Text} {v : Value} {n : Nat} (h : Item t v) (hv : v.Has text)
    (hn : text.Unbroken n) : t.Unbroken n := by
  cases h with
  | scalar h => exact h.unbroken hv hn
  | array h =>
    refine (h.unbroken hv hn).mono ?_
    exact (List.prefix_append _ _).isInfix.trans (List.suffix_cons _ _).isInfix

theorem Elements.unbroken {t text : Text} {vs : List Value} {n : Nat} (h : Elements t vs)
    (hv : (Value.array vs).Has text) (hn : text.Unbroken n) : t.Unbroken n := by
  cases h with
  | none =>
    obtain ⟨v, hmem, -⟩ := Value.has_array_iff.1 hv
    cases hmem
  | @last w t z v _ h =>
    obtain ⟨v', hmem, htext⟩ := Value.has_array_iff.1 hv
    rw [List.mem_singleton.1 hmem] at htext
    exact (h.unbroken htext hn).mono ⟨w, z, rfl⟩
  | @more w t z r v vs _ h _ hrest =>
    obtain ⟨v', hmem, htext⟩ := Value.has_array_iff.1 hv
    obtain heq | hmem := List.mem_cons.1 hmem
    · rw [heq] at htext
      exact (h.unbroken htext hn).mono ⟨w, z ++ (',' : CodePoint) :: r, by simp⟩
    · have hr := hrest.unbroken (Value.has_array_iff.2 ⟨v', hmem, htext⟩) hn
      exact hr.mono ((List.suffix_cons _ r).trans (List.suffix_append _ _)).isInfix

end

end Literal.Grammar

open Literal.Grammar in
/-- Search data has stretches without a slash that are as long as those of the texts in it. -/
theorem Literal.unbroken_of_parse {t text : Text} {vs : List Value} {n : Nat}
    (h : parse t = .ok vs) (hv : (Value.array vs).Has text) (hn : text.Unbroken n) :
    t.Unbroken n := by
  obtain @⟨a, w, t, z, e, _, -, -, helements, -, -⟩ :=
    document_eq_ok_iff.1 (parse_eq_ok_iff_document.1 h)
  refine (helements.unbroken hv hn).mono
    ⟨a ++ w ++ [('[' : CodePoint)], (']' : CodePoint) :: z ++ e, ?_⟩
  simp

theorem Literal.TooLong.unbroken {t run : Text} (h : TooLong t run) : t.Unbroken run.length := by
  refine ⟨run, h.stands, fun hslash => ?_, le_rfl⟩
  exact absurd (h.digits _ hslash) (by decide)

theorem Reference.Oversized.unbroken {t run : Text} (h : Oversized t run) :
    t.Unbroken run.length := by
  refine ⟨run, (List.suffix_append _ run).isInfix.trans h.stands, fun hslash => ?_, le_rfl⟩
  exact absurd (h.digits _ hslash) (by decide)

end TokenIndex
