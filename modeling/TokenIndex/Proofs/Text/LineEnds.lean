import TokenIndex.Text.LineEnds
import TokenIndex.Proofs.Basic

namespace TokenIndex.Text

theorem normalizeLineEnds_cons {c : CodePoint} (h : c ≠ '\r') (t : Text) :
    normalizeLineEnds (c :: t) = c :: normalizeLineEnds t := by
  rw [normalizeLineEnds.eq_def]
  exact if_neg h

theorem normalizeLineEnds_append {s t : Text} (ht : Ends (fun c => c = '\n') t) :
    normalizeLineEnds (s ++ t) = normalizeLineEnds s ++ normalizeLineEnds t := by
  fun_induction normalizeLineEnds s with
  | case1 => rfl
  | case2 more ih => rw [← ih]; rfl
  | case3 d more hd ih =>
    have hreturn : normalizeLineEnds (('\r' : CodePoint) :: d :: (more ++ t)) =
        ('\n' : CodePoint) :: normalizeLineEnds (d :: (more ++ t)) := by
      rw [normalizeLineEnds, if_pos rfl]
      exact if_neg hd
    exact hreturn.trans (congrArg _ ih)
  | case4 =>
    -- a CR at the end of `s` takes no LF of `t` along
    cases t with
    | nil => rfl
    | cons d t =>
      have hd : d ≠ '\n' := of_decide_eq_false (ends_cons.1 ht)
      rw [List.singleton_append, normalizeLineEnds, if_pos rfl]
      exact if_neg hd
  | case5 c s hc ih =>
    rw [List.cons_append, normalizeLineEnds_cons hc, ih, List.cons_append]

theorem normalizeLineEnds_append_left {s : Text} (h : ∀ c ∈ s, c ≠ '\r') (t : Text) :
    normalizeLineEnds (s ++ t) = s ++ normalizeLineEnds t := by
  induction s with
  | nil => rfl
  | cons c s ih =>
    rw [List.forall_mem_cons] at h
    rw [List.cons_append, normalizeLineEnds_cons h.1, ih h.2, List.cons_append]

theorem mem_normalizeLineEnds {c : CodePoint} {t : Text} (h : c ∈ normalizeLineEnds t) :
    c = '\n' ∨ c ∈ t := by
  fun_induction normalizeLineEnds t with
  | case1 => cases h
  | case2 more ih => exact (ih h).imp_right (List.mem_cons_of_mem _)
  | case3 d more hd ih =>
    rcases List.mem_cons.1 h with rfl | h
    · exact .inl rfl
    · exact (ih h).imp_right (List.mem_cons_of_mem _)
  | case4 => exact .inl (List.mem_singleton.1 h)
  | case5 d t hd ih =>
    rcases List.mem_cons.1 h with rfl | h
    · exact .inr List.mem_cons_self
    · exact (ih h).imp_right (List.mem_cons_of_mem _)

theorem normalizeLineEnds_ne_nil {t : Text} (h : t ≠ []) : normalizeLineEnds t ≠ [] := by
  fun_induction normalizeLineEnds t with
  | case1 => exact absurd rfl h
  | case2 more ih => exact ih (List.cons_ne_nil _ _)
  | case3 => exact List.cons_ne_nil _ _
  | case4 => exact List.cons_ne_nil _ _
  | case5 => exact List.cons_ne_nil _ _

theorem normalizeLineEnds_return {t : Text} (h : Ends (fun c => c = '\n') t) :
    normalizeLineEnds (('\r' : CodePoint) :: t) = ('\n' : CodePoint) :: normalizeLineEnds t :=
  normalizeLineEnds_append (s := [('\r' : CodePoint)]) h

theorem return_not_mem_normalizeLineEnds (t : Text) :
    ('\r' : CodePoint) ∉ normalizeLineEnds t := by
  fun_induction normalizeLineEnds t with
  | case1 => exact List.not_mem_nil
  | case2 more ih => exact ih
  | case3 d more hd ih =>
    rw [List.mem_cons, not_or]
    exact ⟨by decide, ih⟩
  | case4 => decide
  | case5 c t hc ih =>
    rw [List.mem_cons, not_or]
    exact ⟨Ne.symm hc, ih⟩

theorem mem_or_eq_return {c : CodePoint} {t : Text} (h : c ∈ t) :
    c = '\r' ∨ c ∈ normalizeLineEnds t := by
  fun_induction normalizeLineEnds t with
  | case1 => cases h
  | case2 more ih => exact (List.mem_cons.1 h).elim .inl ih
  | case3 d more hd ih =>
    exact (List.mem_cons.1 h).elim .inl fun h => (ih h).imp_right (List.mem_cons_of_mem _)
  | case4 => exact .inl (List.mem_singleton.1 h)
  | case5 d t hd ih =>
    rcases List.mem_cons.1 h with rfl | h
    · exact .inr List.mem_cons_self
    · exact (ih h).imp_right (List.mem_cons_of_mem _)

theorem eq_of_normalizeLineEnds {s t : Text} (h : normalizeLineEnds s = t)
    (ht : ('\n' : CodePoint) ∉ t) : s = t := by
  subst h
  fun_induction normalizeLineEnds s with
  | case1 => rfl
  | case2 more ih =>
    rw [normalizeLineEnds_cons (by decide)] at ht
    exact absurd List.mem_cons_self ht
  | case3 => exact absurd List.mem_cons_self ht
  | case4 => exact absurd List.mem_cons_self ht
  | case5 c t hc ih =>
    rw [List.mem_cons, not_or] at ht
    exact congrArg (c :: ·) (ih ht.2)

theorem normalizeLineEnds_eq_lineFeed {s : Text} (h : normalizeLineEnds s = "\n") :
    s = "\n" ∨ s = "\r" ∨ s = "\r\n" := by
  have hnil {t : Text} (ht : normalizeLineEnds t = []) : t = [] :=
    Decidable.of_not_not fun hne => normalizeLineEnds_ne_nil hne ht
  revert h
  fun_cases normalizeLineEnds s with
  | case1 => exact nofun
  | case2 more =>
    rw [normalizeLineEnds_cons (by decide)]
    intro h
    rw [hnil (List.cons.inj h).2]
    exact .inr (.inr rfl)
  | case3 d more =>
    intro h
    cases hnil (List.cons.inj h).2
  | case4 => exact fun _ => .inr (.inl rfl)
  | case5 c t hc =>
    intro h
    obtain ⟨rfl, ht⟩ := List.cons.inj h
    rw [hnil ht]
    exact .inl rfl

/-- The parts of a normalised text are the normal forms of parts of the text. -/
theorem exists_append_of_normalizeLineEnds {t a b : Text} (h : normalizeLineEnds t = a ++ b) :
    ∃ s r, t = s ++ r ∧ normalizeLineEnds s = a ∧ normalizeLineEnds r = b := by
  fun_induction normalizeLineEnds t generalizing a with
  | case1 =>
    obtain ⟨rfl, rfl⟩ := List.nil_eq_append_iff.1 h
    exact ⟨[], [], rfl, rfl, rfl⟩
  | case2 more ih =>
    obtain ⟨s, r, hsr, rfl, rfl⟩ := ih h
    cases s with
    | nil => exact ⟨[], _, rfl, rfl, h⟩
    | cons d s =>
      obtain ⟨rfl, rfl⟩ := List.cons.inj hsr
      exact ⟨('\r' : CodePoint) :: ('\n' : CodePoint) :: s, r, rfl, rfl, rfl⟩
  | case3 d more hd ih =>
    cases a with
    | nil =>
      refine ⟨[], _, rfl, rfl, ?_⟩
      rw [normalizeLineEnds_return (ends_cons.2 (decide_eq_false hd))]
      exact h
    | cons c a =>
      obtain ⟨rfl, hmore⟩ := List.cons.inj h
      obtain ⟨s, r, hsr, rfl, rfl⟩ := ih hmore
      refine ⟨('\r' : CodePoint) :: s, r, by rw [hsr]; rfl, normalizeLineEnds_return ?_, rfl⟩
      cases s with
      | nil => exact ends_nil _
      | cons e s =>
        obtain ⟨rfl, -⟩ := List.cons.inj hsr
        exact ends_cons.2 (decide_eq_false hd)
  | case4 =>
    cases a with
    | nil => exact ⟨[], _, rfl, rfl, h⟩
    | cons c a =>
      obtain ⟨rfl, hnil⟩ := List.cons.inj h
      obtain ⟨rfl, rfl⟩ := List.nil_eq_append_iff.1 hnil
      exact ⟨[('\r' : CodePoint)], [], rfl, rfl, rfl⟩
  | case5 c t hc ih =>
    cases a with
    | nil => exact ⟨[], _, rfl, rfl, (normalizeLineEnds_cons hc t).trans h⟩
    | cons d a =>
      obtain ⟨rfl, htail⟩ := List.cons.inj h
      obtain ⟨s, r, rfl, rfl, rfl⟩ := ih htail
      exact ⟨c :: s, r, rfl, normalizeLineEnds_cons hc s, rfl⟩

end TokenIndex.Text
