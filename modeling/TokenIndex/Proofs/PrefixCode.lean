import Mathlib.Data.List.Infix

namespace TokenIndex

/-- The codewords of the letters in `p` are not empty, and none of them begins another. -/
structure PrefixCode {α β : Type} (p : α → Prop) (code : α → List β) : Prop where
  ne_nil : ∀ {a}, p a → code a ≠ []
  eq_of_prefix : ∀ {a b}, p a → p b → code a <+: code b → a = b

namespace PrefixCode

variable {α β : Type} {p : α → Prop} {code : α → List β} {a b : α} {s t : List α}

theorem eq_of_prefix_append (h : PrefixCode p code) (ha : p a) (hb : p b) {rest : List β}
    (hab : code a <+: code b ++ rest) : a = b := by
  have hself : code b <+: code b ++ rest := List.prefix_append _ _
  rcases Nat.le_total (code a).length (code b).length with hle | hle
  · exact h.eq_of_prefix ha hb (List.prefix_of_prefix_length_le hab hself hle)
  · exact (h.eq_of_prefix hb ha (List.prefix_of_prefix_length_le hself hab hle)).symm

theorem prefix_of_flatMap_prefix (h : PrefixCode p code) (hs : ∀ a ∈ s, p a) (ht : ∀ a ∈ t, p a)
    (hst : s.flatMap code <+: t.flatMap code) : s <+: t := by
  induction s generalizing t with
  | nil => exact List.nil_prefix
  | cons a s ih =>
    rw [List.forall_mem_cons] at hs
    rw [List.flatMap_cons] at hst
    cases t with
    | nil =>
      rw [List.flatMap_nil, List.prefix_nil, List.append_eq_nil_iff] at hst
      exact absurd hst.1 (h.ne_nil hs.1)
    | cons b t =>
      rw [List.forall_mem_cons] at ht
      rw [List.flatMap_cons] at hst
      have hab : a = b := h.eq_of_prefix_append hs.1 ht.1 ((List.prefix_append _ _).trans hst)
      subst hab
      rw [List.prefix_append_right_inj] at hst
      exact List.cons_prefix_cons.2 ⟨rfl, ih hs.2 ht.2 hst⟩

theorem flatMap_prefix_iff (h : PrefixCode p code) (hs : ∀ a ∈ s, p a) (ht : ∀ a ∈ t, p a) :
    s.flatMap code <+: t.flatMap code ↔ s <+: t := by
  refine ⟨h.prefix_of_flatMap_prefix hs ht, ?_⟩
  rintro ⟨rest, rfl⟩
  rw [List.flatMap_append]
  exact List.prefix_append _ _

theorem flatMap_inj (h : PrefixCode p code) (hs : ∀ a ∈ s, p a) (ht : ∀ a ∈ t, p a) :
    s.flatMap code = t.flatMap code ↔ s = t := by
  refine ⟨fun hst => ?_, fun hst => hst ▸ rfl⟩
  have hleft : s <+: t := h.prefix_of_flatMap_prefix hs ht (hst ▸ List.prefix_refl _)
  have hright : t <+: s := h.prefix_of_flatMap_prefix ht hs (hst ▸ List.prefix_refl _)
  exact hleft.eq_of_length_le hright.length_le

end PrefixCode

end TokenIndex
