import Mathlib.Data.List.Chain
import Mathlib.Tactic.SplitIfs
import TokenIndex.Json.Encoding
import TokenIndex.Proofs.Basic

namespace TokenIndex.Utf16

open Json.Encoding (joinPairs)

variable {t : Text} {us : List Nat}

/-- A high surrogate and a low one. -/
def Pair (high low : Nat) : Prop :=
  0xD800 ≤ high ∧ high < 0xDC00 ∧ 0xDC00 ≤ low ∧ low < 0xE000

def units (c : CodePoint) : List Nat :=
  if c.val < 0x10000 then [c.val]
  else [0xD800 + (c.val - 0x10000) / 0x400, 0xDC00 + (c.val - 0x10000) % 0x400]

/-- No high surrogate stands right before a low one. -/
def Unpaired (t : Text) : Prop := t.IsChain fun a b => ¬Pair a.val b.val

theorem units_of_lt {c : CodePoint} (h : c.val < 0x10000) : units c = [c.val] := if_pos h

theorem units_ofNat {n : Nat} (h : n < 0x10000) : units (.ofNat n) = [n] := by
  have hval : (CodePoint.ofNat n).val = n := CodePoint.val_ofNat (by omega)
  rw [units_of_lt (by omega), hval]

theorem exists_units {c : CodePoint} (h : ¬c.val < 0x10000) : ∃ high low, units c = [high, low] ∧
    Pair high low ∧ .ofNat (0x10000 + (high - 0xD800) * 0x400 + (low - 0xDC00)) = c := by
  refine ⟨_, _, if_neg h, ?_, ?_⟩
  · have hlt := c.isLt
    simp only [Pair]
    omega
  · have hval : 0x10000 + (0xD800 + (c.val - 0x10000) / 0x400 - 0xD800) * 0x400 +
        (0xDC00 + (c.val - 0x10000) % 0x400 - 0xDC00) = c.val := by omega
    rw [hval, CodePoint.ofNat_val]

theorem units_lt (c : CodePoint) : ∀ n ∈ units c, n < 0x10000 := by
  by_cases h : c.val < 0x10000
  · rw [units_of_lt h]
    exact List.forall_mem_singleton.2 h
  · obtain ⟨high, low, heq, hpair, -⟩ := exists_units h
    simp only [Pair] at hpair
    rw [heq, List.forall_mem_cons, List.forall_mem_singleton]
    omega

theorem joinPairs_pair {high low : Nat} (h : Pair high low) :
    joinPairs (high :: low :: us) =
      .ofNat (0x10000 + (high - 0xD800) * 0x400 + (low - 0xDC00)) :: joinPairs us := by
  rw [joinPairs]
  exact if_pos h

theorem joinPairs_cons {n : Nat} (h : ∀ low ∈ us.head?, ¬Pair n low) :
    joinPairs (n :: us) = .ofNat n :: joinPairs us := by
  cases us with
  | nil => rw [joinPairs, joinPairs]
  | cons low us =>
    rw [joinPairs]
    exact if_neg (h low rfl)

theorem not_pair_units {c : CodePoint} {n : Nat} (h : ¬Pair n c.val) :
    ∀ low ∈ (units c).head?, ¬Pair n low := by
  intro low hlow
  by_cases hc : c.val < 0x10000
  · rw [units_of_lt hc] at hlow
    cases hlow
    exact h
  · obtain ⟨high, low', heq, hpair, -⟩ := exists_units hc
    rw [heq] at hlow
    cases hlow
    simp only [Pair] at hpair ⊢
    omega

theorem units_ne_nil (c : CodePoint) : units c ≠ [] := by
  rw [units]
  split_ifs <;> exact List.cons_ne_nil _ _

theorem joinPairs_units (h : Unpaired t) : joinPairs (t.flatMap units) = t := by
  induction t with
  | nil => rw [List.flatMap_nil, joinPairs]
  | cons c t ih =>
    rw [Unpaired, List.isChain_cons] at h
    have ht := ih h.2
    rw [List.flatMap_cons]
    by_cases hc : c.val < 0x10000
    · rw [units_of_lt hc, List.singleton_append, joinPairs_cons, CodePoint.ofNat_val, ht]
      cases t with
      | nil =>
        intro d hd
        cases hd
      | cons d t =>
        rw [List.flatMap_cons, List.head?_append_of_ne_nil _ (units_ne_nil d)]
        exact not_pair_units (h.1 d rfl)
    · obtain ⟨high, low, heq, hpair, hval⟩ := exists_units hc
      rw [heq]
      show joinPairs (high :: low :: t.flatMap units) = _
      rw [joinPairs_pair hpair, hval, ht]

theorem units_joinPairs (h : ∀ n ∈ us, n < 0x10000) : (joinPairs us).flatMap units = us := by
  fun_induction joinPairs us with
  | case1 high low rest hpair ih =>
    rw [List.forall_mem_cons, List.forall_mem_cons] at h
    rw [List.flatMap_cons, ih h.2.2]
    have hval : (CodePoint.ofNat (0x10000 + (high - 0xD800) * 0x400 + (low - 0xDC00))).val =
        0x10000 + (high - 0xD800) * 0x400 + (low - 0xDC00) := CodePoint.val_ofNat (by omega)
    rw [units, if_neg (by omega), hval]
    have hhigh : 0xD800 + (0x10000 + (high - 0xD800) * 0x400 + (low - 0xDC00) - 0x10000) / 0x400 =
        high := by omega
    have hlow : 0xDC00 + (0x10000 + (high - 0xD800) * 0x400 + (low - 0xDC00) - 0x10000) % 0x400 =
        low := by omega
    rw [hhigh, hlow]
    rfl
  | case2 high low rest _ ih =>
    rw [List.forall_mem_cons] at h
    rw [List.flatMap_cons, ih h.2, units_ofNat h.1]
    rfl
  | case3 n =>
    rw [List.forall_mem_singleton] at h
    rw [List.flatMap_singleton, units_ofNat h]
  | case4 => rfl

theorem not_pair_joinPairs {n : Nat} (hus : ∀ m ∈ us, m < 0x10000)
    (h : ∀ low ∈ us.head?, ¬Pair n low) : ∀ c ∈ (joinPairs us).head?, ¬Pair n c.val := by
  intro c hc hpair
  have hunits := units_joinPairs hus
  obtain ⟨t, ht⟩ := List.head?_eq_some_iff.1 hc
  have hlt : c.val < 0x10000 := by
    simp only [Pair] at hpair
    omega
  rw [ht, List.flatMap_cons, units_of_lt hlt] at hunits
  exact h c.val (by rw [← hunits]; rfl) hpair

theorem unpaired_joinPairs (h : ∀ n ∈ us, n < 0x10000) : Unpaired (joinPairs us) := by
  fun_induction joinPairs us with
  | case1 high low rest hpair ih =>
    rw [List.forall_mem_cons, List.forall_mem_cons] at h
    refine List.isChain_cons.2 ⟨fun c _ hc => ?_, ih h.2.2⟩
    have hval : (CodePoint.ofNat (0x10000 + (high - 0xD800) * 0x400 + (low - 0xDC00))).val =
        0x10000 + (high - 0xD800) * 0x400 + (low - 0xDC00) := CodePoint.val_ofNat (by omega)
    simp only [Pair] at hc
    omega
  | case2 high low rest hpair ih =>
    rw [List.forall_mem_cons] at h
    have hval : (CodePoint.ofNat high).val = high := CodePoint.val_ofNat (by omega)
    refine List.isChain_cons.2 ⟨?_, ih h.2⟩
    rw [hval]
    refine not_pair_joinPairs h.2 fun n hn => ?_
    cases hn
    exact hpair
  | case3 n => exact List.isChain_singleton _
  | case4 => exact List.isChain_nil

/-- A text is what some units are joined to exactly if it has them and no pair in it. -/
theorem eq_joinPairs_iff (h : ∀ n ∈ us, n < 0x10000) :
    t = joinPairs us ↔ t.flatMap units = us ∧ Unpaired t := by
  constructor
  · rintro rfl
    exact ⟨units_joinPairs h, unpaired_joinPairs h⟩
  · rintro ⟨rfl, ht⟩
    exact (joinPairs_units ht).symm

end TokenIndex.Utf16
