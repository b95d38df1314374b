import TokenIndex.Text.Lower
import TokenIndex.Proofs.Basic
import Mathlib.Tactic.SplitIfs

namespace TokenIndex

namespace CodePoint

/-- Neither the capitals of a run nor their small letters are surrogates. -/
def CaseRun.avoidsSurrogates (r : CaseRun) : Bool :=
  (r.last < 0xD800 || 0xDFFF < r.first) &&
    (r.last + r.shift < 0xD800 ||
      (0xDFFF < r.first + r.shift && r.last + r.shift < 0x110000))

theorem caseRuns_avoid_surrogates : ∀ r ∈ caseRuns, r.avoidsSurrogates = true := by decide +kernel

theorem avoid_of_has {r : CaseRun} {n : Nat} (hr : r ∈ caseRuns) (hn : r.has n = true) :
    (n < 0xD800 ∨ 0xDFFF < n) ∧ ((n + r.shift).toNat < 0xD800 ∨
      (0xDFFF < (n + r.shift).toNat ∧ (n + r.shift).toNat < 0x110000)) := by
  have havoid := caseRuns_avoid_surrogates r hr
  simp only [CaseRun.avoidsSurrogates, CaseRun.has, Bool.and_eq_true, Bool.or_eq_true,
    decide_eq_true_eq] at havoid hn
  omega

theorem lowerOne_eq_or (c : CodePoint) :
    c.lowerOne = c ∨ c.isSurrogate = false ∧ c.lowerOne.isSurrogate = false := by
  unfold lowerOne
  split
  · rename_i r hr
    right
    have hhas := List.find?_some hr
    have havoid := avoid_of_has (List.mem_of_find?_eq_some hr) hhas
    rw [isSurrogate_eq_false_iff, isSurrogate_eq_false_iff, val_ofNat (by omega)]
    omega
  · exact .inl rfl

/-- No small letter of this run is a capital of the other: they lie apart, or take turns. -/
def CaseRun.apart (r s : CaseRun) : Bool :=
  (r.last + r.shift).toNat.blt s.first || s.last.blt (r.first + r.shift).toNat ||
    (0 ≤ r.first + r.shift && s.step = 2 && (r.step = 2 || r.first = r.last) &&
      (r.first + r.shift - s.first) % 2 = 1)

theorem CaseRun.not_has_of_apart {r s : CaseRun} {n : Nat} (h : r.apart s = true)
    (hn : r.has n = true) : s.has (n + r.shift).toNat = false := by
  simp only [apart, has, Bool.or_eq_true, Bool.and_eq_true, decide_eq_true_eq, Nat.blt_eq] at h hn
  simp only [has, Bool.and_eq_false_iff, decide_eq_false_iff_not]
  obtain (h | h) | ⟨⟨⟨hpos, hstep⟩, hr⟩, hturn⟩ := h
  · omega
  · omega
  · rw [hstep]
    obtain hr | hr := hr
    · rw [hr] at hn
      omega
    · omega

/-- The capitals of all runs, and the one that becomes two code points. -/
def capitals : List CaseRun := ⟨0x130, 0x130, 1, 0⟩ :: caseRuns

theorem caseRuns_apart_capitals :
    (caseRuns.all fun r => capitals.all r.apart) = true := by decide +kernel

def isCapital (c : CodePoint) : Bool := capitals.any (·.has c.val)

theorem lowerOne_of_not_isCapital {c : CodePoint} (h : c.isCapital = false) : c.lowerOne = c := by
  have hnone : caseRuns.find? (·.has c.val) = none := by
    rw [List.find?_eq_none]
    exact fun r hr => List.any_eq_false.1 h r (List.mem_cons_of_mem _ hr)
  rw [lowerOne, hnone]

theorem isCapital_lowerOne {c : CodePoint} (h : c ≠ 0x130) : c.lowerOne.isCapital = false := by
  rw [isCapital, List.any_eq_false, lowerOne]
  intro s hs
  rw [Bool.not_eq_true]
  split
  · rename_i r hr
    have hmem := List.mem_of_find?_eq_some hr
    have hhas := List.find?_some hr
    have havoid := avoid_of_has hmem hhas
    rw [val_ofNat (by omega)]
    exact CaseRun.not_has_of_apart
      (List.all_eq_true.1 (List.all_eq_true.1 caseRuns_apart_capitals r hmem) s hs) hhas
  · rename_i hnone
    obtain rfl | hs := List.mem_cons.1 hs
    · simp only [CaseRun.has, Bool.and_eq_false_iff, decide_eq_false_iff_not]
      have hval : c.val ≠ 0x130 := fun hval => h (Fin.ext hval)
      omega
    · exact Bool.not_eq_true _ ▸ List.find?_eq_none.1 hnone s hs

end CodePoint

namespace Text

theorem filter_lowerFrom (cased : Bool) (t : Text) :
    (lowerFrom cased t).filter CodePoint.isSurrogate = t.filter CodePoint.isSurrogate := by
  fun_induction lowerFrom cased t with
  | case1 => rfl
  | case2 cased rest after ih =>
    -- a capital sigma becomes one of two small ones
    have hs (b : Bool) : (if b = true then (0x3C2 : CodePoint) else 0x3C3).isSurrogate = false := by
      cases b <;> rfl
    rw [List.filter_cons, List.filter_cons, hs, ih]
    rfl
  | case3 cased rest after _ ih =>
    -- U+0130 becomes two characters
    show List.filter _ (('i' : CodePoint) :: 0x307 :: after) = _
    rw [List.filter_cons, List.filter_cons, List.filter_cons, ih]
    rfl
  | case4 cased c rest after _ _ ih =>
    rw [List.filter_cons, List.filter_cons, ih]
    rcases c.lowerOne_eq_or with hc | ⟨hc, hl⟩
    · rw [hc]
    · rw [hc, hl]
      rfl

theorem lower_ne_nil {t : Text} (h : t ≠ []) : t.lower ≠ [] := by
  cases t with
  | nil => exact absurd rfl h
  | cons c t =>
    rw [lower, lowerFrom]
    split_ifs <;> exact List.cons_ne_nil _ _

theorem hasSurrogate_lower {t : Text} (h : t.hasSurrogate = false) :
    t.lower.hasSurrogate = false := by
  have hnone : t.filter CodePoint.isSurrogate = [] := by
    rw [List.filter_eq_nil_iff]
    simpa using hasSurrogate_eq_false_iff.1 h
  rw [← filter_lowerFrom false t, List.filter_eq_nil_iff] at hnone
  rw [hasSurrogate_eq_false_iff, lower]
  simpa using hnone

theorem find?_isSurrogate_lower (t : Text) :
    t.lower.find? CodePoint.isSurrogate = t.find? CodePoint.isSurrogate := by
  rw [← List.head?_filter, ← List.head?_filter, lower, filter_lowerFrom]

theorem not_isCapital_of_mem_lowerFrom {c : CodePoint} {cased : Bool} {t : Text}
    (h : c ∈ lowerFrom cased t) : c.isCapital = false := by
  fun_induction lowerFrom cased t with
  | case1 => cases h
  | case2 cased rest after ih =>
    obtain rfl | h := List.mem_cons.1 h
    · split <;> decide +kernel
    · exact ih h
  | case3 cased rest after _ ih =>
    obtain rfl | rfl | h := List.mem_cons.1 h |>.imp_right List.mem_cons.1
    · decide +kernel
    · decide +kernel
    · exact ih h
  | case4 cased d rest after _ hd ih =>
    obtain rfl | h := List.mem_cons.1 h
    · exact CodePoint.isCapital_lowerOne hd
    · exact ih h

theorem lowerFrom_of_not_isCapital {t : Text} (h : ∀ c ∈ t, c.isCapital = false) (cased : Bool) :
    lowerFrom cased t = t := by
  induction t generalizing cased with
  | nil => rfl
  | cons c t ih =>
    rw [List.forall_mem_cons] at h
    have hsigma : c ≠ 0x3A3 := by
      rintro rfl
      exact absurd h.1 (by decide +kernel)
    have hdotted : c ≠ 0x130 := by
      rintro rfl
      exact absurd h.1 (by decide +kernel)
    rw [lowerFrom, if_neg hsigma, if_neg hdotted, ih h.2, CodePoint.lowerOne_of_not_isCapital h.1]

theorem lower_lower (t : Text) : t.lower.lower = t.lower :=
  lowerFrom_of_not_isCapital (fun _ hc => not_isCapital_of_mem_lowerFrom hc) false

end Text

end TokenIndex
