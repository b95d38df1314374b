import TokenIndex.DataFile
import TokenIndex.Proofs.Basic
import Mathlib.Data.List.Perm.Basic
import Mathlib.Order.Fin.Basic

namespace TokenIndex.DataFile

variable {category : Text} {a b c : Nat × Text} {l m r : List (Nat × Text)}
  {names names' kept rest changed : List Text}

theorem before_iff : before a b = true ↔ a.1 < b.1 ∨ a.1 = b.1 ∧ ¬b.2 < a.2 := by
  simp only [before, Bool.or_eq_true, Bool.and_eq_true, decide_eq_true_eq, Bool.not_eq_true',
    decide_eq_false_iff_not]

theorem before_trans (a b c : Nat × Text) (hab : before a b = true) (hbc : before b c = true) :
    before a c = true := by
  rw [before_iff] at hab hbc ⊢
  obtain hab | ⟨hab, hnames⟩ := hab
  · exact .inl (by omega)
  · obtain hbc | ⟨hbc, hnames'⟩ := hbc
    · exact .inl (by omega)
    · refine .inr ⟨hab.trans hbc, ?_⟩
      exact List.not_lt.2 (List.le_trans (List.not_lt.1 hnames) (List.not_lt.1 hnames'))

theorem before_total (a b : Nat × Text) : (before a b || before b a) = true := by
  rw [Bool.or_eq_true, before_iff, before_iff]
  obtain h | h | h := Nat.lt_trichotomy a.1 b.1
  · exact .inl (.inl h)
  · by_cases hnames : b.2 < a.2
    · exact .inr (.inr ⟨h.symm, List.lt_asymm hnames⟩)
    · exact .inl (.inr ⟨h, hnames⟩)
  · exact .inr (.inl h)

theorem before_antisymm (hab : before a b = true) (hba : before b a = true) : a = b := by
  rw [before_iff] at hab hba
  obtain hab | ⟨hnumber, hnames⟩ := hab
  · omega
  · obtain hba | ⟨-, hnames'⟩ := hba
    · omega
    · exact Prod.ext hnumber (List.le_antisymm (List.not_lt.1 hnames) (List.not_lt.1 hnames'))

theorem pairwise_mergeSort (l : List (Nat × Text)) :
    (l.mergeSort before).Pairwise fun a b => before a b = true :=
  List.pairwise_mergeSort before_trans before_total l

/-- There is one way to put files in order. -/
theorem mergeSort_eq (hp : l.Perm m) (hm : m.Pairwise fun a b => before a b = true) :
    l.mergeSort before = m :=
  ((List.mergeSort_perm l before).trans hp).eq_of_pairwise
    (fun _ _ _ _ => before_antisymm) (pairwise_mergeSort l) hm

theorem mergeSort_append (hp : l.Perm (m ++ r)) (hm : m.Pairwise fun a b => before a b = true)
    (hr : ∀ a ∈ m, ∀ b ∈ r, before a b = true) :
    l.mergeSort before = m ++ r.mergeSort before := by
  have hsorted := List.mergeSort_perm r before
  refine mergeSort_eq (hp.trans (hsorted.symm.append_left m)) (List.pairwise_append.2 ⟨hm, ?_, ?_⟩)
  · exact pairwise_mergeSort r
  · intro a ha b hb
    exact hr a ha b (hsorted.mem_iff.1 hb)

theorem exists_run_of_number? {name : Text} {n : Nat} (h : number? category name = some n) :
    ∃ run : Text, name = category ++ "_" ++ run ++ ".js" ∧ run ≠ [] ∧
      (∀ c ∈ run, c.isDigit = true) ∧ n = Text.ofDigits 10 (run.filterMap CodePoint.digit?) := by
  obtain ⟨mid, hmid, h⟩ := Option.bind_eq_some_iff.1 h
  obtain ⟨rest, hrest, h⟩ := Option.bind_eq_some_iff.1 h
  dsimp only at h
  split at h
  · cases h
  · rename_i hcond
    cases h
    rw [Bool.or_eq_true, not_or, Bool.not_eq_true, decide_eq_true_eq, not_not] at hcond
    obtain ⟨hne, htail⟩ := hcond
    refine ⟨rest.takeWhile CodePoint.isDigit, ?_, ?_, List.all_eq_true.1 List.all_takeWhile, rfl⟩
    · rw [Text.after?_eq_some_iff.1 hmid, Text.after?_eq_some_iff.1 hrest, ← htail,
        List.append_assoc, List.append_assoc, List.takeWhile_append_dropWhile]
    · intro hnil
      rw [hnil] at hne
      cases hne

theorem ne_dots_of_number? {name : Text} {n : Nat} (h : number? category name = some n) :
    name ≠ ".." := by
  obtain ⟨run, rfl, -⟩ := exists_run_of_number? h
  intro hdots
  have hmem : ('_' : CodePoint) ∈ Text.ofString ".." := by
    rw [← hdots]
    simp [Text.ofString]
  exact absurd hmem (by decide)

/-- The data files among some names, with their numbers. -/
def numbered (category : Text) (names : List Text) : List (Nat × Text) :=
  names.filterMap fun name => (number? category name).map (·, name)

theorem inOrder_eq (category : Text) (names : List Text) :
    inOrder category names = ((numbered category names).mergeSort before).map (·.2) := rfl

theorem inOrder_eq_map (sorted : List (Nat × Text)) (hp : (numbered category names).Perm sorted)
    (hsorted : sorted.Pairwise fun a b => before a b = true) :
    inOrder category names = sorted.map (·.2) := by
  rw [inOrder_eq, mergeSort_eq hp hsorted]

theorem mem_numbered :
    a ∈ numbered category names ↔ a.2 ∈ names ∧ number? category a.2 = some a.1 := by
  obtain ⟨n, name⟩ := a
  simp [numbered]

theorem mem_inOrder {name : Text} :
    name ∈ inOrder category names ↔ name ∈ names ∧ ∃ n, number? category name = some n := by
  rw [inOrder_eq, List.mem_map]
  constructor
  · rintro ⟨⟨n, name⟩, h, rfl⟩
    obtain ⟨hname, hn⟩ := mem_numbered.1 (List.mem_mergeSort.1 h)
    exact ⟨hname, n, hn⟩
  · rintro ⟨hname, n, hn⟩
    exact ⟨(n, name), List.mem_mergeSort.2 (mem_numbered.2 ⟨hname, hn⟩), rfl⟩

theorem numbered_filter (p : Text → Bool) (names : List Text) :
    numbered category (names.filter p) = (numbered category names).filter (p ·.2) := by
  induction names with
  | nil => rfl
  | cons name names ih =>
    rw [numbered] at ih ⊢
    cases hn : number? category name <;> cases hp : p name <;> simp [numbered, hn, hp, ih]

theorem inOrder_filter (p : Text → Bool) (names : List Text) :
    inOrder category (names.filter p) = (inOrder category names).filter p := by
  have hsorted := pairwise_mergeSort (numbered category names)
  have hperm : ((numbered category names).filter (p ·.2)).Perm
      (((numbered category names).mergeSort before).filter (p ·.2)) :=
    (List.mergeSort_perm _ before).symm.filter _
  rw [inOrder_eq, inOrder_eq, numbered_filter, mergeSort_eq hperm (hsorted.filter _),
    List.filter_map]
  rfl

/-- Whatever becomes of names that come after those that are kept, these stay in front. -/
theorem prefix_inOrder (h : inOrder category names = kept ++ rest)
    (hchanged : ∀ name ∈ changed, name ∈ rest ∧ name ∉ kept)
    (hsame : names'.filter (· ∉ changed) = names.filter (· ∉ changed)) :
    kept <+: inOrder category names' := by
  rw [inOrder_eq] at h
  obtain ⟨keptPairs, restPairs, hpairs, rfl, rfl⟩ := List.map_eq_append_iff.1 h
  have hsorted := pairwise_mergeSort (numbered category names)
  rw [hpairs, List.pairwise_append] at hsorted
  obtain ⟨hkept, -, hbehind⟩ := hsorted
  have hin : (numbered category names).Perm (keptPairs ++ restPairs) :=
    hpairs ▸ (List.mergeSort_perm _ before).symm
  have hself : keptPairs.filter (fun a => a.2 ∉ changed) = keptPairs := by
    refine List.filter_eq_self.2 fun a ha => decide_eq_true fun hc => ?_
    exact (hchanged a.2 hc).2 (List.mem_map_of_mem ha)
  have hothers : ((numbered category names').filter fun a => a.2 ∉ changed).Perm
      (keptPairs ++ restPairs.filter fun a => a.2 ∉ changed) := by
    have hfilter := hin.filter fun a => a.2 ∉ changed
    rwa [List.filter_append, hself, ← numbered_filter (· ∉ changed), ← hsame,
      numbered_filter (· ∉ changed)] at hfilter
  have hperm : (numbered category names').Perm (keptPairs ++
      ((restPairs.filter fun a => a.2 ∉ changed) ++
        (numbered category names').filter fun a => !decide (a.2 ∉ changed))) := by
    rw [← List.append_assoc]
    exact (List.filter_append_perm _ _).symm.trans (hothers.append_right _)
  have hr : ∀ a ∈ keptPairs, ∀ b ∈ (restPairs.filter fun a => a.2 ∉ changed) ++
      (numbered category names').filter (fun a => !decide (a.2 ∉ changed)), before a b = true := by
    intro a ha b hb
    refine hbehind a ha b ?_
    obtain hb | hb := List.mem_append.1 hb
    · exact List.mem_of_mem_filter hb
    · -- a changed name still has its number
      obtain ⟨hb, hc⟩ := List.mem_filter.1 hb
      obtain ⟨z, hz, hname⟩ := List.mem_map.1 (hchanged b.2 (by simpa using hc)).1
      have hnumber := (mem_numbered.1 (hin.mem_iff.2 (List.mem_append_right _ hz))).2
      rw [hname, (mem_numbered.1 hb).2] at hnumber
      rwa [Prod.ext (Option.some.inj hnumber) hname.symm]
  rw [inOrder_eq, mergeSort_append hperm hkept hr, List.map_append]
  exact List.prefix_append _ _

end TokenIndex.DataFile
