import TokenIndex.Load
import TokenIndex.Proofs.DataFile
import TokenIndex.Proofs.Literal.Digits
import TokenIndex.Proofs.Path

namespace TokenIndex.DataFile

open Literal.Grammar (Digits)

variable {category name : Text} {names names' : List Text} {n : Nat} {digits : List Nat}

/-- The name of a data file: the category, a low line, digits of any script, and `.js`. -/
inductive Named (category : Text) : Text → List Nat → Prop
  | mk {run : Text} {digits : List Nat} : run ≠ [] → Digits run digits →
      Named category (category ++ "_" ++ run ++ ".js") digits

theorem Named.number?_eq (h : Named category name digits) :
    number? category name = some (Text.ofDigits 10 digits) := by
  obtain @⟨run, digits, hne, hdigits⟩ := h
  have hend : Text.Ends CodePoint.isDigit ".js" := Text.ends_cons.2 (by decide)
  have hempty : digits.isEmpty = false := by
    rw [List.isEmpty_eq_false_iff]
    rintro rfl
    exact hne (List.eq_nil_of_length_eq_zero hdigits.length_eq.symm)
  rw [number?, List.append_assoc, List.append_assoc, Text.after?_append]
  simp only [bind, Option.bind_some, Text.after?_append, Text.takeWhile_run hdigits.isDigit hend,
    Text.dropWhile_run hdigits.isDigit hend, hdigits.filterMap, hempty]
  rfl

theorem number?_eq_some_iff : number? category name = some n ↔
    ∃ digits, Named category name digits ∧ n = Text.ofDigits 10 digits := by
  constructor
  · intro h
    obtain ⟨run, rfl, hne, hrun, rfl⟩ := exists_run_of_number? h
    obtain ⟨digits, hdigits⟩ := Literal.exists_digits hrun
    exact ⟨digits, .mk hne hdigits, by rw [hdigits.filterMap]⟩
  · rintro ⟨digits, h, rfl⟩
    exact h.number?_eq

/-- A name that the file system can hold has no more digits than are converted. -/
theorem Named.convertDigits_eq (h : Named category name digits) {bytes : Nat}
    (hbytes : Path.byteLength? name = some bytes) (hlength : bytes ≤ longestName) :
    Text.convertDigits digits = .ok (Text.ofDigits 10 digits) := by
  have hname := Path.length_le_byteLength hbytes
  obtain @⟨run, digits, -, hdigits⟩ := h
  have hrun : run.length ≤ (category ++ "_" ++ run ++ ".js").length :=
    (List.infix_append _ run _).length_le
  have hlimit : longestName ≤ TooManyDigits.limit := by decide
  rw [Text.convertDigits, if_neg]
  rw [hdigits.length_eq]
  omega

theorem map_numbered (category : Text) (names : List Text) :
    (numbered category names).map (·.2) = names.filter fun name => (number? category name).isSome := by
  induction names with
  | nil => rfl
  | cons name names ih =>
    rw [numbered] at ih ⊢
    cases hn : number? category name <;> simp [hn, ih]

theorem nodup_inOrder (h : names.Nodup) (category : Text) : (inOrder category names).Nodup := by
  have hperm : (inOrder category names).Perm ((numbered category names).map (·.2)) :=
    (List.mergeSort_perm _ before).map _
  rw [hperm.nodup_iff, map_numbered]
  exact h.filter _

theorem inOrder_eq_of_perm (h : names'.Perm names) (category : Text) :
    inOrder category names' = inOrder category names := by
  have hnumbered : (numbered category names').Perm (numbered category names) := h.filterMap _
  have hsorted : (numbered category names').Perm ((numbered category names).mergeSort before) :=
    hnumbered.trans (List.mergeSort_perm _ before).symm
  rw [inOrder_eq, inOrder_eq, mergeSort_eq hsorted (pairwise_mergeSort _)]

/-- Of two data files, the one that comes first. -/
def Precedes (category a b : Text) : Prop :=
  ∀ digits digits', Named category a digits → Named category b digits' →
    Text.ofDigits 10 digits < Text.ofDigits 10 digits' ∨
      Text.ofDigits 10 digits = Text.ofDigits 10 digits' ∧ a < b

theorem pairwise_inOrder (h : names.Nodup) (category : Text) :
    (inOrder category names).Pairwise (Precedes category) := by
  have hnodup := nodup_inOrder h category
  have hsorted := pairwise_mergeSort (numbered category names)
  rw [inOrder_eq] at hnodup ⊢
  rw [List.Nodup, List.pairwise_map] at hnodup
  rw [List.pairwise_map]
  refine (hsorted.and hnodup).imp_of_mem ?_
  rintro a b ha hb ⟨hbefore, hne⟩ digits digits' hdigits hdigits'
  have hnumber {a : Nat × Text} {digits : List Nat}
      (h : a ∈ (numbered category names).mergeSort before)
      (hdigits : Named category a.2 digits) : a.1 = Text.ofDigits 10 digits := by
    have hn := (mem_numbered.1 (List.mem_mergeSort.1 h)).2
    rw [hdigits.number?_eq] at hn
    exact (Option.some.inj hn).symm
  rw [← hnumber ha hdigits, ← hnumber hb hdigits']
  obtain hlt | ⟨heq, hnames⟩ := before_iff.1 hbefore
  · exact .inl hlt
  · refine .inr ⟨heq, Classical.byContradiction fun hge => hne ?_⟩
    exact List.le_antisymm (List.not_lt.1 hnames) (List.not_lt.1 hge)

/-- The data files of a directory that lists certain names, all different and none too long for a
file system. They are the names of a category and a number; no number is too long to convert; each
name comes once, the lower number first, and of two spellings of a number the lower name. The order
of the listing does not matter. -/
theorem dataFiles_listing (hnodup : names.Nodup)
    (hlength : ∀ name ∈ names, ∃ bytes, Path.byteLength? name = some bytes ∧ bytes ≤ longestName)
    (category : Text) :
    (∀ name, name ∈ inOrder category names ↔
      name ∈ names ∧ ∃ digits, Named category name digits) ∧
    (∀ name ∈ names, ∀ digits, Named category name digits →
      Text.convertDigits digits = .ok (Text.ofDigits 10 digits)) ∧
    (inOrder category names).Nodup ∧
    (inOrder category names).Pairwise (Precedes category) ∧
    ∀ fs dir, (Files.listing fs dir).Perm names →
      Load.dataFiles fs dir category = (inOrder category names).map dir.child := by
  refine ⟨fun name => ?_, ?_, nodup_inOrder hnodup category, pairwise_inOrder hnodup category, ?_⟩
  · rw [mem_inOrder]
    refine and_congr_right fun _ => ⟨?_, ?_⟩
    · rintro ⟨n, hn⟩
      obtain ⟨digits, hdigits, -⟩ := number?_eq_some_iff.1 hn
      exact ⟨digits, hdigits⟩
    · rintro ⟨digits, hdigits⟩
      exact ⟨_, hdigits.number?_eq⟩
  · intro name hname digits hdigits
    obtain ⟨bytes, hbytes, hle⟩ := hlength name hname
    exact hdigits.convertDigits_eq hbytes hle
  · intro fs dir hlisting
    rw [Load.dataFiles, inOrder_eq_of_perm hlisting]

/-- Two spellings of one, an Arabic two, a ten, and a name without a number. -/
def mixedNames : List Text := ["all_10.js", "all.js", "all_1.js", "all_\u0662.js", "all_01.js"]

def mixedOrder : List Text := ["all_01.js", "all_1.js", "all_\u0662.js", "all_10.js"]

theorem dataFiles_listing_mixed : mixedNames.Nodup ∧ inOrder "all" mixedNames = mixedOrder ∧
    ∀ fs dir, (Files.listing fs dir).Perm mixedNames →
      Load.dataFiles fs dir "all" = mixedOrder.map dir.child := by
  have hnodup : mixedNames.Nodup := by decide
  have hshort : ∀ name ∈ mixedNames, (Path.byteLength? name).any (· ≤ longestName) = true := by
    decide
  have hlength : ∀ name ∈ mixedNames,
      ∃ bytes, Path.byteLength? name = some bytes ∧ bytes ≤ longestName := by
    intro name hname
    obtain ⟨bytes, hbytes, hle⟩ := (Option.any_eq_true ..).1 (hshort name hname)
    exact ⟨bytes, hbytes, of_decide_eq_true hle⟩
  have hperm : (numbered "all" mixedNames).Perm (numbered "all" mixedOrder) := by decide
  have hsorted : (numbered "all" mixedOrder).Pairwise fun a b => before a b = true := by decide
  have horder : inOrder "all" mixedNames = mixedOrder := by
    rw [inOrder_eq, mergeSort_eq hperm hsorted]
    decide
  obtain ⟨-, -, -, -, hfiles⟩ := dataFiles_listing hnodup hlength "all"
  exact ⟨hnodup, horder, horder ▸ hfiles⟩

end TokenIndex.DataFile
