import TokenIndex.Text.Integer
import TokenIndex.Proofs.Basic
import Mathlib.Data.List.Induction
import Mathlib.Data.Nat.Digits.Defs
import Mathlib.Tactic.SplitIfs

namespace TokenIndex.Text

def digitSign (d : Nat) : CodePoint := .ofChar (Nat.digitChar d)

theorem exists_decimal (n : Nat) :
    ∃ digits, decimal n = digits.map digitSign ∧ (∀ d ∈ digits, d < 10) ∧
      ofDigits 10 digits = n ∧ digits ≠ [] ∧ (0 < n → digits.head? ≠ some 0) := by
  induction n using Nat.strongRecOn with
  | _ n ih =>
    by_cases h : n < 10
    · refine ⟨[n], ?_, by simpa using h, by simp [ofDigits], List.cons_ne_nil _ _, ?_⟩
      · rw [decimal, Nat.toDigits_of_lt_base h]
        rfl
      · intro hpos
        rw [List.head?_cons, Ne, Option.some.injEq]
        exact Nat.ne_of_gt hpos
    · obtain ⟨digits, hdecimal, hsmall, hvalue, hne, hlead⟩ := ih (n / 10) (by omega)
      refine ⟨digits ++ [n % 10], ?_, ?_, ?_, List.append_ne_nil_of_left_ne_nil hne _, ?_⟩
      · rw [decimal] at hdecimal
        rw [decimal, Nat.toDigits_of_base_le (by decide) (by omega), List.map_append, hdecimal,
          List.map_append]
        rfl
      · refine List.forall_mem_append.2 ⟨hsmall, ?_⟩
        rw [List.forall_mem_singleton]
        omega
      · rw [ofDigits] at hvalue
        rw [ofDigits, List.foldl_append, hvalue]
        simp only [List.foldl_cons, List.foldl_nil]
        omega
      · rw [List.head?_append, Option.or_of_isSome (List.isSome_head?.2 hne)]
        exact fun _ => hlead (by omega)

theorem length_decimal_le {n k : Nat} (hk : 0 < k) (h : n < 10 ^ k) : (decimal n).length ≤ k := by
  rw [decimal, List.length_map]
  exact Nat.toDigits_length 10 n k hk h

theorem digit?_digitSign {d : Nat} (h : d < 10) : CodePoint.digit? (digitSign d) = some d := by
  have all : ∀ e : Fin 10, CodePoint.digit? (digitSign e) = some e.val := by decide
  exact all ⟨d, h⟩

theorem asciiDigit?_digitSign {d : Nat} (h : d < 10) : asciiDigit? (digitSign d) = some d := by
  have all : ∀ e : Fin 10, asciiDigit? (digitSign e) = some e.val := by decide
  exact all ⟨d, h⟩

theorem between_digitSign {d : Nat} (h : d < 10) : (digitSign d).between '0' '9' = true := by
  have all : ∀ e : Fin 10, (digitSign e).between '0' '9' = true := by decide
  exact all ⟨d, h⟩

theorem mapM_digitSign {digits : List Nat} (h : ∀ d ∈ digits, d < 10) :
    (digits.map digitSign).mapM asciiDigit? = some digits := by
  induction digits with
  | nil => rfl
  | cons d digits ih =>
    rw [List.forall_mem_cons] at h
    rw [List.map_cons, List.mapM_cons, asciiDigit?_digitSign h.1, ih h.2]
    rfl

theorem between_of_mem_decimal {n : Nat} {c : CodePoint} (h : c ∈ decimal n) :
    c.between '0' '9' = true := by
  obtain ⟨digits, hdecimal, hsmall, -⟩ := exists_decimal n
  rw [hdecimal] at h
  obtain ⟨d, hd, rfl⟩ := List.mem_map.1 h
  exact between_digitSign (hsmall d hd)

theorem decimalInt_plain (i : Int) : (decimalInt i).hasSurrogate = false := by
  have hdecimal : (decimal i.natAbs).hasSurrogate = false :=
    hasSurrogate_of_ascii fun _ hc =>
      CodePoint.ascii_of_between (between_of_mem_decimal hc) (by decide)
  rw [decimalInt]
  split_ifs
  · exact @hasSurrogate_append "-" _ rfl hdecimal
  · exact hdecimal

theorem convertDigits_eq_error_iff {digits : List Nat} {e : TooManyDigits} :
    convertDigits digits = .error e ↔ TooManyDigits.limit < digits.length ∧
      e = ⟨digits.length⟩ := by
  rw [convertDigits]
  split_ifs with h
  · rw [Except.error.injEq]
    exact ⟨fun he => ⟨h, he.symm⟩, fun he => he.2.symm⟩
  · exact ⟨nofun, fun he => absurd he.1 h⟩

theorem ofDigits_lt {base : Nat} {digits : List Nat} (h : ∀ d ∈ digits, d < base) :
    ofDigits base digits < base ^ digits.length := by
  induction digits using List.reverseRecOn with
  | nil => exact Nat.zero_lt_one
  | append_singleton digits d ih =>
    rw [List.forall_mem_append, List.forall_mem_singleton] at h
    rw [List.length_append, List.length_singleton, Nat.pow_succ]
    calc ofDigits base (digits ++ [d])
      _ = ofDigits base digits * base + d := by rw [ofDigits, List.foldl_append]; rfl
      _ < ofDigits base digits * base + base := Nat.add_lt_add_left h.2 _
      _ = (ofDigits base digits + 1) * base := (Nat.succ_mul _ _).symm
      _ ≤ base ^ digits.length * base := Nat.mul_le_mul_right base (ih h.1)

theorem hexDigit?_lt {c : CodePoint} {d : Nat} (h : hexDigit? c = some d) : d < 16 := by
  simp only [hexDigit?, CodePoint.between, Bool.and_eq_true, decide_eq_true_eq] at h
  have hletters : '0'.toNat = 48 ∧ '9'.toNat = 57 ∧ 'a'.toNat = 97 ∧ 'f'.toNat = 102 ∧
      'A'.toNat = 65 ∧ 'F'.toNat = 70 := by decide
  split_ifs at h <;> (cases h; omega)

theorem digit?_lt {c : CodePoint} {d : Nat} (h : c.digit? = some d) : d < 10 := by
  obtain ⟨z, hz, rfl⟩ := Option.map_eq_some_iff.1 h
  have hrange := List.find?_some hz
  rw [Bool.and_eq_true, decide_eq_true_eq, decide_eq_true_eq] at hrange
  omega

theorem groupedDigits?_lt {t : Text} {digits : List Nat}
    (h : groupedDigits? CodePoint.digit? t = some digits) : ∀ d ∈ digits, d < 10 := by
  fun_induction groupedDigits? CodePoint.digit? t generalizing digits with
  | case1 => cases h
  | case2 => cases h
  | case3 c d hd =>
    cases h
    rw [List.forall_mem_singleton]
    exact digit?_lt hd
  | case4 c d u more hd ih =>
    obtain ⟨rest, hrest, rfl⟩ := Option.map_eq_some_iff.1 h
    exact List.forall_mem_cons.2 ⟨digit?_lt hd, ih hrest⟩

theorem natAbs_lt_of_toInt? {t : Text} {i : Int} (h : t.toInt? = some i) :
    i.natAbs < 10 ^ TooManyDigits.limit := by
  rw [toInt?] at h
  generalize splitSign t.trimNumber = signed at h
  obtain ⟨negative, body⟩ := signed
  obtain ⟨digits, hdigits, h⟩ := Option.bind_eq_some_iff.1 h
  obtain ⟨n, hn, h⟩ := Option.bind_eq_some_iff.1 h
  have hlt : n < 10 ^ TooManyDigits.limit := by
    rw [convertDigits] at hn
    by_cases hlength : digits.length > TooManyDigits.limit
    · rw [if_pos hlength] at hn
      cases hn
    · rw [if_neg hlength] at hn
      cases hn
      exact Nat.lt_of_lt_of_le (ofDigits_lt (groupedDigits?_lt hdigits))
        (Nat.pow_le_pow_right (by decide) (Nat.not_lt.1 hlength))
  cases h
  cases negative
  · exact hlt
  · rw [if_pos rfl, Int.natAbs_neg]
    exact hlt

end TokenIndex.Text
