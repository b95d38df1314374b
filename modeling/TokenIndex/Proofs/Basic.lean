import TokenIndex.Text.Digit
import TokenIndex.Text.Word
import TokenIndex.Text.Blank

namespace TokenIndex

theorem map_eq_ok_iff {ε α β : Type} {x : Except ε α} {f : α → β} {b : β} :
    x.map f = .ok b ↔ ∃ a, x = .ok a ∧ f a = b := by
  cases x <;> simp [Except.map]

theorem map_eq_error_iff {ε α β : Type} {x : Except ε α} {f : α → β} {e : ε} :
    x.map f = .error e ↔ x = .error e := by
  cases x <;> simp [Except.map]

namespace CodePoint

theorem val_ofNat {n : Nat} (h : n < 0x110000) : (ofNat n).val = n := by
  rw [ofNat, dif_pos h]

theorem ofNat_val (c : CodePoint) : ofNat c.val = c := by
  rw [ofNat, dif_pos c.isLt]

/-- Of ASCII characters, whether those with one property have another can be tried out. -/
theorem of_ascii {p q : CodePoint → Bool}
    (h : ∀ n : Fin 0x80, p (ofNat n.val) = true → q (ofNat n.val) = true) {c : CodePoint}
    (hc : c.val < 0x80) (hp : p c = true) : q c = true := by
  have hn := h ⟨c.val, hc⟩
  rw [ofNat_val] at hn
  exact hn hp

theorem isSurrogate_eq_false_iff {c : CodePoint} :
    c.isSurrogate = false ↔ c.val < 0xD800 ∨ 0xDFFF < c.val := by
  simp only [isSurrogate, Bool.and_eq_false_iff, decide_eq_false_iff_not]
  omega

theorem ascii_of_between {c : CodePoint} {first last : Char} (h : c.between first last = true)
    (hlast : last.toNat < 0x80) : c.val < 0x80 := by
  rw [between, Bool.and_eq_true, decide_eq_true_eq, decide_eq_true_eq] at h
  exact Nat.lt_of_le_of_lt h.2 hlast

end CodePoint

namespace Intervals

def apart (s t : Intervals) : Bool := s.all fun i => t.all fun j => i.2 < j.1 || j.2 < i.1

theorem has_eq_false_of_apart {s t : Intervals} {c : CodePoint} (h : apart s t = true)
    (hs : s.has c = true) : t.has c = false := by
  rw [← Bool.not_eq_true]
  intro ht
  obtain ⟨i, hi, hic⟩ := List.any_eq_true.1 hs
  obtain ⟨j, hj, hjc⟩ := List.any_eq_true.1 ht
  have hij := List.all_eq_true.1 (List.all_eq_true.1 h i hi) j hj
  simp only [Bool.or_eq_true, Bool.and_eq_true, decide_eq_true_eq] at hij hic hjc
  omega

end Intervals

namespace CodePoint

theorem isDigit_iff {c : CodePoint} :
    c.isDigit = true ↔ Intervals.has (digitZeros.map fun z => (z, z + 9)) c = true := by
  simp only [isDigit, digit?, Option.isSome_map, List.find?_isSome, Intervals.has, List.any_map,
    List.any_eq_true, Function.comp_apply, Bool.and_eq_true, decide_eq_true_eq]

theorem isSurrogate_eq_has (c : CodePoint) :
    c.isSurrogate = Intervals.has [(0xD800, 0xDFFF)] c :=
  (Bool.or_false _).symm

theorem between_eq_has (c : CodePoint) (first last : Char) :
    c.between first last = Intervals.has [(first.toNat, last.toNat)] c :=
  (Bool.or_false _).symm

theorem not_isWord_of_isBlank {c : CodePoint} (h : c.isBlank = true) : c.isWord = false :=
  Intervals.has_eq_false_of_apart (by decide +kernel) h

theorem not_continuesName_of_isBlank {c : CodePoint} (h : c.isBlank = true) :
    c.continuesName = false := by
  rw [continuesName, not_isWord_of_isBlank h, Bool.false_or, decide_eq_false_iff_not]
  rintro rfl
  exact absurd h (by decide)

theorem not_isBlank_of_startsName {c : CodePoint} (h : c.startsName = true) :
    c.isBlank = false := by
  simp only [startsName, Bool.or_eq_true, decide_eq_true_eq, between_eq_has] at h
  obtain ((h | h) | rfl) | rfl := h
  · exact Intervals.has_eq_false_of_apart (by decide +kernel) h
  · exact Intervals.has_eq_false_of_apart (by decide +kernel) h
  · decide
  · decide

theorem not_isDigit_of_isBlank {c : CodePoint} (h : c.isBlank = true) : c.isDigit = false := by
  rw [← Bool.not_eq_true, isDigit_iff, Bool.not_eq_true]
  exact Intervals.has_eq_false_of_apart (by decide +kernel) h

theorem not_isSurrogate_of_isDigit {c : CodePoint} (h : c.isDigit = true) :
    c.isSurrogate = false := by
  rw [isSurrogate_eq_has]
  exact Intervals.has_eq_false_of_apart (by decide +kernel) (isDigit_iff.1 h)

theorem not_isSurrogate_of_isBlank {c : CodePoint} (h : c.isBlank = true) :
    c.isSurrogate = false := by
  rw [isSurrogate_eq_has]
  exact Intervals.has_eq_false_of_apart (by decide +kernel) h

end CodePoint

namespace Text

theorem after?_append (lead rest : Text) : after? lead (lead ++ rest) = some rest := by
  induction lead with
  | nil => rfl
  | cons a lead ih => rw [List.cons_append, after?, if_pos rfl, ih]

theorem after?_eq_some_iff {lead s rest : Text} : after? lead s = some rest ↔ s = lead ++ rest := by
  refine ⟨fun h => ?_, fun h => h ▸ after?_append lead rest⟩
  induction lead generalizing s with
  | nil => exact Option.some.inj h
  | cons a lead ih =>
    cases s with
    | nil => cases h
    | cons b s =>
      rw [after?] at h
      split at h
      · rename_i hab
        rw [ih h, hab, List.cons_append]
      · cases h

theorem startsWith_iff {t lead : Text} : t.startsWith lead = true ↔ lead <+: t := by
  rw [startsWith, Option.isSome_iff_exists, List.IsPrefix]
  simp only [after?_eq_some_iff, @eq_comm _ t]

/-- A text that ends a run of code points with a property: it is empty or begins with one
without it. -/
def Ends (p : CodePoint → Bool) (t : Text) : Prop := ∀ c ∈ t.head?, p c = false

theorem ends_nil (p : CodePoint → Bool) : Ends p [] := by
  intro c hc
  cases hc

theorem ends_cons {p : CodePoint → Bool} {c : CodePoint} {t : Text} :
    Ends p (c :: t) ↔ p c = false := by
  simp [Ends]

theorem Ends.of_head? {p : CodePoint → Bool} {s t : Text} (hs : Ends p s)
    (h : t.head? = s.head?) : Ends p t := by
  intro c hc
  exact hs c (h ▸ hc)

theorem ends_dropWhile (p : CodePoint → Bool) (t : Text) : Ends p (t.dropWhile p) := by
  intro c hc
  have hhead := List.head?_dropWhile_not p t
  rw [Option.mem_def.1 hc] at hhead
  exact hhead

theorem after?_singleton_eq_none_iff {a : CodePoint} {t : Text} :
    after? [a] t = none ↔ Ends (a = ·) t := by
  cases t with
  | nil => exact ⟨fun _ => ends_nil _, fun _ => rfl⟩
  | cons c t =>
    rw [ends_cons, decide_eq_false_iff_not, after?]
    by_cases h : a = c <;> simp [h, after?]

section Run

variable {p : CodePoint → Bool} {run rest : Text}

theorem takeWhile_run (hrun : ∀ c ∈ run, p c = true) (hrest : Ends p rest) :
    (run ++ rest).takeWhile p = run := by
  rw [List.takeWhile_append_of_pos hrun]
  cases rest with
  | nil => rw [List.takeWhile_nil, List.append_nil]
  | cons c rest => rw [List.takeWhile_cons, ends_cons.1 hrest, if_neg (by decide), List.append_nil]

theorem dropWhile_run (hrun : ∀ c ∈ run, p c = true) (hrest : Ends p rest) :
    (run ++ rest).dropWhile p = rest := by
  rw [List.dropWhile_append_of_pos hrun]
  cases rest with
  | nil => rfl
  | cons c rest => rw [List.dropWhile_cons, ends_cons.1 hrest, if_neg (by decide)]

theorem exists_run (p : CodePoint → Bool) (t : Text) :
    ∃ run, t = run ++ t.dropWhile p ∧ ∀ c ∈ run, p c = true :=
  ⟨t.takeWhile p, List.takeWhile_append_dropWhile.symm, List.all_eq_true.1 List.all_takeWhile⟩

end Run

section SplitOn

variable {sep : CodePoint} {t : Text}

theorem splitOn_of_not_mem (h : sep ∉ t) : splitOn sep t = [t] := by
  induction t with
  | nil => rfl
  | cons c t ih =>
    rw [List.mem_cons, not_or] at h
    rw [splitOn, if_neg (Ne.symm h.1), ih h.2]

theorem splitOn_append (h : sep ∉ t) (rest : Text) :
    splitOn sep (t ++ sep :: rest) = t :: splitOn sep rest := by
  induction t with
  | nil => rw [List.nil_append, splitOn, if_pos rfl]
  | cons c t ih =>
    rw [List.mem_cons, not_or] at h
    rw [List.cons_append, splitOn, if_neg (Ne.symm h.1), ih h.2]

theorem splitOn_join {ts : List Text} (h : ∀ t ∈ ts, sep ∉ t) (hne : ts ≠ []) :
    splitOn sep (join [sep] ts) = ts := by
  induction ts with
  | nil => exact absurd rfl hne
  | cons t ts ih =>
    rw [List.forall_mem_cons] at h
    cases ts with
    | nil => exact splitOn_of_not_mem h.1
    | cons u ts =>
      rw [join, List.append_assoc, List.singleton_append, splitOn_append h.1,
        ih h.2 (List.cons_ne_nil _ _)]
      exact List.cons_ne_nil _ _

end SplitOn

theorem hasSurrogate_eq_false_iff {t : Text} :
    t.hasSurrogate = false ↔ ∀ c ∈ t, c.isSurrogate = false := by
  simp only [hasSurrogate, List.any_eq_false, Bool.not_eq_true]

theorem hasSurrogate_cons (c : CodePoint) (t : Text) :
    hasSurrogate (c :: t) = (c.isSurrogate || t.hasSurrogate) :=
  List.any_cons

theorem hasSurrogate_singleton (c : CodePoint) : hasSurrogate [c] = c.isSurrogate :=
  Bool.or_false _

theorem hasSurrogate_of_ascii {t : Text} (h : ∀ c ∈ t, c.val < 0x80) : t.hasSurrogate = false := by
  rw [hasSurrogate_eq_false_iff]
  intro c hc
  exact CodePoint.isSurrogate_eq_false_iff.2 (.inl (Nat.lt_trans (h c hc) (by decide)))

theorem hasSurrogate_append {s t : Text} (hs : s.hasSurrogate = false)
    (ht : t.hasSurrogate = false) : (s ++ t).hasSurrogate = false := by
  rw [hasSurrogate] at hs ht
  rw [hasSurrogate, List.any_append, hs, ht]
  rfl

theorem hasSurrogate_flatMap {f : CodePoint → Text} {t : Text}
    (hf : ∀ c, c.isSurrogate = false → (f c).hasSurrogate = false)
    (ht : t.hasSurrogate = false) : hasSurrogate (t.flatMap f) = false := by
  rw [hasSurrogate_eq_false_iff] at ht ⊢
  intro d hd
  obtain ⟨c, hc, hdc⟩ := List.mem_flatMap.1 hd
  exact hasSurrogate_eq_false_iff.1 (hf c (ht c hc)) d hdc

end Text

end TokenIndex
