import TokenIndex.Proofs.Reference
import TokenIndex.Proofs.Text.Decimal
import Mathlib.Data.List.Infix

namespace TokenIndex.Reference

/-- One digit or more, as `digit?` reads them. -/
structure Run (digit? : CodePoint → Option Nat) (t : Text) : Prop where
  ne_nil : t ≠ []
  digits : ∀ c ∈ t, (digit? c).isSome = true

/-- The number of a reference as it is written, and what it comes to. -/
inductive Numeral : Text → Except TooManyDigits Nat → Prop
  | decimal {t : Text} : Run Text.asciiDigit? t →
      Numeral t (Text.convertDigits (t.filterMap Text.asciiDigit?))
  | hex {x : CodePoint} {t : Text} : x = 'x' ∨ x = 'X' → Run Text.hexDigit? t →
      Numeral (x :: t) (.ok (Text.ofDigits 16 (t.filterMap Text.hexDigit?)))

/-- What may stand behind a name or a number and belongs to the reference. -/
inductive Mark : Text → Prop
  | none : Mark []
  | semicolon : Mark ";"

theorem exists_semicolon (s : Text) :
    ∃ mark, s = mark ++ (semicolon s).2 ∧ (semicolon s).1 = mark ∧ Mark mark := by
  cases s with
  | nil => exact ⟨[], rfl, rfl, .none⟩
  | cons c rest =>
    rw [semicolon]
    by_cases hc : c = ';'
    · rw [if_pos hc, hc]
      exact ⟨";", rfl, rfl, .semicolon⟩
    · rw [if_neg hc]
      exact ⟨[], rfl, rfl, .none⟩

theorem semicolon_append {mark rest : Text} (h : Mark mark) (hrest : rest.head? ≠ some ';') :
    (semicolon (mark ++ rest)).2 = rest := by
  cases h with
  | none =>
    cases rest with
    | nil => rfl
    | cons c rest =>
      have hc : c ≠ ';' := fun hc => hrest (congrArg some hc)
      rw [List.nil_append, semicolon, if_neg hc]
  | semicolon => rfl

section Run

variable {digit? : CodePoint → Option Nat} {t rest : Text}

theorem Run.takeWhile (h : Run digit? t) (hrest : Text.Ends (fun c => (digit? c).isSome) rest) :
    (t ++ rest).takeWhile (fun c => (digit? c).isSome) = t :=
  Text.takeWhile_run h.digits hrest

theorem run_takeWhile (h : t.takeWhile (fun c => (digit? c).isSome) ≠ []) :
    Run digit? (t.takeWhile fun c => (digit? c).isSome) :=
  ⟨h, List.all_eq_true.1 List.all_takeWhile⟩

theorem Run.length_filterMap (h : Run digit? t) : (t.filterMap digit?).length = t.length := by
  rw [List.length_filterMap_eq_countP, List.countP_eq_length]
  exact h.digits

end Run

theorem numeric?_sound {s rest : Text} {r : Except TooManyDigits Text}
    (h : numeric? s = some (r, rest)) :
    ∃ t mark n, s = t ++ mark ++ rest ∧ Numeral t n ∧ Mark mark ∧ r = n.map numeric := by
  unfold numeric? at h
  dsimp only at h
  split at h
  · split at h
    · cases h
    · rename_i x more _
      split at h
      · rename_i hx
        cases h
        have hrun := @run_takeWhile Text.hexDigit? more (by simpa using hx.2)
        obtain ⟨mark, hmore, -, hmark⟩ := exists_semicolon (more.drop
          (more.takeWhile fun c => (Text.hexDigit? c).isSome).length)
        refine ⟨_, mark, _, ?_, .hex hx.1 hrun, hmark, rfl⟩
        rw [List.cons_append, List.cons_append, List.append_assoc, ← hmore,
          ← List.prefix_append_drop (List.takeWhile_prefix _)]
      · cases h
  · rename_i hne
    cases h
    have hrun := @run_takeWhile Text.asciiDigit? s (by simpa using hne)
    obtain ⟨mark, hmore, -, hmark⟩ := exists_semicolon (s.drop
      (s.takeWhile fun c => (Text.asciiDigit? c).isSome).length)
    refine ⟨_, mark, _, ?_, .decimal hrun, hmark, rfl⟩
    rw [List.append_assoc, ← hmore, ← List.prefix_append_drop (List.takeWhile_prefix _)]

/-- Nothing that goes on with a numeral or its mark. -/
structure Apart (rest : Text) : Prop where
  digit : Text.Ends (fun c => (Text.hexDigit? c).isSome) rest
  mark : rest.head? ≠ some ';'

theorem isSome_hexDigit?_of_ascii {c : CodePoint} (h : (Text.asciiDigit? c).isSome = true) :
    (Text.hexDigit? c).isSome = true := by
  rw [Text.asciiDigit?] at h
  split_ifs at h with hc
  · rw [Text.hexDigit?, if_pos hc]
    rfl
  · cases h

theorem isSome_eq_false_of_hex {c : CodePoint} (h : (Text.hexDigit? c).isSome = false) :
    (Text.asciiDigit? c).isSome = false := by
  rw [← Bool.not_eq_true] at h ⊢
  exact mt isSome_hexDigit?_of_ascii h

theorem ends_mark {p : CodePoint → Bool} {mark rest : Text} (h : Mark mark) (hp : p ';' = false)
    (hrest : Text.Ends p rest) : Text.Ends p (mark ++ rest) := by
  cases h with
  | none => exact hrest
  | semicolon => exact Text.ends_cons.2 hp

theorem numeric?_of_digits {s : Text}
    (h : s.takeWhile (fun c => (Text.asciiDigit? c).isSome) ≠ []) :
    numeric? s = some ((Text.convertDigits ((s.takeWhile fun c =>
        (Text.asciiDigit? c).isSome).filterMap Text.asciiDigit?)).map numeric,
      (semicolon (s.drop (s.takeWhile fun c => (Text.asciiDigit? c).isSome).length)).2) := by
  unfold numeric?
  dsimp only
  rw [if_neg (by rwa [List.isEmpty_iff])]

theorem numeric?_of_letter {x : CodePoint} {s : Text} (hx : x = 'x' ∨ x = 'X')
    (h : s.takeWhile (fun c => (Text.hexDigit? c).isSome) ≠ []) :
    numeric? (x :: s) = some (.ok (numeric (Text.ofDigits 16 ((s.takeWhile fun c =>
        (Text.hexDigit? c).isSome).filterMap Text.hexDigit?))),
      (semicolon (s.drop (s.takeWhile fun c => (Text.hexDigit? c).isSome).length)).2) := by
  have hascii : (x :: s).takeWhile (fun c => (Text.asciiDigit? c).isSome) = [] := by
    rcases hx with rfl | rfl <;> rfl
  unfold numeric?
  dsimp only
  rw [hascii, if_pos List.isEmpty_nil, if_pos]
  exact ⟨hx, by simpa using h⟩

theorem numeric?_complete {t mark rest : Text} {n : Except TooManyDigits Nat} (ht : Numeral t n)
    (hmark : Mark mark) (hrest : Apart rest) :
    numeric? (t ++ mark ++ rest) = some (n.map numeric, rest) := by
  have hhex : Text.Ends (fun c => (Text.hexDigit? c).isSome) (mark ++ rest) :=
    ends_mark hmark (by decide) hrest.digit
  have hend := semicolon_append hmark hrest.mark
  rw [List.append_assoc]
  cases ht with
  | decimal h =>
    have hascii : Text.Ends (fun c => (Text.asciiDigit? c).isSome) (mark ++ rest) :=
      fun c hc => isSome_eq_false_of_hex (hhex c hc)
    have hrun := h.takeWhile hascii
    rw [numeric?_of_digits (by rw [hrun]; exact h.ne_nil), hrun, List.drop_left, hend]
  | @hex x t hx h =>
    have hrun := h.takeWhile hhex
    rw [List.cons_append, numeric?_of_letter hx (by rw [hrun]; exact h.ne_nil), hrun,
      List.drop_left, hend]
    rfl

theorem Numeral.eq_error {t : Text} {e : TooManyDigits} (h : Numeral t (.error e)) :
    Run Text.asciiDigit? t ∧ TooManyDigits.limit < t.length ∧ e = ⟨t.length⟩ := by
  generalize hn : Except.error e = n at h
  cases h with
  | decimal h =>
    obtain ⟨hlimit, he⟩ := Text.convertDigits_eq_error_iff.1 hn.symm
    rw [h.length_filterMap] at hlimit he
    exact ⟨h, hlimit, he⟩
  | hex => cases hn

theorem exists_numeric?_error {digits : Text} (h : ∀ c ∈ digits, (Text.asciiDigit? c).isSome = true)
    (hlimit : TooManyDigits.limit < digits.length) (rest : Text) :
    ∃ e after, numeric? (digits ++ rest) = some (.error e, after) := by
  have hrun : (digits ++ rest).takeWhile (fun c => (Text.asciiDigit? c).isSome) =
      digits ++ rest.takeWhile fun c => (Text.asciiDigit? c).isSome :=
    List.takeWhile_append_of_pos h
  have hne : digits ++ rest.takeWhile (fun c => (Text.asciiDigit? c).isSome) ≠ [] := by
    apply List.append_ne_nil_of_left_ne_nil
    rintro rfl
    exact absurd hlimit (Nat.not_lt_zero _)
  rw [← hrun] at hne
  have hdigits := run_takeWhile hne
  have hlong : TooManyDigits.limit < (((digits ++ rest).takeWhile fun c =>
      (Text.asciiDigit? c).isSome).filterMap Text.asciiDigit?).length := by
    rw [hdigits.length_filterMap, hrun, List.length_append]
    exact Nat.lt_add_right _ hlimit
  rw [numeric?_of_digits hne, Text.convertDigits_eq_error_iff.2 ⟨hlong, rfl⟩]
  exact ⟨_, _, rfl⟩

theorem reference?_sound {s rest : Text} {r : Except TooManyDigits Text}
    (h : reference? s = some (r, rest)) :
    (∃ t mark n, s = "#" ++ t ++ mark ++ rest ∧ Numeral t n ∧ Mark mark ∧ r = n.map numeric) ∨
      ∃ name mark, s = name ++ mark ++ rest ∧ (∀ c ∈ name, isNamePart c = true) ∧ Mark mark ∧
        r = .ok (nameText (name ++ mark)) := by
  cases s with
  | nil => cases h
  | cons c more =>
    rw [reference?] at h
    by_cases hc : c = '#'
    · rw [if_pos hc] at h
      obtain ⟨t, mark, n, rfl, ht, hmark, hr⟩ := numeric?_sound h
      exact .inl ⟨t, mark, n, by rw [hc]; rfl, ht, hmark, hr⟩
    · rw [if_neg hc] at h
      dsimp only at h
      split at h
      · cases h
      · cases h
        have hlead : ((c :: more).take 32).takeWhile isNamePart <+: c :: more :=
          (List.takeWhile_prefix _).trans (List.take_prefix _ _)
        obtain ⟨mark, hmore, hfst, hmark⟩ := exists_semicolon
          ((c :: more).drop (((c :: more).take 32).takeWhile isNamePart).length)
        refine .inr ⟨_, mark, ?_, List.all_eq_true.1 List.all_takeWhile, hmark, by rw [hfst]⟩
        rw [List.append_assoc, ← hmore, ← List.prefix_append_drop hlead]

theorem ampersand_not_mem_of_forall {p : CodePoint → Bool} {t : Text} (h : ∀ c ∈ t, p c = true)
    (hp : p '&' = false) : ('&' : CodePoint) ∉ t := by
  intro hmem
  rw [h _ hmem] at hp
  cases hp

theorem Mark.ampersand_not_mem {mark : Text} (h : Mark mark) : ('&' : CodePoint) ∉ mark := by
  cases h <;> decide

theorem Numeral.ampersand_not_mem {t : Text} {n : Except TooManyDigits Nat} (h : Numeral t n) :
    ('&' : CodePoint) ∉ t := by
  cases h with
  | decimal h => exact ampersand_not_mem_of_forall h.digits (by decide)
  | hex hx h =>
    rw [List.mem_cons, not_or]
    refine ⟨?_, ampersand_not_mem_of_forall h.digits (by decide)⟩
    rcases hx with rfl | rfl <;> decide

theorem reference?_consumed {s rest : Text} {r : Except TooManyDigits Text}
    (h : reference? s = some (r, rest)) : ∃ used, s = used ++ rest ∧ ('&' : CodePoint) ∉ used := by
  obtain ⟨t, mark, n, rfl, ht, hmark, -⟩ | ⟨name, mark, rfl, hname, hmark, -⟩ := reference?_sound h
  · refine ⟨_, rfl, ?_⟩
    simp only [List.mem_append, not_or]
    exact ⟨⟨by decide, ht.ampersand_not_mem⟩, hmark.ampersand_not_mem⟩
  · refine ⟨_, rfl, ?_⟩
    rw [List.mem_append, not_or]
    exact ⟨ampersand_not_mem_of_forall hname (by decide), hmark.ampersand_not_mem⟩

theorem named_texts : ∀ p ∈ allNames.flatten, p.2 ≠ [] ∧
    ∀ n ∈ p.2, n < 0xD800 ∨ 0xDFFF < n ∧ n < 0x110000 := by
  decide +kernel

theorem plain_of_named {name text : Text} (h : named.lookup name = some text) :
    text ≠ [] ∧ text.hasSurrogate = false := by
  obtain ⟨before, after, heq, -⟩ := List.lookup_eq_some_iff.1 h
  have hmem : (name, text) ∈ named := heq ▸ List.mem_append_right _ List.mem_cons_self
  obtain ⟨p, hp, hpair⟩ := List.mem_map.1 hmem
  cases hpair
  obtain ⟨hne, hplain⟩ := named_texts p hp
  refine ⟨by rwa [Ne, List.map_eq_nil_iff], ?_⟩
  rw [Text.hasSurrogate_eq_false_iff]
  refine List.forall_mem_map.2 fun n hn => ?_
  rw [CodePoint.isSurrogate_eq_false_iff, CodePoint.val_ofNat (by have := hplain n hn; omega)]
  have := hplain n hn
  omega

theorem longest_plain (name : Text) (size : Nat) :
    longest name size ≠ [] ∧
      (name.hasSurrogate = false → (longest name size).hasSurrogate = false) := by
  fun_induction longest name size with
  | case1 => exact ⟨List.cons_ne_nil _ _, fun h => h⟩
  | case2 => exact ⟨List.cons_ne_nil _ _, fun h => h⟩
  | case3 size _ text hfound =>
    obtain ⟨hne, hplain⟩ := plain_of_named hfound
    refine ⟨List.append_ne_nil_of_left_ne_nil hne _, fun h => ?_⟩
    rw [Text.hasSurrogate_eq_false_iff] at h
    apply Text.hasSurrogate_append hplain
    rw [Text.hasSurrogate_eq_false_iff]
    exact fun c hc => h c (List.mem_of_mem_drop hc)
  | case4 _ _ _ ih => exact ih

/-- The numbers of the characters that are dropped. -/
def Dropped (n : Nat) : Prop := isDropped n = true ∧ n ≤ 0x10FFFF

instance (n : Nat) : Decidable (Dropped n) := inferInstanceAs (Decidable (_ ∧ _))

theorem controlNames_plain : ∀ k : Fin 32, controlNames.getD k.val (k.val + 0x80) < 0xD800 := by
  decide

theorem numeric_eq_nil_iff {n : Nat} : numeric n = [] ↔ Dropped n := by
  rw [numeric, Dropped]
  split_ifs with hzero hcontrol houtside hdropped
  · simp [hzero, isDropped]
  · simp only [isDropped, Bool.or_eq_true, Bool.and_eq_true, decide_eq_true_eq, false_iff]
    omega
  · simp only [isDropped, Bool.or_eq_true, Bool.and_eq_true, decide_eq_true_eq, false_iff]
    omega
  · simp only [true_iff]
    exact ⟨hdropped, by omega⟩
  · simp [hdropped]

theorem numeric_plain (n : Nat) : (numeric n).hasSurrogate = false := by
  rw [numeric]
  split_ifs with hzero hcontrol houtside hdropped
  · decide
  · obtain ⟨k, rfl⟩ : ∃ k : Fin 32, n = k.val + 0x80 := ⟨⟨n - 0x80, by omega⟩, by simp; omega⟩
    have hk := controlNames_plain k
    rw [Nat.add_sub_cancel, Text.hasSurrogate_singleton, CodePoint.isSurrogate_eq_false_iff,
      CodePoint.val_ofNat (by omega)]
    exact .inl hk
  · decide
  · rfl
  · rw [Text.hasSurrogate_singleton, CodePoint.isSurrogate_eq_false_iff,
      CodePoint.val_ofNat (by omega)]
    omega

/-- These digits stand in a text as those of a decimal reference, and are too many. -/
structure Oversized (s run : Text) : Prop where
  stands : Text.ofString "&#" ++ run <:+: s
  digits : ∀ c ∈ run, (Text.asciiDigit? c).isSome = true
  long : TooManyDigits.limit < run.length

theorem Oversized.mono {s u run : Text} (h : Oversized s run) (hs : s <:+: u) : Oversized u run :=
  ⟨h.stands.trans hs, h.digits, h.long⟩

theorem oversized_of_reference {s rest : Text} {e : TooManyDigits}
    (h : reference? s = some (.error e, rest)) :
    ∃ run, Oversized (('&' : CodePoint) :: s) run ∧ e = ⟨run.length⟩ := by
  obtain ⟨t, mark, n, rfl, ht, -, hr⟩ | ⟨_, _, _, _, _, hr⟩ := reference?_sound h
  · have hn := map_eq_error_iff.1 hr.symm
    rw [hn] at ht
    obtain ⟨hrun, hlong, he⟩ := ht.eq_error
    refine ⟨t, ⟨⟨[], mark ++ rest, ?_⟩, hrun.digits, hlong⟩, he⟩
    simp [Text.ofString]
  · cases hr

/-- Resolving fails on the digits of a decimal reference and on nothing else. -/
theorem exists_oversized {s : Text} {e : TooManyDigits} (h : resolve s = .error e) :
    ∃ run, Oversized s run ∧ e = ⟨run.length⟩ := by
  fun_induction resolve s with
  | case1 => cases h
  | case2 _ _ ih | case5 _ _ _ ih =>
    obtain ⟨run, hrun, he⟩ := ih (map_eq_error_iff.1 h)
    exact ⟨run, hrun.mono (List.suffix_cons _ _).isInfix, he⟩
  | case3 _ _ _ hr =>
    cases h
    exact oversized_of_reference hr
  | case4 _ _ _ hr ih =>
    obtain ⟨run, hrun, he⟩ := ih (map_eq_error_iff.1 h)
    obtain ⟨used, rfl, -⟩ := reference?_consumed hr
    exact ⟨run, hrun.mono ((List.suffix_append _ _).trans (List.suffix_cons _ _)).isInfix, he⟩

theorem infix_of_not_mem {c : CodePoint} {t used rest : Text} (hc : c ∉ used)
    (h : c :: t <:+: used ++ rest) : c :: t <:+: rest := by
  induction used with
  | nil => exact h
  | cons d used ih =>
    rw [List.mem_cons, not_or] at hc
    rw [List.cons_append, List.infix_cons_iff] at h
    obtain h | h := h
    · exact absurd (List.cons_prefix_cons.1 h).1 hc.1
    · exact ih hc.2 h

theorem Oversized.reference?_eq_error {s t run : Text} (h : Oversized s run)
    (hlead : Text.ofString "#" ++ run <+: t) :
    ∃ e rest, reference? t = some (.error e, rest) := by
  obtain ⟨rest, rfl⟩ := hlead
  exact exists_numeric?_error h.digits h.long rest

theorem Oversized.fails {s run : Text} (h : Oversized s run) : ∃ e, resolve s = .error e := by
  fun_induction resolve s with
  | case1 => exact absurd (List.infix_nil.1 h.stands) (List.cons_ne_nil _ _)
  | case2 rest hr ih =>
    obtain hlead | hrest := List.infix_cons_iff.1 h.stands
    · obtain ⟨e, _, he⟩ := h.reference?_eq_error (List.cons_prefix_cons.1 hlead).2
      cases he.symm.trans hr
    · obtain ⟨e, he⟩ := ih ⟨hrest, h.digits, h.long⟩
      exact ⟨e, map_eq_error_iff.2 he⟩
  | case3 => exact ⟨_, rfl⟩
  | case4 s t rest hr ih =>
    obtain hlead | hrest := List.infix_cons_iff.1 h.stands
    · obtain ⟨e, _, he⟩ := h.reference?_eq_error (List.cons_prefix_cons.1 hlead).2
      cases he.symm.trans hr
    · obtain ⟨used, rfl, hused⟩ := reference?_consumed hr
      obtain ⟨e, he⟩ := ih ⟨infix_of_not_mem hused hrest, h.digits, h.long⟩
      exact ⟨e, map_eq_error_iff.2 he⟩
  | case5 c rest hc ih =>
    obtain hlead | hrest := List.infix_cons_iff.1 h.stands
    · exact absurd (List.cons_prefix_cons.1 hlead).1.symm hc
    · obtain ⟨e, he⟩ := ih ⟨hrest, h.digits, h.long⟩
      exact ⟨e, map_eq_error_iff.2 he⟩

/-- References to dropped characters, one after the other. -/
inductive Vanishes : Text → Prop
  | nil : Vanishes []
  | reference {t mark rest : Text} {n : Nat} : Numeral t (.ok n) → Dropped n → Mark mark →
      Vanishes rest → Vanishes ("&#" ++ t ++ mark ++ rest)

theorem Vanishes.apart {s : Text} (h : Vanishes s) : Apart s := by
  cases h with
  | nil => exact ⟨Text.ends_nil _, nofun⟩
  | reference => exact ⟨Text.ends_cons.2 (by decide), by simp [Text.ofString]; decide⟩

theorem Vanishes.of_reference {s rest : Text} (h : reference? s = some (.ok [], rest))
    (hrest : Vanishes rest) : Vanishes (('&' : CodePoint) :: s) := by
  obtain ⟨t, mark, n, rfl, ht, hmark, hr⟩ | ⟨name, mark, _, _, _, hr⟩ := reference?_sound h
  · obtain ⟨k, rfl, hk⟩ := map_eq_ok_iff.1 hr.symm
    exact .reference ht (numeric_eq_nil_iff.1 hk) hmark hrest
  · exact absurd (Except.ok.inj hr).symm (longest_plain _ _).1

theorem resolve_eq_nil_iff {s : Text} : resolve s = .ok [] ↔ Vanishes s := by
  constructor
  · intro h
    fun_induction resolve s with
    | case1 => exact .nil
    | case2 | case5 =>
      obtain ⟨t, -, ht⟩ := map_eq_ok_iff.1 h
      cases ht
    | case3 => cases h
    | case4 _ _ _ hr ih =>
      obtain ⟨t, hrest, ht⟩ := map_eq_ok_iff.1 h
      obtain ⟨rfl, rfl⟩ := List.append_eq_nil_iff.1 ht
      exact .of_reference hr (ih hrest)
  · intro h
    induction h with
    | nil => rw [resolve]
    | @reference t mark rest n ht hn hmark hrest ih =>
      have hread : reference? ("#" ++ t ++ mark ++ rest) = some (.ok [], rest) := by
        have hnumber := numeric?_complete ht hmark hrest.apart
        rwa [Except.map, numeric_eq_nil_iff.2 hn] at hnumber
      exact (resolve_reference hread).trans (by rw [ih]; rfl)

theorem reference?_plain {s rest t : Text} (h : reference? s = some (.ok t, rest))
    (hs : s.hasSurrogate = false) : t.hasSurrogate = false ∧ rest.hasSurrogate = false := by
  obtain ⟨_, _, n, rfl, _, _, hr⟩ | ⟨name, mark, rfl, _, _, hr⟩ := reference?_sound h
  · obtain ⟨k, -, rfl⟩ := map_eq_ok_iff.1 hr.symm
    rw [Text.hasSurrogate, List.any_append, Bool.or_eq_false_iff] at hs
    exact ⟨numeric_plain k, hs.2⟩
  · rw [Text.hasSurrogate, List.any_append, Bool.or_eq_false_iff] at hs
    cases hr
    exact ⟨(longest_plain _ _).2 hs.1, hs.2⟩

theorem resolve_plain {s t : Text} (h : resolve s = .ok t) (hs : s.hasSurrogate = false) :
    t.hasSurrogate = false := by
  fun_induction resolve s generalizing t with
  | case1 =>
    cases h
    rfl
  | case2 rest _ ih =>
    obtain ⟨u, hu, rfl⟩ := map_eq_ok_iff.1 h
    have hplain := ih hu hs
    exact hplain
  | case3 => cases h
  | case4 _ _ _ hr ih =>
    obtain ⟨u, hu, rfl⟩ := map_eq_ok_iff.1 h
    obtain ⟨hmeaning, hrest⟩ := reference?_plain hr hs
    exact Text.hasSurrogate_append hmeaning (ih hu hrest)
  | case5 c rest _ ih =>
    obtain ⟨u, hu, rfl⟩ := map_eq_ok_iff.1 h
    rw [Text.hasSurrogate_cons, Bool.or_eq_false_iff] at hs ⊢
    exact ⟨hs.1, ih hu hs.2⟩

end TokenIndex.Reference
