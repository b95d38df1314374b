import TokenIndex.Proofs.Literal.Grammar
import TokenIndex.Proofs.Basic

namespace TokenIndex.Literal

open Literal.Grammar

theorem mapM_eq_some_iff {f : CodePoint → Option Nat} {t : Text} {values : List Nat} :
    t.mapM f = some values ↔ t.map f = values.map some := by
  induction t generalizing values with
  | nil => cases values <;> simp
  | cons c t ih =>
    simp only [List.mapM_cons, bind, pure, Option.bind_eq_some_iff, Option.some.injEq,
      List.map_cons, ih]
    constructor
    · rintro ⟨n, hn, ns, hns, rfl⟩
      rw [hn, hns, List.map_cons]
    · intro h
      cases values with
      | nil => cases h
      | cons n ns =>
        rw [List.map_cons, List.cons.injEq] at h
        exact ⟨n, h.1, ns, h.2, rfl⟩

theorem Grammar.not_mem_of_hexDigits {c : CodePoint} {t : Text} {values : List Nat}
    (h : t.map Text.hexDigit? = values.map some) (hc : Text.hexDigit? c = none) : c ∉ t := by
  intro hmem
  have hvalue := List.mem_map_of_mem (f := Text.hexDigit?) hmem
  rw [h, hc] at hvalue
  obtain ⟨n, -, hn⟩ := List.mem_map.1 hvalue
  cases hn

theorem hexEscape?_eq_some_iff {width : Nat} {s rest : Text} {c : CodePoint} :
    hexEscape? width s = some (c, rest) ↔ ∃ (t : Text) (values : List Nat), s = t ++ rest ∧
      t.length = width ∧ t.map Text.hexDigit? = values.map some ∧
      c = .ofNat (Text.ofDigits 16 values) := by
  constructor
  · intro h
    unfold hexEscape? at h
    split at h
    · rename_i values hm
      rw [mapM_eq_some_iff] at hm
      split at h
      · rename_i hl
        cases h
        have hlen := congrArg List.length hm
        rw [List.length_map, List.length_map, hl] at hlen
        exact ⟨_, values, (List.take_append_drop width s).symm, hlen, hm, rfl⟩
      · cases h
    · cases h
  · rintro ⟨t, values, rfl, hl, hm, rfl⟩
    have hlen := congrArg List.length hm
    rw [List.length_map, List.length_map, hl] at hlen
    unfold hexEscape?
    rw [← hl, List.take_left, List.drop_left, mapM_eq_some_iff.2 hm]
    dsimp only
    rw [if_pos (by rw [hl, hlen])]

theorem getD_lookup_cons (c a b : CodePoint) (pairs : List (CodePoint × CodePoint)) :
    (((a, b) :: pairs).lookup c).getD c = if c = a then b else (pairs.lookup c).getD c := by
  by_cases h : c = a
  · rw [h, List.lookup_cons_self, if_pos rfl, Option.getD_some]
  · rw [List.lookup_cons, beq_false_of_ne h, if_neg h]

theorem simpleEscape_eq (c : CodePoint) : simpleEscape c = (meanings.lookup c).getD c := by
  have hself (a : CodePoint) : (if c = a then a else c) = c := by
    split
    · exact Eq.symm ‹_›
    · rfl
  simp only [simpleEscape, meanings, getD_lookup_cons, List.lookup_nil, Option.getD_none, hself]

theorem escape_of_hex {c d : CodePoint} {r rest : Text} (h : c = 'u' ∨ c = 'x')
    (hd : hexEscape? (if c = 'u' then 4 else 2) r = some (d, rest)) :
    escape (c :: r) = .ok ([d], rest) := by
  rw [escape, if_pos h, hd]

theorem escape_sound {s m rest : Text} (h : escape s = .ok (m, rest)) :
    ∃ e, s = e ++ rest ∧ Escape e m := by
  cases s with
  | nil => cases h
  | cons c r =>
    rw [escape] at h
    by_cases hux : c = 'u' ∨ c = 'x'
    · rw [if_pos hux] at h
      cases hd : hexEscape? (if c = 'u' then 4 else 2) r with
      | none => rw [hd] at h; cases h
      | some p =>
        rw [hd] at h
        cases h
        obtain ⟨t, values, rfl, hl, hm, he⟩ := hexEscape?_eq_some_iff.1 hd
        rw [he]
        rcases hux with rfl | rfl
        · exact ⟨_, rfl, .unicode hl hm⟩
        · exact ⟨_, rfl, .byte hl hm⟩
    rw [if_neg hux] at h
    rw [not_or] at hux
    by_cases hr : c = '\r'
    · rw [if_pos hr] at h
      cases h
      subst hr
      cases ha : Text.after? "\n" r with
      | none => exact ⟨_, rfl, .carriageReturn⟩
      | some t =>
        rw [Text.after?_eq_some_iff.1 ha]
        exact ⟨_, rfl, .both⟩
    rw [if_neg hr] at h
    by_cases hn : c = '\n'
    · rw [if_pos hn] at h
      cases h
      subst hn
      exact ⟨_, rfl, .lineFeed⟩
    · rw [if_neg hn] at h
      cases h
      rw [simpleEscape_eq]
      exact ⟨[c], rfl, .character hux.1 hux.2 hn hr⟩

/-- A carriage return takes a line feed behind it along, so none may follow. -/
theorem escape_complete {e m rest : Text} (h : Escape e m)
    (hrest : e = "\r" → Text.after? "\n" rest = none) : escape (e ++ rest) = .ok (m, rest) := by
  cases h with
  | unicode hl hm =>
    exact escape_of_hex (.inl rfl) (hexEscape?_eq_some_iff.2 ⟨_, _, rfl, hl, hm, rfl⟩)
  | byte hl hm =>
    exact escape_of_hex (.inr rfl) (hexEscape?_eq_some_iff.2 ⟨_, _, rfl, hl, hm, rfl⟩)
  | lineFeed => rfl
  | carriageReturn =>
    show Except.ok ([], (Text.after? "\n" rest).getD rest) = _
    rw [hrest rfl, Option.getD_none]
  | both => rfl
  | character hu hx hn hr =>
    rw [← simpleEscape_eq, List.singleton_append, escape, if_neg (not_or.2 ⟨hu, hx⟩), if_neg hr,
      if_neg hn]

theorem string_sound {q : CodePoint} {s v rest : Text} (h : string q s = .ok (v, rest)) :
    ∃ t, s = t ++ q :: rest ∧ Characters q t v := by
  fun_induction string q s generalizing v with
  | case1 => cases h
  | case2 =>
    cases h
    exact ⟨[], rfl, .nil⟩
  | case3 => cases h
  | case4 => cases h
  | case5 r chars r' he v' rest' hs hq ih =>
    cases h
    obtain ⟨e, rfl, hm⟩ := escape_sound he
    obtain ⟨t, rfl, ht⟩ := ih hs
    exact ⟨'\\' :: (e ++ t), by rw [List.cons_append, List.append_assoc], .escape hm ht⟩
  | case6 => cases h
  | case7 => cases h
  | case8 c r hq hb hn v' rest' hs ih =>
    cases h
    obtain ⟨t, rfl, ht⟩ := ih hs
    exact ⟨c :: t, rfl, .plain hq hb hn ht⟩

theorem after?_lineFeed_characters {q : CodePoint} {t v : Text} (h : Characters q t v)
    (hq : q ≠ '\n') (rest : Text) : Text.after? "\n" (t ++ q :: rest) = none := by
  cases h with
  | nil => exact if_neg hq.symm
  | plain _ _ hn _ => exact if_neg (Ne.symm hn)
  | escape _ _ => exact if_neg (by decide)

theorem string_escape {q : CodePoint} {s m rest : Text} (hb : '\\' ≠ q)
    (h : escape s = .ok (m, rest)) :
    string q ('\\' :: s) = (string q rest).map fun p => (m ++ p.1, p.2) := by
  rw [string, if_neg hb, if_pos rfl]
  split
  · rename_i he
    rw [h] at he
    cases he
  · rename_i he
    rw [h] at he
    cases he
    cases string q rest <;> rfl

theorem string_escape_error {q : CodePoint} {s : Text} {fault : Fault} (hb : '\\' ≠ q)
    (h : escape s = .error fault) : string q ('\\' :: s) = .error fault := by
  rw [string, if_neg hb, if_pos rfl]
  split
  · rename_i he
    rw [← h, he]
  · rename_i he
    rw [h] at he
    cases he

theorem string_plain {q c : CodePoint} (hq : c ≠ q) (hb : c ≠ '\\') (hn : c ≠ '\n') (s : Text) :
    string q (c :: s) = (string q s).map fun p => (c :: p.1, p.2) := by
  rw [string, if_neg hq, if_neg hb, if_neg hn]
  cases string q s <;> rfl

theorem string_complete {q : CodePoint} {t v : Text} (h : Characters q t v) (hq : q ≠ '\n')
    (hb : q ≠ '\\') (rest : Text) : string q (t ++ q :: rest) = .ok (v, rest) := by
  induction h with
  | nil => rw [List.nil_append, string, if_pos rfl]
  | plain hc hcb hcn _ ih =>
    rw [List.cons_append, string_plain hc hcb hcn, ih]
    rfl
  | escape he ht ih =>
    -- no LF follows an escape, so one that ends in CR takes nothing along
    have h := escape_complete he fun _ => after?_lineFeed_characters ht hq rest
    rw [List.cons_append, List.append_assoc, string_escape hb.symm h, ih]
    rfl

theorem Grammar.Digits.length_eq {t : Text} {values : List Nat} (h : Digits t values) :
    values.length = t.length := by
  have hl := congrArg List.length h
  rw [List.length_map, List.length_map] at hl
  exact hl.symm

theorem Grammar.Digits.isDigit {t : Text} {values : List Nat} (h : Digits t values) :
    ∀ c ∈ t, c.isDigit = true := by
  intro c hc
  have hm : CodePoint.digit? c ∈ values.map some := h ▸ List.mem_map_of_mem hc
  obtain ⟨n, _, hn⟩ := List.mem_map.1 hm
  rw [CodePoint.isDigit, ← hn, Option.isSome_some]

theorem Grammar.Digits.filterMap {t : Text} {values : List Nat} (h : Digits t values) :
    t.filterMap CodePoint.digit? = values := by
  calc t.filterMap CodePoint.digit?
    _ = (t.map CodePoint.digit?).filterMap id := by rw [List.filterMap_map]; rfl
    _ = (values.map some).filterMap id := by rw [h]
    _ = values := by rw [List.filterMap_map]; exact List.filterMap_some

theorem digits_takeWhile (t : Text) :
    Digits (t.takeWhile CodePoint.isDigit)
      ((t.takeWhile CodePoint.isDigit).filterMap CodePoint.digit?) := by
  have hall : ∀ c ∈ t.takeWhile CodePoint.isDigit, c.isDigit = true :=
    List.all_eq_true.1 List.all_takeWhile
  -- `t` may go on in any way, so the induction is on the run alone
  generalize t.takeWhile CodePoint.isDigit = run at hall
  induction run with
  | nil => rfl
  | cons c run ih =>
    have hc : (CodePoint.digit? c).isSome = true := hall c List.mem_cons_self
    obtain ⟨n, hn⟩ := Option.isSome_iff_exists.1 hc
    have := ih fun d hd => hall d (List.mem_cons_of_mem c hd)
    rw [Digits] at this ⊢
    rw [List.map_cons, this, hn, List.filterMap_cons_some hn, List.map_cons]

/-- A text behind a minus sign, if there is one. -/
def signed (negative : Bool) (t : Text) : Text := if negative then '-' :: t else t

theorem exists_signed (s : Text) : ∃ (negative : Bool) (body : Text), s = signed negative body ∧
    (negative = false → Text.Ends (· = '-') body) := by
  cases s with
  | nil => exact ⟨false, [], rfl, fun _ => Text.ends_nil _⟩
  | cons c r =>
    by_cases hc : c = '-'
    · exact ⟨true, r, by rw [hc]; rfl, fun h => by cases h⟩
    · exact ⟨false, c :: r, rfl, fun _ => Text.ends_cons.2 (decide_eq_false hc)⟩

theorem digits?_signed {negative : Bool} {body : Text}
    (h : negative = false → Text.Ends (· = '-') body) :
    digits? (signed negative body) =
      if ((body.takeWhile CodePoint.isDigit).filterMap CodePoint.digit?).isEmpty then none
      else some (negative, (body.takeWhile CodePoint.isDigit).filterMap CodePoint.digit?,
        body.dropWhile CodePoint.isDigit) := by
  cases negative with
  | true => rfl
  | false =>
    cases body with
    | nil => rfl
    | cons c r =>
      have hc : c ≠ '-' := of_decide_eq_false (Text.ends_cons.1 (h rfl))
      simp only [signed, digits?, if_neg hc, Bool.false_eq_true, if_false]

theorem digits?_sound {s rest : Text} {negative : Bool} {values : List Nat}
    (h : digits? s = some (negative, values, rest)) :
    ∃ t, s = signed negative t ++ rest ∧ t ≠ [] ∧ Digits t values := by
  obtain ⟨sign, body, rfl, hbody⟩ := exists_signed s
  rw [digits?_signed hbody] at h
  split at h
  · cases h
  · rename_i hne
    cases h
    refine ⟨body.takeWhile CodePoint.isDigit, ?_, ?_, digits_takeWhile body⟩
    · cases negative <;> simp [signed]
    · intro hnil
      rw [hnil] at hne
      exact hne rfl

theorem digits?_complete {t rest : Text} {values : List Nat} (negative : Bool) (hne : t ≠ [])
    (ht : Digits t values) (hrest : Text.Ends CodePoint.isDigit rest) :
    digits? (signed negative t ++ rest) = some (negative, values, rest) := by
  have happ : signed negative t ++ rest = signed negative (t ++ rest) := by
    cases negative <;> rfl
  have hbody : negative = false → Text.Ends (· = '-') (t ++ rest) := by
    intro _
    cases t with
    | nil => exact absurd rfl hne
    | cons c t =>
      refine Text.ends_cons.2 (decide_eq_false ?_)
      rintro rfl
      exact absurd (ht.isDigit _ List.mem_cons_self) (by decide)
  rw [happ, digits?_signed hbody, Text.takeWhile_run ht.isDigit hrest,
    Text.dropWhile_run ht.isDigit hrest, ht.filterMap, if_neg]
  rw [List.isEmpty_iff, ← List.length_eq_zero_iff, ht.length_eq, List.length_eq_zero_iff]
  exact hne

theorem number_eq_ok_iff {negative : Bool} {values : List Nat} {v : Value} :
    number negative values = .ok v ↔ values.length ≤ TooManyDigits.limit ∧
      v = .int
        (if negative then -(Text.ofDigits 10 values : Nat) else Text.ofDigits 10 values) := by
  unfold number Text.convertDigits
  by_cases h : values.length > TooManyDigits.limit
  · rw [if_pos h]
    simp [Nat.not_le.2 h]
  · rw [if_neg h]
    simp [Nat.not_lt.1 h, eq_comm]

theorem keyword?_sound {s rest : Text} {v : Value} (h : keyword? s = some (v, rest)) :
    ∃ t, s = t ++ rest ∧ Scalar t v := by
  obtain ⟨⟨word, w⟩, hmem, hword⟩ := List.exists_of_findSome?_eq_some h
  obtain ⟨r, hr, heq⟩ := Option.map_eq_some_iff.1 hword
  cases heq
  refine ⟨word, Text.after?_eq_some_iff.1 hr, ?_⟩
  simp only [keywords, List.mem_cons, List.not_mem_nil, or_false, Prod.mk.injEq] at hmem
  obtain ⟨rfl, rfl⟩ | ⟨rfl, rfl⟩ | ⟨rfl, rfl⟩ := hmem
  · exact .yes
  · exact .no
  · exact .null

theorem scalar_of_digits {c : CodePoint} {r rest : Text} {negative : Bool} {values : List Nat}
    (hq : ¬(c = '\'' ∨ c = '"')) (hd : digits? (c :: r) = some (negative, values, rest)) :
    scalar (c :: r) = (number negative values).map (·, rest) := by
  rw [scalar, if_neg hq, hd]

theorem keyword?_of_scalar {c : CodePoint} {r rest : Text} {v : Value}
    (hq : ¬(c = '\'' ∨ c = '"')) (hd : digits? (c :: r) = none)
    (h : scalar (c :: r) = .ok (v, rest)) : keyword? (c :: r) = some (v, rest) := by
  rw [scalar, if_neg hq, hd] at h
  cases hk : keyword? (c :: r) with
  | none => rw [hk] at h; cases h
  | some p =>
    rw [hk] at h
    cases h
    rfl

theorem scalar_sound {s rest : Text} {v : Value} (h : scalar s = .ok (v, rest)) :
    ∃ t, s = t ++ rest ∧ Scalar t v := by
  cases s with
  | nil => cases h
  | cons c r =>
    by_cases hq : c = '\'' ∨ c = '"'
    · rw [scalar, if_pos hq] at h
      obtain ⟨p, hs, hp⟩ := map_eq_ok_iff.1 h
      cases hp
      obtain ⟨t, rfl, ht⟩ := string_sound hs
      exact ⟨c :: (t ++ [c]), by simp, .string hq ht⟩
    cases hd : digits? (c :: r) with
    | some p =>
      obtain ⟨negative, values, rest'⟩ := p
      rw [scalar_of_digits hq hd] at h
      obtain ⟨t, ht, hne, hdigits⟩ := digits?_sound hd
      obtain ⟨n, hn, hp⟩ := map_eq_ok_iff.1 h
      cases hp
      obtain ⟨hlimit, rfl⟩ := number_eq_ok_iff.1 hn
      rw [hdigits.length_eq] at hlimit
      refine ⟨_, ht, .number ?_⟩
      cases negative with
      | true => exact .negative hne hlimit hdigits
      | false => exact .plain hne hlimit hdigits
    | none => exact keyword?_sound (keyword?_of_scalar hq hd h)

theorem scalar_string {q : CodePoint} {t v : Text} (hq : q = '\'' ∨ q = '"')
    (ht : Characters q t v) (rest : Text) :
    scalar (q :: (t ++ [q]) ++ rest) = .ok (.text v, rest) := by
  have hs : string q (t ++ [q] ++ rest) = .ok (v, rest) := by
    rw [List.append_assoc, List.singleton_append]
    apply string_complete ht
    · rcases hq with rfl | rfl <;> decide
    · rcases hq with rfl | rfl <;> decide
  rw [List.cons_append, scalar, if_pos hq, hs]
  rfl

theorem signed_eq_cons (negative : Bool) {t : Text} {values : List Nat} (hne : t ≠ [])
    (ht : Digits t values) :
    ∃ c r, signed negative t = c :: r ∧ (c = '-' ∨ c.isDigit = true) := by
  cases negative with
  | true => exact ⟨_, _, rfl, .inl rfl⟩
  | false =>
    cases t with
    | nil => exact absurd rfl hne
    | cons c t => exact ⟨_, _, rfl, .inr (ht.isDigit c List.mem_cons_self)⟩

theorem scalar_number (negative : Bool) {t rest : Text} {values : List Nat} (hne : t ≠ [])
    (hlimit : t.length ≤ TooManyDigits.limit) (ht : Digits t values)
    (hrest : Text.Ends CodePoint.isDigit rest) :
    scalar (signed negative t ++ rest) = .ok (.int
      (if negative then -(Text.ofDigits 10 values : Nat) else Text.ofDigits 10 values), rest) := by
  have hd := digits?_complete negative hne ht hrest
  obtain ⟨c, r, hs, hc⟩ := signed_eq_cons negative hne ht
  have hq : ¬(c = '\'' ∨ c = '"') := by
    rintro (rfl | rfl) <;> exact absurd hc (by decide)
  rw [hs, List.cons_append] at hd ⊢
  rw [scalar_of_digits hq hd, number_eq_ok_iff.2 ⟨ht.length_eq ▸ hlimit, rfl⟩]
  rfl

theorem scalar_complete {t rest : Text} {v : Value} (h : Scalar t v)
    (hrest : ∀ i, v = .int i → Text.Ends CodePoint.isDigit rest) :
    scalar (t ++ rest) = .ok (v, rest) := by
  cases h with
  | string hq ht => exact scalar_string hq ht rest
  | number h =>
    cases h with
    | plain hne hlimit ht => exact scalar_number false hne hlimit ht (hrest _ rfl)
    | negative hne hlimit ht => exact scalar_number true hne hlimit ht (hrest _ rfl)
  | yes => rfl
  | no => rfl
  | null => rfl

end TokenIndex.Literal
