import TokenIndex.Proofs.Text.Pieces
import TokenIndex.Proofs.Token
import Mathlib.Data.List.Infix
import Mathlib.Tactic.SplitIfs

namespace TokenIndex.Token

/-- A lower case hexadecimal digit. -/
def isHex (c : CodePoint) : Bool := c.between '0' '9' || c.between 'a' 'f'

/-- Whether a text begins with a low line and two lower case hexadecimal digits. -/
def beginsGroup : Text → Bool
  | m :: h :: l :: _ => m = '_' && isHex h && isHex l
  | _ => false

/-- The number of groups in a text. No two of them overlap. -/
def groupCount (t : Text) : Nat := t.tails.countP beginsGroup

section Groups

variable {t rest : Text} {c h l : CodePoint} {b : Byte}

theorem isSome_digit? (c : CodePoint) : (digit? c).isSome = isHex c := by
  have hupper (h : c.between 'A' 'F' = true) : isHex c = false := by
    have hbounds : 'A'.toNat = 65 ∧ 'F'.toNat = 70 ∧ '0'.toNat = 48 ∧ '9'.toNat = 57 ∧
      'a'.toNat = 97 ∧ 'f'.toNat = 102 := by decide
    simp only [isHex, CodePoint.between, Bool.and_eq_true, decide_eq_true_eq, Bool.or_eq_false_iff,
      Bool.and_eq_false_iff, decide_eq_false_iff_not] at h ⊢
    omega
  rw [digit?, Text.hexDigit?]
  split_ifs with h h0 ha
  · rw [hupper h, Option.isSome_none]
  · rw [isHex, h0, Bool.true_or, Option.isSome_some]
  · rw [isHex, ha, Bool.or_true, Option.isSome_some]
  · rw [isHex, eq_false_of_ne_true h0, eq_false_of_ne_true ha, Option.isSome_none, Bool.or_false]

theorem isHex_lt (h : isHex c = true) : c.val < 0x80 := by
  obtain h | h := Bool.or_eq_true_iff.1 h
  · exact CodePoint.ascii_of_between h (by decide)
  · exact CodePoint.ascii_of_between h (by decide)

theorem beginsGroup_iff : beginsGroup t = true ↔
    ∃ h l rest, t = ('_' : CodePoint) :: h :: l :: rest ∧ isHex h = true ∧ isHex l = true := by
  constructor
  · intro ht
    obtain _ | ⟨m, _ | ⟨h, _ | ⟨l, rest⟩⟩⟩ := t
    iterate 3 cases ht
    rw [beginsGroup, Bool.and_eq_true, Bool.and_eq_true, decide_eq_true_eq] at ht
    obtain ⟨⟨rfl, hh⟩, hl⟩ := ht
    exact ⟨h, l, rest, rfl, hh, hl⟩
  · rintro ⟨h, l, rest, rfl, hh, hl⟩
    rw [beginsGroup, hh, hl]
    rfl

theorem exists_group?_eq_some (hh : isHex h = true) (hl : isHex l = true) :
    ∃ b, ∀ rest, group? (('_' : CodePoint) :: h :: l :: rest) = some (b, rest) := by
  obtain ⟨high, hhigh⟩ := Option.isSome_iff_exists.1 ((isSome_digit? h).trans hh)
  obtain ⟨low, hlow⟩ := Option.isSome_iff_exists.1 ((isSome_digit? l).trans hl)
  refine ⟨Utf8.byte (high * 16 + low), fun rest => ?_⟩
  rw [group?, Text.hexGroup?, if_pos rfl, hhigh, hlow]

theorem group?_eq_none (ht : beginsGroup t = false) : group? t = none := by
  obtain _ | ⟨m, _ | ⟨h, _ | ⟨l, rest⟩⟩⟩ := t
  iterate 3 rfl
  rw [group?, Text.hexGroup?]
  split_ifs with hm
  · rw [beginsGroup, decide_eq_true hm, Bool.true_and, ← isSome_digit?, ← isSome_digit?] at ht
    cases hh : digit? h with
    | none => rfl
    | some high =>
      rw [hh, Option.isSome_some, Bool.true_and, Option.isSome_eq_false_iff,
        Option.isNone_iff_eq_none] at ht
      rw [ht]
  · rfl

theorem beginsGroup_eq_false (h : group? t = none) : beginsGroup t = false := by
  rw [← Bool.not_eq_true, beginsGroup_iff]
  rintro ⟨x, y, rest, rfl, hx, hy⟩
  obtain ⟨b, hb⟩ := exists_group?_eq_some hx hy
  rw [hb rest] at h
  cases h

theorem exists_of_group? (h : group? t = some (b, rest)) : ∃ x y,
    t = ('_' : CodePoint) :: x :: y :: rest ∧ isHex x = true ∧ isHex y = true ∧
      ∀ s, group? (t ++ s) = some (b, rest ++ s) := by
  cases hbegins : beginsGroup t with
  | false =>
    rw [group?_eq_none hbegins] at h
    cases h
  | true =>
    obtain ⟨x, y, rest', rfl, hx, hy⟩ := beginsGroup_iff.1 hbegins
    obtain ⟨b', hb⟩ := exists_group?_eq_some hx hy
    rw [hb rest'] at h
    cases h
    exact ⟨x, y, rfl, hx, hy, fun s => hb (rest ++ s)⟩

theorem groupCount_cons (c : CodePoint) (t : Text) :
    groupCount (c :: t) = groupCount t + if beginsGroup (c :: t) then 1 else 0 := by
  rw [groupCount, List.tails_cons, List.countP_cons, groupCount]

theorem beginsGroup_cons_of_isHex (hc : isHex c = true) : beginsGroup (c :: t) = false := by
  rw [← Bool.not_eq_true, beginsGroup_iff]
  rintro ⟨h, l, rest, heq, -⟩
  rw [(List.cons.inj heq).1] at hc
  exact absurd hc (by decide)

theorem groupCount_group (hh : isHex h = true) (hl : isHex l = true) (rest : Text) :
    groupCount (('_' : CodePoint) :: h :: l :: rest) = groupCount rest + 1 := by
  have hgroup : beginsGroup (('_' : CodePoint) :: h :: l :: rest) = true :=
    beginsGroup_iff.2 ⟨h, l, rest, rfl, hh, hl⟩
  rw [groupCount_cons, groupCount_cons, groupCount_cons, beginsGroup_cons_of_isHex hh,
    beginsGroup_cons_of_isHex hl, hgroup]
  rfl

theorem groupCount_eq_zero_iff : groupCount t = 0 ↔
    ¬∃ h l, isHex h = true ∧ isHex l = true ∧ [('_' : CodePoint), h, l] <:+: t := by
  rw [groupCount, List.countP_eq_zero]
  simp only [List.mem_tails, beginsGroup_iff]
  constructor
  · rintro hnone ⟨h, l, hh, hl, before, after, rfl⟩
    refine hnone (('_' : CodePoint) :: h :: l :: after) ?_ ⟨h, l, after, rfl, hh, hl⟩
    rw [List.append_assoc]
    exact List.suffix_append _ _
  · rintro hnone _ ⟨before, rfl⟩ ⟨h, l, rest, rfl, hh, hl⟩
    exact hnone ⟨h, l, hh, hl, before, rest, by simp⟩

end Groups

theorem length_decodeLenient_le (bytes : Bytes) :
    (Utf8.decodeLenient bytes).length ≤ bytes.length := by
  rw [Utf8.decodeLenient, List.length_map]
  fun_induction Utf8.pieces bytes with
  | case1 => exact Nat.le_refl 0
  | case2 b rest ih =>
    have hpiece := Utf8.piece_length b rest
    rw [List.length_cons, List.length_cons]
    omega

/-- Three code points of each group become one byte, and each byte one code point at most. -/
theorem length_decodeFrom_le (run : Bytes) (t : Text) :
    (decodeFrom run t).length + 2 * groupCount t ≤ run.length + t.length := by
  fun_induction decodeFrom run t with
  | case1 run t b rest hb ih =>
    obtain ⟨x, y, rfl, hx, hy, -⟩ := exists_of_group? hb
    rw [groupCount_group hx hy]
    simp only [List.length_append, List.length_cons, List.length_nil] at ih ⊢
    omega
  | case2 run => exact length_decodeLenient_le run
  | case3 run c rest hnone ih =>
    have hrun := length_decodeLenient_le run
    rw [groupCount_cons, beginsGroup_eq_false hnone, if_neg Bool.false_ne_true]
    simp only [List.length_append, List.length_cons, List.length_nil] at ih ⊢
    omega

theorem hasSurrogate_decodeFrom (run : Bytes) (t : Text) :
    (decodeFrom run t).hasSurrogate = t.hasSurrogate := by
  have hplain {c : CodePoint} (h : c.val < 0x80) : c.isSurrogate = false :=
    CodePoint.isSurrogate_eq_false_iff.2 (.inl (by omega))
  fun_induction decodeFrom run t with
  | case1 run t b rest hb ih =>
    obtain ⟨x, y, rfl, hx, hy, -⟩ := exists_of_group? hb
    rw [ih, Text.hasSurrogate_cons, Text.hasSurrogate_cons, Text.hasSurrogate_cons,
      hplain (isHex_lt hx), hplain (isHex_lt hy)]
    rfl
  | case2 run => exact Utf8.decodeLenient_plain run
  | case3 run c rest _ ih =>
    rw [Text.hasSurrogate, List.any_append, ← Text.hasSurrogate, Utf8.decodeLenient_plain,
      Bool.false_or, ← Text.hasSurrogate, Text.hasSurrogate_cons, ih, Text.hasSurrogate_cons]

theorem decodeFrom_nil (run : Bytes) : decodeFrom run [] = Utf8.decodeLenient run := by
  rw [decodeFrom]
  rfl

theorem decodeLenient_nil : Utf8.decodeLenient [] = [] := by
  rw [Utf8.decodeLenient, Utf8.pieces, List.map_nil]

theorem decode_nil : decode [] = [] := by
  rw [decode, decodeFrom_nil, decodeLenient_nil]

theorem decode_cons {c : CodePoint} {t : Text} (h : beginsGroup (c :: t) = false) :
    decode (c :: t) = c :: decode t := by
  rw [decode, decodeFrom_of_group_eq_none (group?_eq_none h), decodeLenient_nil, List.nil_append,
    decode]

theorem decode_of_groupCount_eq_zero {t : Text} (h : groupCount t = 0) : decode t = t := by
  induction t with
  | nil => exact decode_nil
  | cons c t ih =>
    rw [groupCount_cons, Nat.add_eq_zero_iff] at h
    have hbegins : beginsGroup (c :: t) = false := by
      rw [← Bool.not_eq_true]
      intro htrue
      rw [if_pos htrue] at h
      exact absurd h.2 (by decide)
    rw [decode_cons hbegins, ih h.1]

theorem decode_eq_self_iff {t : Text} : decode t = t ↔ groupCount t = 0 := by
  refine ⟨fun h => ?_, decode_of_groupCount_eq_zero⟩
  have hlength := length_decodeFrom_le [] t
  rw [← decode, h, List.length_nil] at hlength
  omega

def inGroup (c : CodePoint) : Bool := isHex c || c = '_'

section Append

variable {s t : Text}

theorem beginsGroup_append (ht : t ≠ []) (hs : Text.Ends inGroup s) (h : beginsGroup t = false) :
    beginsGroup (t ++ s) = false := by
  rw [← Bool.not_eq_true, beginsGroup_iff]
  rintro ⟨x, y, rest, heq, hx, hy⟩
  have hend {c : CodePoint} {r : Text} (hr : s = c :: r) : isHex c = false := by
    rw [hr, Text.ends_cons, inGroup, Bool.or_eq_false_iff] at hs
    exact hs.1
  obtain _ | ⟨a, _ | ⟨b, _ | ⟨c, t⟩⟩⟩ := t
  · exact ht rfl
  · rw [hend (List.cons.inj heq).2] at hx
    cases hx
  · rw [hend (List.cons.inj (List.cons.inj heq).2).2] at hy
    cases hy
  · cases heq
    rw [beginsGroup, hx, hy] at h
    cases h

/-- A text is decoded apart from one that does not go on with a group. -/
theorem decodeFrom_append (hs : Text.Ends inGroup s) (run : Bytes) (t : Text) :
    decodeFrom run (t ++ s) = decodeFrom run t ++ decode s := by
  fun_induction decodeFrom run t with
  | case1 run t b rest hb ih =>
    obtain ⟨-, -, -, -, -, happend⟩ := exists_of_group? hb
    rw [decodeFrom_of_group (happend s), ih]
  | case2 run =>
    cases s with
    | nil => rw [List.append_nil, decodeFrom_nil, decode_nil, List.append_nil]
    | cons c s =>
      have hbegins : beginsGroup (c :: s) = false := by
        rw [← Bool.not_eq_true, beginsGroup_iff]
        rintro ⟨x, y, rest, heq, -⟩
        cases heq
        exact absurd (Text.ends_cons.1 hs) (by decide)
      rw [List.nil_append, decodeFrom_of_group_eq_none (group?_eq_none hbegins),
        decode_cons hbegins, decode]
  | case3 run c rest hnone ih =>
    have hbegins := beginsGroup_append (List.cons_ne_nil c rest) hs (beginsGroup_eq_false hnone)
    rw [List.cons_append] at hbegins ⊢
    rw [decodeFrom_of_group_eq_none (group?_eq_none hbegins), ih, List.append_assoc,
      List.cons_append]

end Append

/-- Any text can be decoded, whatever bytes its groups spell. No surrogate comes in or goes, so a
text without one decodes to a name that has a token. The text gets shorter by two at least for each
group, and stays as it is exactly if it has none. In front of a code point that can stand in no
group it can be cut, and its parts decoded apart. -/
theorem decode_replaces_groups (t : Text) :
    (decode t).hasSurrogate = t.hasSurrogate ∧
    (t.hasSurrogate = false → ∃ token, encode (decode t) = .ok token) ∧
    (decode t).length + 2 * groupCount t ≤ t.length ∧
    (decode t = t ↔
      ¬∃ h l, isHex h = true ∧ isHex l = true ∧ [('_' : CodePoint), h, l] <:+: t) ∧
    ∀ s, Text.Ends inGroup s → decode (t ++ s) = decode t ++ decode s := by
  have hsurrogate : (decode t).hasSurrogate = t.hasSurrogate := hasSurrogate_decodeFrom [] t
  refine ⟨hsurrogate, fun h => ⟨_, encode_eq_ok (hsurrogate.trans h)⟩, ?_, ?_, ?_⟩
  · have hlength := length_decodeFrom_le [] t
    rwa [List.length_nil, Nat.zero_add] at hlength
  · rw [decode_eq_self_iff, groupCount_eq_zero_iff]
  · exact fun s hs => decodeFrom_append hs [] t

/-- The bytes of a surrogate, with half a group behind them that the next text does not go on
with. -/
theorem decode_replaces_groups_surrogate :
    decode "_ed_a0_80_c" = "\ufffd\ufffd\ufffd_c" ∧
      groupCount "_ed_a0_80_c" = 3 ∧
      (∃ token, encode (decode "_ed_a0_80_c") = .ok token) ∧
      decode ("_ed_a0_80_c" ++ "x_3d") = decode "_ed_a0_80_c" ++ decode "x_3d" := by
  obtain ⟨-, hencode, -, -, happend⟩ := decode_replaces_groups "_ed_a0_80_c"
  exact ⟨by with_unfolding_all rfl, by decide, hencode rfl, happend "x_3d" (Text.ends_cons.2 (by decide))⟩

end TokenIndex.Token
