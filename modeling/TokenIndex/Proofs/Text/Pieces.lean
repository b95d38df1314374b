import TokenIndex.Proofs.Text.Utf8
import Mathlib.Tactic.SplitIfs

namespace TokenIndex.Utf8

/-- Continuation bytes, the first of them within bounds of its own. -/
inductive Tail : (following low high : Nat) → Bytes → Prop
  | nil {low high : Nat} : Tail 0 low high []
  | cons {n low high : Nat} {b : Byte} {tail : Bytes} : low ≤ b.val → b.val ≤ high →
    Tail n 0x80 0xBF tail → Tail (n + 1) low high (b :: tail)

/-- The code point that leading bits and continuation bytes spell. -/
def joined (bits : Nat) (tail : Bytes) : Nat :=
  tail.foldl (fun n b => n * 0x40 + (b.val - 0x80)) bits

theorem joined_nil (bits : Nat) : joined bits [] = bits := rfl

theorem joined_cons (bits : Nat) (b : Byte) (tail : Bytes) :
    joined bits (b :: tail) = joined (bits * 0x40 + (b.val - 0x80)) tail := by
  rw [joined, joined, List.foldl_cons]

theorem follow_cases {n low high : Nat} (taken : Bytes) (bits : Nat) (hlow : 0x80 ≤ low)
    (rest : Bytes) :
    (∃ tail after, Tail n low high tail ∧ rest = tail ++ after ∧
      follow taken bits n low high rest = (.char (.ofNat (joined bits tail)), after)) ∨
    ∃ tail after fault, 0 < n ∧ (∀ b ∈ tail, 0x80 ≤ b.val) ∧ rest = tail ++ after ∧
      follow taken bits n low high rest = (.ill (taken.reverse ++ tail) fault, after) := by
  induction n generalizing taken bits low high rest with
  | zero =>
    refine .inl ⟨[], rest, .nil, rfl, ?_⟩
    rw [follow, joined_nil]
  | succ n ih =>
    cases rest with
    | nil =>
      refine .inr ⟨[], [], .endOfData, n.succ_pos, List.forall_mem_nil _, rfl, ?_⟩
      rw [follow, List.append_nil]
    | cons b rest =>
      rw [follow]
      by_cases hb : low ≤ b.val ∧ b.val ≤ high
      · rw [if_pos hb]
        rcases @ih 0x80 0xBF (b :: taken) (bits * 0x40 + (b.val - 0x80)) (Nat.le_refl _) rest with
          ⟨tail, after, ht, rfl, hf⟩ | ⟨tail, after, fault, -, ht, rfl, hf⟩
        · refine .inl ⟨b :: tail, after, .cons hb.1 hb.2 ht, rfl, ?_⟩
          rw [hf, joined_cons]
        · refine .inr ⟨b :: tail, after, fault, n.succ_pos, ?_, rfl, ?_⟩
          · exact List.forall_mem_cons.2 ⟨Nat.le_trans hlow hb.1, ht⟩
          · rw [hf, List.reverse_cons, List.append_assoc, List.singleton_append]
      · rw [if_neg hb]
        refine .inr ⟨[], b :: rest, .continuationByte, n.succ_pos, List.forall_mem_nil _, rfl, ?_⟩
        rw [List.append_nil]

theorem byte_eq {b : Byte} {n : Nat} (h : n = b.val) : byte n = b := by
  rw [h]
  exact Fin.ext (Nat.mod_eq_of_lt b.isLt)

section Length

variable {b x y z : Byte}

theorem encodeOne_one (hb : b.val < 0x80) : encodeOne (.ofNat b.val) = [b] := by
  unfold encodeOne
  rw [CodePoint.val_ofNat (by omega), if_pos hb, byte_eq rfl]

theorem encodeOne_two (hb : 0xC2 ≤ b.val) (hb' : b.val < 0xE0) (hx : 0x80 ≤ x.val)
    (hx' : x.val ≤ 0xBF) :
    encodeOne (.ofNat ((b.val - 0xC0) * 0x40 + (x.val - 0x80))) = [b, x] := by
  unfold encodeOne
  rw [CodePoint.val_ofNat (by omega)]
  dsimp only
  rw [if_neg (by omega), if_pos (by omega), byte_eq (b := b) (by omega),
    byte_eq (b := x) (by omega)]

theorem encodeOne_three (hb : 0xE0 ≤ b.val) (hb' : b.val < 0xF0) (hx : 0x80 ≤ x.val)
    (hx' : x.val ≤ 0xBF) (hlow : b.val = 0xE0 → 0xA0 ≤ x.val) (hy : 0x80 ≤ y.val)
    (hy' : y.val ≤ 0xBF) :
    encodeOne (.ofNat (((b.val - 0xE0) * 0x40 + (x.val - 0x80)) * 0x40 + (y.val - 0x80))) =
      [b, x, y] := by
  unfold encodeOne
  rw [CodePoint.val_ofNat (by omega)]
  dsimp only
  rw [if_neg (by omega), if_neg (by omega), if_pos (by omega), byte_eq (b := b) (by omega),
    byte_eq (b := x) (by omega), byte_eq (b := y) (by omega)]

theorem encodeOne_four (hb : 0xF0 ≤ b.val) (hb' : b.val < 0xF5) (hx : 0x80 ≤ x.val)
    (hx' : x.val ≤ 0xBF) (hlow : b.val = 0xF0 → 0x90 ≤ x.val) (hhigh : b.val = 0xF4 → x.val ≤ 0x8F)
    (hy : 0x80 ≤ y.val) (hy' : y.val ≤ 0xBF) (hz : 0x80 ≤ z.val) (hz' : z.val ≤ 0xBF) :
    encodeOne (.ofNat ((((b.val - 0xF0) * 0x40 + (x.val - 0x80)) * 0x40 + (y.val - 0x80)) * 0x40 +
      (z.val - 0x80))) = [b, x, y, z] := by
  unfold encodeOne
  rw [CodePoint.val_ofNat (by omega)]
  dsimp only
  rw [if_neg (by omega), if_neg (by omega), if_neg (by omega), byte_eq (b := b) (by omega),
    byte_eq (b := x) (by omega), byte_eq (b := y) (by omega), byte_eq (b := z) (by omega)]

end Length

theorem lead_cases {b : Byte} {lead : Lead} (h : lead? b = some lead) :
    (b.val < 0x80 ∧ lead = ⟨0, 0x80, 0xBF, b.val⟩) ∨
    (0xC2 ≤ b.val ∧ b.val < 0xE0 ∧ lead = ⟨1, 0x80, 0xBF, b.val - 0xC0⟩) ∨
    (0xE0 ≤ b.val ∧ b.val < 0xF0 ∧ lead = ⟨2, if b.val = 0xE0 then 0xA0 else 0x80,
      if b.val = 0xED then 0x9F else 0xBF, b.val - 0xE0⟩) ∨
    (0xF0 ≤ b.val ∧ b.val < 0xF5 ∧ lead = ⟨3, if b.val = 0xF0 then 0x90 else 0x80,
      if b.val = 0xF4 then 0x8F else 0xBF, b.val - 0xF0⟩) := by
  unfold lead? at h
  dsimp only at h
  by_cases h1 : b.val < 0x80
  · rw [if_pos h1] at h
    exact .inl ⟨h1, (Option.some.inj h).symm⟩
  rw [if_neg h1] at h
  by_cases h2 : b.val < 0xC2
  · rw [if_pos h2] at h
    cases h
  rw [if_neg h2] at h
  by_cases h3 : b.val < 0xE0
  · rw [if_pos h3] at h
    exact .inr (.inl ⟨by omega, h3, (Option.some.inj h).symm⟩)
  rw [if_neg h3] at h
  by_cases h4 : b.val < 0xF0
  · rw [if_pos h4] at h
    exact .inr (.inr (.inl ⟨by omega, h4, (Option.some.inj h).symm⟩))
  rw [if_neg h4] at h
  by_cases h5 : b.val < 0xF5
  · rw [if_pos h5] at h
    exact .inr (.inr (.inr ⟨by omega, h5, (Option.some.inj h).symm⟩))
  rw [if_neg h5] at h
  cases h

theorem encodeOne_joined {b : Byte} {lead : Lead} {tail : Bytes} (hb : lead? b = some lead)
    (ht : Tail lead.following lead.low lead.high tail) :
    encodeOne (.ofNat (joined lead.bits tail)) = b :: tail ∧
      (CodePoint.ofNat (joined lead.bits tail)).isSurrogate = false := by
  rw [CodePoint.isSurrogate_eq_false_iff]
  rcases lead_cases hb with ⟨h, rfl⟩ | ⟨h, h', rfl⟩ | ⟨h, h', rfl⟩ | ⟨h, h', rfl⟩
  · obtain _ | _ := ht
    dsimp only
    rw [joined_nil]
    refine ⟨encodeOne_one h, ?_⟩
    rw [CodePoint.val_ofNat (by omega)]
    omega
  · obtain _ | ⟨hx, hx', _ | _⟩ := ht
    dsimp only at hx hx' ⊢
    rw [joined_cons, joined_nil]
    refine ⟨encodeOne_two h h' hx hx', ?_⟩
    rw [CodePoint.val_ofNat (by omega)]
    omega
  · obtain _ | ⟨hx, hx', _ | ⟨hy, hy', _ | _⟩⟩ := ht
    dsimp only at hx hx' ⊢
    rw [joined_cons, joined_cons, joined_nil]
    -- behind 0xED the bound leaves the surrogates out
    split_ifs at hx hx'
    all_goals
      refine ⟨encodeOne_three h h' (by omega) (by omega) (by omega) hy hy', ?_⟩
      rw [CodePoint.val_ofNat (by omega)]
      omega
  · obtain _ | ⟨hx, hx', _ | ⟨hy, hy', _ | ⟨hz, hz', _ | _⟩⟩⟩ := ht
    dsimp only at hx hx' ⊢
    rw [joined_cons, joined_cons, joined_cons, joined_nil]
    split_ifs at hx hx'
    all_goals
      refine ⟨encodeOne_four h h' (by omega) (by omega) (by omega) (by omega) hy hy' hz hz', ?_⟩
      rw [CodePoint.val_ofNat (by omega)]
      omega

theorem piece_cases (b : Byte) (rest : Bytes) :
    (∃ c after, piece b rest = (.char c, after) ∧ c.isSurrogate = false ∧
      b :: rest = encodeOne c ++ after) ∨
    ∃ bytes fault after, piece b rest = (.ill bytes fault, after) ∧ (∀ x ∈ bytes, 0x80 ≤ x.val) ∧
      b :: rest = bytes ++ after := by
  rw [piece]
  cases hb : lead? b with
  | none =>
    refine .inr ⟨[b], .startByte, rest, rfl, ?_, rfl⟩
    rw [List.forall_mem_singleton]
    refine Nat.not_lt.1 fun hlt => ?_
    unfold lead? at hb
    rw [if_pos (by omega)] at hb
    cases hb
  | some lead =>
    have hlow : 0x80 ≤ lead.low := by
      rcases lead_cases hb with ⟨-, rfl⟩ | ⟨-, -, rfl⟩ | ⟨-, -, rfl⟩ | ⟨-, -, rfl⟩ <;> grind
    rcases follow_cases [b] lead.bits hlow rest with
      ⟨tail, after, ht, rfl, hf⟩ | ⟨tail, after, fault, hpos, ht, rfl, hf⟩
    · obtain ⟨hbytes, hplain⟩ := encodeOne_joined hb ht
      refine .inl ⟨_, after, hf, hplain, ?_⟩
      rw [hbytes, List.cons_append]
    · refine .inr ⟨b :: tail, fault, after, hf, List.forall_mem_cons.2 ⟨?_, ht⟩, rfl⟩
      refine Nat.not_lt.1 fun hlt => ?_
      rcases lead_cases hb with ⟨-, rfl⟩ | ⟨h, -⟩ | ⟨h, -⟩ | ⟨h, -⟩
      · cases hpos
      all_goals omega

theorem standsForByte_of_byte {b : Byte} (hb : 0x80 ≤ b.val) :
    standsForByte (.ofNat (0xDC00 + b.val)) = true ∧
      byte ((CodePoint.ofNat (0xDC00 + b.val)).val - 0xDC00) = b := by
  have hval : (CodePoint.ofNat (0xDC00 + b.val)).val = 0xDC00 + b.val :=
    CodePoint.val_ofNat (by omega)
  rw [standsForByte, hval, Nat.add_sub_cancel_left, byte_eq rfl]
  simp only [Bool.and_eq_true, decide_eq_true_eq, and_true]
  omega

theorem not_standsForByte {c : CodePoint} (h : c.isSurrogate = false) :
    standsForByte c = false := by
  rw [CodePoint.isSurrogate_eq_false_iff] at h
  rw [standsForByte, Bool.and_eq_false_iff, decide_eq_false_iff_not, decide_eq_false_iff_not]
  omega

theorem encodeKept_cons (c : CodePoint) (t : Text) :
    encodeKept (c :: t) =
      (if standsForByte c then [byte (c.val - 0xDC00)] else encodeOne c) ++ encodeKept t := by
  rw [encodeKept, encodeKept, List.flatMap_cons]

theorem encodeKept_append (s t : Text) : encodeKept (s ++ t) = encodeKept s ++ encodeKept t := by
  rw [encodeKept, encodeKept, encodeKept, List.flatMap_append]

theorem encodeKept_ill {bytes : Bytes} {fault : Fault} (h : ∀ x ∈ bytes, 0x80 ≤ x.val) :
    encodeKept (Piece.ill bytes fault).kept = bytes := by
  rw [Piece.kept]
  induction bytes with
  | nil => rfl
  | cons b bytes ih =>
    rw [List.forall_mem_cons] at h
    obtain ⟨hb, hbyte⟩ := standsForByte_of_byte h.1
    rw [List.map_cons, encodeKept_cons, if_pos hb, hbyte, ih h.2, List.singleton_append]

/-- No bytes are lost where ill-formed ones are kept. -/
theorem encodeKept_decodeKeeping (bytes : Bytes) : encodeKept (decodeKeeping bytes) = bytes := by
  rw [decodeKeeping]
  fun_induction pieces bytes with
  | case1 => rfl
  | case2 b rest ih =>
    rw [List.flatMap_cons, encodeKept_append, ih]
    rcases piece_cases b rest with
      ⟨c, after, hp, hc, hbytes⟩ | ⟨ill, fault, after, hp, hill, hbytes⟩
    · rw [hp, hbytes, Piece.kept, encodeKept_cons, not_standsForByte hc, if_neg Bool.false_ne_true]
      rw [encodeKept, List.flatMap_nil, List.append_nil]
    · rw [hp, hbytes, encodeKept_ill hill]

theorem eq_zero_of_zero_mem_encodeOne {c : CodePoint} (h : 0 ∈ encodeOne c) : c = 0 := by
  have hc := c.isLt
  have hbyte {n : Nat} (hn : (0 : Byte) = byte n) : n % 256 = 0 := (congrArg Fin.val hn).symm
  unfold encodeOne at h
  dsimp only at h
  split_ifs at h
  · have hzero := hbyte (List.mem_singleton.1 h)
    exact Fin.ext (by rw [Fin.val_zero]; omega)
  all_goals
    simp only [List.mem_cons, List.not_mem_nil, or_false] at h
    obtain ⟨n, hn, hpos⟩ : ∃ n, (0 : Byte) = byte n ∧ n % 256 ≠ 0 := by grind
    exact absurd (hbyte hn) hpos

theorem encodable_decodeKeeping (bytes : Bytes) :
    encodeFault? standsForByte (decodeKeeping bytes) = none := by
  apply firstFault?_eq_none
  rw [decodeKeeping]
  fun_induction pieces bytes with
  | case1 => nofun
  | case2 b rest ih =>
    rw [List.flatMap_cons]
    refine List.forall_mem_append.2 ⟨?_, ih⟩
    intro c hc
    rcases piece_cases b rest with ⟨d, after, hp, hd, -⟩ | ⟨ill, fault, after, hp, hill, -⟩
    · rw [hp, Piece.kept, List.mem_singleton] at hc
      rw [hc, hd]
      rfl
    · rw [hp, Piece.kept] at hc
      obtain ⟨x, hx, rfl⟩ := List.mem_map.1 hc
      rw [(standsForByte_of_byte (hill x hx)).1, Bool.or_true]

theorem decodePieces_eq_ok {offset : Nat} {bytes : Bytes} {t : Text}
    (h : decodePieces offset (pieces bytes) = .ok t) :
    t.hasSurrogate = false ∧ t.flatMap encodeOne = bytes := by
  fun_induction pieces bytes generalizing offset t with
  | case1 =>
    cases h
    exact ⟨rfl, rfl⟩
  | case2 b rest ih =>
    obtain ⟨c, after, hp, hc, hbytes⟩ | ⟨ill, fault, after, hp, -⟩ := piece_cases b rest
    · rw [hp] at h ih
      obtain ⟨u, hu, rfl⟩ := map_eq_ok_iff.1 h
      obtain ⟨hplain, hafter⟩ := ih hu
      rw [List.flatMap_cons, hafter, hbytes, Text.hasSurrogate_cons, hc]
      exact ⟨hplain, rfl⟩
    · rw [hp] at h
      cases h

theorem decode_eq_ok_iff {bytes : Bytes} {t : Text} :
    decode bytes = .ok t ↔ t.hasSurrogate = false ∧ t.flatMap encodeOne = bytes := by
  constructor
  · exact decodePieces_eq_ok
  · rintro ⟨hplain, rfl⟩
    exact decode_encode hplain

theorem decodeLenient_plain (bytes : Bytes) : (decodeLenient bytes).hasSurrogate = false := by
  rw [Text.hasSurrogate_eq_false_iff, decodeLenient]
  fun_induction pieces bytes with
  | case1 => exact fun _ hc => absurd hc List.not_mem_nil
  | case2 b rest ih =>
    rw [List.map_cons, List.forall_mem_cons]
    refine ⟨?_, ih⟩
    obtain ⟨c, after, hp, hc, -⟩ | ⟨ill, fault, after, hp, -⟩ := piece_cases b rest
    · rw [hp]
      exact hc
    · rw [hp]
      rfl

theorem encodeKept_of_plain {t : Text} (h : t.hasSurrogate = false) :
    encodeKept t = t.flatMap encodeOne := by
  rw [Text.hasSurrogate_eq_false_iff] at h
  rw [encodeKept, List.flatMap_def, List.flatMap_def]
  congr 1
  refine List.map_congr_left fun c hc => ?_
  rw [not_standsForByte (h c hc), if_neg Bool.false_ne_true]

theorem decodeKeeping_encode {t : Text} (h : t.hasSurrogate = false) :
    decodeKeeping (t.flatMap encodeOne) = t := by
  rw [decodeKeeping, pieces_encode h, List.flatMap_map]
  exact List.flatMap_singleton' t

end TokenIndex.Utf8
