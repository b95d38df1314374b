import TokenIndex.Text.Utf8
import TokenIndex.Proofs.Basic

namespace TokenIndex

namespace Utf8

theorem byte_val {n : Nat} (h : n < 256) : (byte n).val = n := Nat.mod_eq_of_lt h

theorem lead?_one {n : Nat} (h : n < 0x80) : lead? (byte n) = some ⟨0, 0x80, 0xBF, n⟩ := by
  unfold lead?
  rw [byte_val (by omega), if_pos h]

theorem lead?_two {n : Nat} (h : 2 ≤ n) (h' : n < 0x20) :
    lead? (byte (0xC0 + n)) = some ⟨1, 0x80, 0xBF, n⟩ := by
  unfold lead?
  rw [byte_val (by omega)]
  dsimp only
  rw [if_neg (by omega), if_neg (by omega), if_pos (by omega), Nat.add_sub_cancel_left]

theorem lead?_three {n : Nat} (h : n < 0x10) :
    lead? (byte (0xE0 + n)) =
      some ⟨2, if n = 0 then 0xA0 else 0x80, if n = 0xD then 0x9F else 0xBF, n⟩ := by
  unfold lead?
  rw [byte_val (by omega)]
  dsimp only
  rw [if_neg (by omega), if_neg (by omega), if_neg (by omega), if_pos (by omega),
    Nat.add_sub_cancel_left]
  simp only [show (0xE0 + n = 0xE0) = (n = 0) by simp, show (0xE0 + n = 0xED) = (n = 0xD) by
    simp only [eq_iff_iff]; omega]

theorem lead?_four {n : Nat} (h : n < 5) :
    lead? (byte (0xF0 + n)) =
      some ⟨3, if n = 0 then 0x90 else 0x80, if n = 4 then 0x8F else 0xBF, n⟩ := by
  unfold lead?
  rw [byte_val (by omega)]
  dsimp only
  rw [if_neg (by omega), if_neg (by omega), if_neg (by omega), if_neg (by omega),
    if_pos (by omega), Nat.add_sub_cancel_left]
  simp only [show (0xF0 + n = 0xF0) = (n = 0) by simp, show (0xF0 + n = 0xF4) = (n = 4) by
    simp only [eq_iff_iff]; omega]

theorem follow_tail {taken : Bytes} {bits k low high n : Nat} {rest : Bytes} (h : n < 0x40)
    (hl : low ≤ 0x80 + n) (hh : 0x80 + n ≤ high) :
    follow taken bits (k + 1) low high (byte (0x80 + n) :: rest) =
      follow (byte (0x80 + n) :: taken) (bits * 0x40 + n) k 0x80 0xBF rest := by
  have hb : (byte (0x80 + n)).val = 0x80 + n := byte_val (by omega)
  rw [follow, if_pos (by omega), hb, Nat.add_sub_cancel_left]

theorem pieces_one {n : Nat} (h : n < 0x80) (rest : Bytes) :
    pieces (byte n :: rest) = .char (.ofNat n) :: pieces rest := by
  have hp : piece (byte n) rest = (.char (.ofNat n), rest) := by
    rw [piece, lead?_one h]
    exact follow.eq_1 ..
  rw [pieces, hp]

theorem pieces_two {a b : Nat} (ha : 2 ≤ a) (ha' : a < 0x20) (hb : b < 0x40) (rest : Bytes) :
    pieces (byte (0xC0 + a) :: byte (0x80 + b) :: rest) =
      .char (.ofNat (a * 0x40 + b)) :: pieces rest := by
  have hp : piece (byte (0xC0 + a)) (byte (0x80 + b) :: rest) =
      (.char (.ofNat (a * 0x40 + b)), rest) := by
    rw [piece, lead?_two ha ha']
    dsimp only
    rw [follow_tail hb (by omega) (by omega), follow]
  rw [pieces, hp]

theorem pieces_three {a b c : Nat} (ha : a < 0x10) (hb : b < 0x40) (hc : c < 0x40)
    (hlow : a = 0 → 0x20 ≤ b) (hhigh : a = 0xD → b < 0x20) (rest : Bytes) :
    pieces (byte (0xE0 + a) :: byte (0x80 + b) :: byte (0x80 + c) :: rest) =
      .char (.ofNat ((a * 0x40 + b) * 0x40 + c)) :: pieces rest := by
  have hp : piece (byte (0xE0 + a)) (byte (0x80 + b) :: byte (0x80 + c) :: rest) =
      (.char (.ofNat ((a * 0x40 + b) * 0x40 + c)), rest) := by
    rw [piece, lead?_three ha]
    dsimp only
    rw [follow_tail hb (by split <;> omega) (by split <;> omega),
      follow_tail hc (by omega) (by omega), follow]
  rw [pieces, hp]

theorem pieces_four {a b c d : Nat} (ha : a < 5) (hb : b < 0x40) (hc : c < 0x40) (hd : d < 0x40)
    (hlow : a = 0 → 0x10 ≤ b) (hhigh : a = 4 → b < 0x10) (rest : Bytes) :
    pieces (byte (0xF0 + a) :: byte (0x80 + b) :: byte (0x80 + c) :: byte (0x80 + d) :: rest) =
      .char (.ofNat (((a * 0x40 + b) * 0x40 + c) * 0x40 + d)) :: pieces rest := by
  have hp : piece (byte (0xF0 + a))
      (byte (0x80 + b) :: byte (0x80 + c) :: byte (0x80 + d) :: rest) =
      (.char (.ofNat (((a * 0x40 + b) * 0x40 + c) * 0x40 + d)), rest) := by
    rw [piece, lead?_four ha]
    dsimp only
    rw [follow_tail hb (by split <;> omega) (by split <;> omega),
      follow_tail hc (by omega) (by omega), follow_tail hd (by omega) (by omega), follow]
  rw [pieces, hp]

theorem pieces_encodeOne {c : CodePoint} (h : c.isSurrogate = false) (rest : Bytes) :
    pieces (encodeOne c ++ rest) = .char c :: pieces rest := by
  have hc := c.isLt
  rw [CodePoint.isSurrogate_eq_false_iff] at h
  have tail {n : Nat} : n % 0x40 < 0x40 := Nat.mod_lt _ (by decide)
  unfold encodeOne
  dsimp only
  by_cases h1 : c.val < 0x80
  · rw [if_pos h1, List.cons_append, List.nil_append, pieces_one h1, CodePoint.ofNat_val]
  rw [if_neg h1]
  by_cases h2 : c.val < 0x800
  · have hbits : c.val / 0x40 * 0x40 + c.val % 0x40 = c.val := by omega
    simp only [if_pos h2, List.cons_append, List.nil_append]
    rw [pieces_two (by omega) (by omega) tail, hbits, CodePoint.ofNat_val]
  rw [if_neg h2]
  by_cases h3 : c.val < 0x10000
  · -- the surrogates are what the bound behind the lead byte 0xED leaves out
    have hbits : (c.val / 0x1000 * 0x40 + c.val / 0x40 % 0x40) * 0x40 + c.val % 0x40 = c.val := by
      omega
    simp only [if_pos h3, List.cons_append, List.nil_append]
    rw [pieces_three (by omega) tail tail (by omega) (by omega), hbits, CodePoint.ofNat_val]
  · have hbits : ((c.val / 0x40000 * 0x40 + c.val / 0x1000 % 0x40) * 0x40 +
        c.val / 0x40 % 0x40) * 0x40 + c.val % 0x40 = c.val := by omega
    simp only [if_neg h3, List.cons_append, List.nil_append]
    rw [pieces_four (by omega) tail tail tail (by omega) (by omega), hbits, CodePoint.ofNat_val]

theorem pieces_encode {t : Text} (h : t.hasSurrogate = false) :
    pieces (t.flatMap encodeOne) = t.map .char := by
  induction t with
  | nil => rw [List.flatMap_nil, pieces, List.map_nil]
  | cons c t ih =>
    rw [Text.hasSurrogate_cons, Bool.or_eq_false_iff] at h
    rw [List.flatMap_cons, pieces_encodeOne h.1, ih h.2, List.map_cons]

theorem decodeLenient_encode {t : Text} (h : t.hasSurrogate = false) :
    decodeLenient (t.flatMap encodeOne) = t := by
  rw [decodeLenient, pieces_encode h, List.map_map]
  exact List.map_id t

theorem decodePieces_char (t : Text) (offset : Nat) :
    decodePieces offset (t.map .char) = .ok t := by
  induction t generalizing offset with
  | nil => rfl
  | cons c t ih => rw [List.map_cons, decodePieces, ih]; rfl

theorem decode_encode {t : Text} (h : t.hasSurrogate = false) :
    decode (t.flatMap encodeOne) = .ok t := by
  rw [decode, pieces_encode h, decodePieces_char]

theorem firstFault?_eq_none {fits bad : CodePoint → Bool} {t : Text} (h : ∀ c ∈ t, fits c = true) :
    firstFault? fits bad t = none := by
  have hd := Text.dropWhile_run h (Text.ends_nil _)
  rw [List.append_nil] at hd
  rw [firstFault?, hd]

theorem encode_eq_ok {t : Text} (h : t.hasSurrogate = false) :
    encode t = .ok (t.flatMap encodeOne) := by
  have hfits : ∀ c ∈ t, (!c.isSurrogate || false) = true := by
    intro c hc
    rw [Text.hasSurrogate_eq_false_iff.1 h c hc]
    rfl
  rw [encode, encodeFault?, firstFault?_eq_none hfits]

theorem plain_of_encode {t : Text} {bytes : Bytes} (h : encode t = .ok bytes) :
    t.hasSurrogate = false := by
  rw [encode, encodeFault?, firstFault?] at h
  cases hrest : t.dropWhile fun c => !c.isSurrogate || false with
  | nil =>
    have hall := List.all_takeWhile (p := fun c => !c.isSurrogate || false) (l := t)
    rw [Text.hasSurrogate_eq_false_iff]
    intro c hc
    rw [← t.takeWhile_append_dropWhile (p := fun c => !c.isSurrogate || false), hrest,
      List.append_nil] at hc
    simpa using List.all_eq_true.1 hall c hc
  | cons c rest =>
    rw [hrest] at h
    cases h

end Utf8
end TokenIndex
