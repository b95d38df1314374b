import TokenIndex.Percent
import TokenIndex.Proofs.Text.Pieces

namespace TokenIndex.Percent

variable {kept : CodePoint → Bool} {t : Text}

/-- A text with its bytes escaped but those of the ASCII characters in `kept`. -/
def spelled (kept : CodePoint → Bool) (t : Text) : Text :=
  (t.flatMap Utf8.encodeOne).flatMap (encodeByte kept)

theorem encodeKeeping_eq_ok (kept : CodePoint → Bool) (h : t.hasSurrogate = false) :
    encodeKeeping kept t = .ok (spelled kept t) := by
  rw [encodeKeeping, Utf8.encode_eq_ok h]
  rfl

theorem encode_eq_ok (h : t.hasSurrogate = false) : encode t = .ok (spelled isUnreserved t) :=
  encodeKeeping_eq_ok isUnreserved h

theorem group?_escape (b : Byte) (rest : Text) : group? (escape b ++ rest) = some (b, rest) := by
  have hdigit : ∀ n : Fin 16, Text.hexDigit? (upperHexDigit n.val) = some n.val := by decide
  have hhigh := hdigit ⟨b.val / 16, by omega⟩
  have hlow := hdigit ⟨b.val % 16, by omega⟩
  have hb : Utf8.byte (b.val / 16 * 16 + b.val % 16) = b := Utf8.byte_eq (by omega)
  show Text.hexGroup? _ _ (_ :: _ :: _ :: rest) = _
  rw [Text.hexGroup?, if_pos rfl, hhigh, hlow]
  simp only [hb]

theorem group?_of_ne {c : CodePoint} (h : c ≠ '%') (rest : Text) : group? (c :: rest) = none := by
  unfold group? Text.hexGroup?
  split
  · rename_i heq
    cases heq
    rw [if_neg h]
  · rfl

theorem bytes_of_group {b : Byte} {rest : Text} (h : group? t = some (b, rest)) :
    bytes t = b :: bytes rest := by
  rw [bytes]
  split
  · rename_i hg
    rw [h] at hg
    cases hg
    rfl
  · rename_i hg
    rw [h] at hg
    cases hg

theorem bytes_cons {c : CodePoint} (h : c ≠ '%') (rest : Text) :
    bytes (c :: rest) = Utf8.encodeOne c ++ bytes rest := by
  rw [bytes]
  split
  · rename_i hg
    rw [group?_of_ne h] at hg
    cases hg
  · rfl

theorem bytes_encodeByte (hkept : kept '%' = false) (b : Byte) (rest : Text) :
    bytes (encodeByte kept b ++ rest) = b :: bytes rest := by
  rw [encodeByte]
  by_cases h : (decide (b.val < 0x80) && kept (.ofNat b.val)) = true
  · rw [if_pos h]
    rw [Bool.and_eq_true, decide_eq_true_eq] at h
    have hne : CodePoint.ofNat b.val ≠ '%' := by
      intro heq
      rw [heq, hkept] at h
      exact Bool.false_ne_true h.2
    rw [List.singleton_append, bytes_cons hne, Utf8.encodeOne_one h.1, List.singleton_append]
  · rw [if_neg h, bytes_of_group (group?_escape b rest)]

theorem bytes_spelled (hkept : kept '%' = false) (t : Text) :
    bytes (spelled kept t) = t.flatMap Utf8.encodeOne := by
  rw [spelled]
  induction t.flatMap Utf8.encodeOne with
  | nil => rw [List.flatMap_nil, bytes]; rfl
  | cons b bs ih => rw [List.flatMap_cons, bytes_encodeByte hkept, ih]

theorem bytes_append {lead : Text} (h : ('%' : CodePoint) ∉ lead) (rest : Text) :
    bytes (lead ++ rest) = lead.flatMap Utf8.encodeOne ++ bytes rest := by
  induction lead with
  | nil => rfl
  | cons c lead ih =>
    rw [List.mem_cons, not_or] at h
    rw [List.cons_append, bytes_cons (Ne.symm h.1), ih h.2, List.flatMap_cons, List.append_assoc]

theorem decode_append_spelled (hkept : kept '%' = false) (lead : Text)
    (hlead : ('%' : CodePoint) ∉ lead) (hplain : lead.hasSurrogate = false)
    (h : t.hasSurrogate = false) : decode (lead ++ spelled kept t) = lead ++ t := by
  rw [decode, bytes_append hlead, bytes_spelled hkept, ← List.flatMap_append,
    Utf8.decodeLenient_encode (Text.hasSurrogate_append hplain h)]

theorem decode_spelled (hkept : kept '%' = false) (h : t.hasSurrogate = false) :
    decode (spelled kept t) = t :=
  decode_append_spelled hkept [] List.not_mem_nil rfl h

theorem decode_of_not_mem (hmem : ('%' : CodePoint) ∉ t) (h : t.hasSurrogate = false) :
    decode t = t := by
  have hdecode := @decode_append_spelled isUnreserved [] rfl t hmem h rfl
  have hnil : spelled isUnreserved [] = [] := rfl
  rwa [hnil, List.append_nil] at hdecode

def isWritten (kept : CodePoint → Bool) (c : CodePoint) : Bool :=
  kept c || c.isOneOf "%0123456789ABCDEF"

theorem isWritten_of_mem {c : CodePoint} (h : c ∈ spelled kept t) :
    c.val < 0x80 ∧ isWritten kept c = true := by
  simp only [isWritten, Bool.or_eq_true]
  have hdigit : ∀ n : Fin 16, (upperHexDigit n.val).val < 0x80 ∧
      (upperHexDigit n.val).isOneOf "%0123456789ABCDEF" = true := by decide
  obtain ⟨b, -, hc⟩ := List.mem_flatMap.1 h
  rw [encodeByte] at hc
  by_cases hb : (decide (b.val < 0x80) && kept (.ofNat b.val)) = true
  · rw [if_pos hb, List.mem_singleton] at hc
    rw [Bool.and_eq_true, decide_eq_true_eq] at hb
    rw [hc, CodePoint.val_ofNat (by omega)]
    exact ⟨hb.1, .inl hb.2⟩
  · rw [if_neg hb, escape] at hc
    simp only [List.mem_cons, List.not_mem_nil, or_false] at hc
    rcases hc with rfl | rfl | rfl
    · exact ⟨by decide, .inr (by decide)⟩
    · have hd := hdigit ⟨b.val / 16, by omega⟩
      exact ⟨hd.1, .inr hd.2⟩
    · have hd := hdigit ⟨b.val % 16, by omega⟩
      exact ⟨hd.1, .inr hd.2⟩

theorem forall_mem_spelled (kept : CodePoint → Bool) {p : CodePoint → Bool}
    (h : ∀ n : Fin 0x80, isWritten kept (.ofNat n.val) = true → p (.ofNat n.val) = true)
    (t : Text) :
    ∀ c ∈ spelled kept t, c.val < 0x80 ∧ p c = true := by
  intro c hc
  obtain ⟨hascii, hc⟩ := isWritten_of_mem hc
  exact ⟨hascii, CodePoint.of_ascii h hascii hc⟩

theorem spelled_of_kept (h : ∀ c ∈ t, c.val < 0x80 ∧ kept c = true) : spelled kept t = t := by
  rw [spelled]
  induction t with
  | nil => rfl
  | cons c t ih =>
    rw [List.forall_mem_cons] at h
    have hbyte : (Utf8.byte c.val).val = c.val := Utf8.byte_val (by omega)
    have hc : encodeByte kept (Utf8.byte c.val) = [c] := by
      rw [encodeByte, hbyte, CodePoint.ofNat_val, if_pos]
      rw [Bool.and_eq_true, decide_eq_true_eq]
      exact h.1
    rw [List.flatMap_cons, List.flatMap_append, ih h.2, Utf8.encodeOne, if_pos h.1.1,
      List.flatMap_singleton, hc, List.singleton_append]

end TokenIndex.Percent
