import TokenIndex.Token
import TokenIndex.Proofs.Text.Lower
import TokenIndex.Proofs.Text.Utf8

namespace TokenIndex.Token

def hexDigit (n : Nat) : CodePoint := .ofNat (if n < 10 then 0x30 + n else 0x57 + n)

theorem escape_eq : ∀ b : Byte,
    escape b = [('_' : CodePoint), hexDigit (b.val / 16), hexDigit (b.val % 16)] := by
  decide +kernel

theorem digit?_hexDigit {n : Nat} (h : n < 16) : digit? (hexDigit n) = some n := by
  have all : ∀ m : Fin 16, digit? (hexDigit m) = some m.val := by decide
  exact all ⟨n, h⟩

theorem group?_escape (b : Byte) (rest : Text) : group? (escape b ++ rest) = some (b, rest) := by
  have hb : Utf8.byte (b.val / 16 * 16 + b.val % 16) = b := by
    apply Fin.ext
    show _ % 256 = _
    omega
  rw [escape_eq]
  show Text.hexGroup? _ _ (_ :: _ :: _ :: rest) = _
  rw [Text.hexGroup?, if_pos rfl, digit?_hexDigit (by omega), digit?_hexDigit (by omega)]
  simp only [hb]

theorem decodeFrom_of_group {t rest : Text} {b : Byte} (h : group? t = some (b, rest))
    (run : Bytes) : decodeFrom run t = decodeFrom (run ++ [b]) rest := by
  rw [decodeFrom]
  split
  · rename_i hb
    rw [h] at hb
    cases hb
    rfl
  · rename_i hb
    rw [h] at hb
    cases hb

theorem decodeFrom_of_group_eq_none {c : CodePoint} {rest : Text} (h : group? (c :: rest) = none)
    (run : Bytes) :
    decodeFrom run (c :: rest) = Utf8.decodeLenient run ++ c :: decodeFrom [] rest := by
  rw [decodeFrom]
  split
  · rename_i hb
    rw [h] at hb
    cases hb
  · rfl

theorem decodeFrom_escapes (run bytes : Bytes) (rest : Text) :
    decodeFrom run (bytes.flatMap escape ++ rest) = decodeFrom (run ++ bytes) rest := by
  induction bytes generalizing run with
  | nil => simp
  | cons b bytes ih =>
    rw [List.flatMap_cons, List.append_assoc, decodeFrom_of_group (group?_escape b _), ih,
      List.append_assoc, List.singleton_append]

theorem decodeFrom_safe (run : Bytes) {c : CodePoint} (h : isSafe c = true) (rest : Text) :
    decodeFrom run (c :: rest) = Utf8.decodeLenient run ++ c :: decodeFrom [] rest := by
  have hc : c ≠ '_' := by rintro rfl; exact absurd h (by decide)
  refine decodeFrom_of_group_eq_none ?_ run
  unfold group? Text.hexGroup?
  split
  · rename_i heq
    cases heq
    rw [if_neg hc]
  · rfl

/-- What the decoder gives behind a run that holds the bytes of `before`: the characters of a name
reach the run one after the other, until a safe one ends it. -/
theorem decodeFrom_encode {before name : Text} (hb : before.hasSurrogate = false)
    (hn : name.hasSurrogate = false) :
    decodeFrom (before.flatMap Utf8.encodeOne) (name.flatMap encodeOne) = before ++ name := by
  induction name generalizing before with
  | nil =>
    rw [List.flatMap_nil, decodeFrom, List.append_nil]
    exact Utf8.decodeLenient_encode hb
  | cons c name ih =>
    rw [Text.hasSurrogate_cons, Bool.or_eq_false_iff] at hn
    rw [List.flatMap_cons, encodeOne]
    by_cases hc : isSafe c = true
    · -- the run ends here and is whole, so it decodes to `before`
      rw [if_pos hc, List.singleton_append, decodeFrom_safe _ hc, Utf8.decodeLenient_encode hb]
      have hrest : decodeFrom [] (name.flatMap encodeOne) = name := @ih [] rfl hn.2
      rw [hrest]
    · -- the run goes on with the bytes of `c`
      have hsnoc : (before ++ [c]).hasSurrogate = false := by
        apply Text.hasSurrogate_append hb
        rw [Text.hasSurrogate_singleton, hn.1]
      have hrun : before.flatMap Utf8.encodeOne ++ Utf8.encodeOne c =
          (before ++ [c]).flatMap Utf8.encodeOne := by
        rw [List.flatMap_append, List.flatMap_singleton]
      rw [if_neg hc, decodeFrom_escapes, hrun, ih hsnoc hn.2, List.append_assoc,
        List.singleton_append]

theorem encode_eq_ok {name : Text} (h : name.hasSurrogate = false) :
    encode name = .ok (name.lower.flatMap encodeOne) := by
  have hnone : name.find? CodePoint.isSurrogate = none := by
    rw [List.find?_eq_none]
    intro c hc
    rw [Text.hasSurrogate_eq_false_iff.1 h c hc]
    exact Bool.false_ne_true
  rw [encode, Text.find?_isSurrogate_lower, hnone]

/-- A name with a surrogate has no token, and the first one is to blame; any other name comes back
from its token in lower case. Lower casing has no part in which of the two it is. -/
theorem decode_encode_eq_lower (name : Text) :
    (∀ c, name.find? CodePoint.isSurrogate = some c → encode name = .error ⟨0, c, 1⟩) ∧
      (name.hasSurrogate = false →
        ∃ token, encode name = .ok token ∧ decode token = name.lower) ∧
      name.lower.filter CodePoint.isSurrogate = name.filter CodePoint.isSurrogate := by
  refine ⟨?_, ?_, Text.filter_lowerFrom false name⟩
  · intro c hc
    rw [encode, Text.find?_isSurrogate_lower, hc]
  · intro h
    refine ⟨_, encode_eq_ok h, ?_⟩
    exact @decodeFrom_encode [] name.lower rfl (Text.hasSurrogate_lower h)

theorem decode_encode_eq_lower_on_umlaut_and_surrogate :
    encode ['a', 0xD800, 0xDFFF] = .error ⟨0, 0xD800, 1⟩ ∧
      ∃ token, encode [0xC4, 'a'] = .ok token ∧ decode token = Text.lower [0xC4, 'a'] :=
  ⟨(decode_encode_eq_lower ['a', 0xD800, 0xDFFF]).1 0xD800 (by decide),
    (decode_encode_eq_lower [0xC4, 'a']).2.1 (by decide)⟩

end TokenIndex.Token
