import TokenIndex.Proofs.Text.Pieces
import TokenIndex.Proofs.Search
import Mathlib.Tactic.TFAE

namespace TokenIndex.Token

/-- Well-formed UTF-8 of characters that must be escaped. -/
def MustEscape (bytes : Bytes) : Prop :=
  ∃ t, Utf8.decode bytes = .ok t ∧ ∀ c ∈ t, isSafe c = false

/-- Safe characters, with runs of groups before, between and behind them. A run, which may be
empty, goes on up to a safe character or the end of the text, and is well-formed UTF-8 of characters
that are not safe. -/
inductive Canonical : Text → Prop
  | run {bytes : Bytes} : MustEscape bytes → Canonical (bytes.flatMap escape)
  | safe {bytes : Bytes} {c : CodePoint} {t : Text} : MustEscape bytes → isSafe c = true →
      Canonical t → Canonical (bytes.flatMap escape ++ c :: t)

theorem flatMap_encodeOne_of_not_safe {t : Text} (h : ∀ c ∈ t, isSafe c = false) :
    t.flatMap encodeOne = (t.flatMap Utf8.encodeOne).flatMap escape := by
  rw [List.flatMap_assoc]
  refine List.flatMap_congr fun c hc => ?_
  rw [encodeOne, h c hc, if_neg Bool.false_ne_true]

theorem MustEscape.exists_text {bytes : Bytes} (h : MustEscape bytes) :
    ∃ t : Text, t.hasSurrogate = false ∧ bytes.flatMap escape = t.flatMap encodeOne := by
  obtain ⟨t, hdecode, ht⟩ := h
  obtain ⟨hplain, rfl⟩ := Utf8.decode_eq_ok_iff.1 hdecode
  exact ⟨t, hplain, (flatMap_encodeOne_of_not_safe ht).symm⟩

theorem not_isSurrogate_of_isSafe {c : CodePoint} (h : isSafe c = true) : c.isSurrogate = false := by
  have hascii : c.val < 0x80 := by
    obtain h | h := Bool.or_eq_true_iff.1 h
    · exact CodePoint.ascii_of_between h (by decide)
    · exact CodePoint.ascii_of_between h (by decide)
  exact CodePoint.isSurrogate_eq_false_iff.2 (by omega)

theorem Canonical.exists_text {t : Text} (h : Canonical t) :
    ∃ name : Text, name.hasSurrogate = false ∧ t = name.flatMap encodeOne := by
  induction h with
  | run hrun => exact hrun.exists_text
  | @safe bytes c t hrun hc _ ih =>
    obtain ⟨before, hbefore, hbytes⟩ := hrun.exists_text
    obtain ⟨name, hname, rfl⟩ := ih
    have hplain : Text.hasSurrogate (c :: name) = false := by
      rw [Text.hasSurrogate_cons, not_isSurrogate_of_isSafe hc]
      exact hname
    refine ⟨before ++ c :: name, Text.hasSurrogate_append hbefore hplain, ?_⟩
    rw [List.flatMap_append, List.flatMap_cons, encodeOne, if_pos hc, hbytes]
    rfl

theorem canonical_flatMap {before name : Text} (hbefore : before.hasSurrogate = false)
    (hsafe : ∀ c ∈ before, isSafe c = false) (hname : name.hasSurrogate = false) :
    Canonical ((before.flatMap Utf8.encodeOne).flatMap escape ++ name.flatMap encodeOne) := by
  induction name generalizing before with
  | nil =>
    rw [List.flatMap_nil, List.append_nil]
    exact .run ⟨before, Utf8.decode_encode hbefore, hsafe⟩
  | cons c name ih =>
    rw [Text.hasSurrogate_cons, Bool.or_eq_false_iff] at hname
    rw [List.flatMap_cons, encodeOne]
    by_cases hc : isSafe c = true
    · rw [if_pos hc, List.singleton_append]
      exact .safe ⟨before, Utf8.decode_encode hbefore, hsafe⟩ hc
        (ih rfl (List.forall_mem_nil _) hname.2)
    · have hplain : (before ++ [c]).hasSurrogate = false := by
        apply Text.hasSurrogate_append hbefore
        rw [Text.hasSurrogate_singleton, hname.1]
      have hnone : ∀ d ∈ before ++ [c], isSafe d = false := by
        rw [List.forall_mem_append, List.forall_mem_singleton]
        exact ⟨hsafe, Bool.not_eq_true _ ▸ hc⟩
      have hrun := ih hplain hnone hname.2
      rw [List.flatMap_append, List.flatMap_append, List.flatMap_singleton, List.append_assoc] at hrun
      rwa [if_neg hc]

theorem canonical_iff {t : Text} :
    Canonical t ↔ ∃ name : Text, name.hasSurrogate = false ∧ t = name.flatMap encodeOne := by
  constructor
  · exact Canonical.exists_text
  · rintro ⟨name, hname, rfl⟩
    exact canonical_flatMap rfl (List.forall_mem_nil _) hname

theorem decode_flatMap {name : Text} (h : name.hasSurrogate = false) :
    decode (name.flatMap encodeOne) = name :=
  @decodeFrom_encode [] name rfl h

/-- A text is the token of some name exactly if it is the token of what it decodes to. These are the
texts of safe characters and groups in which every run of groups is well-formed UTF-8 of characters
that are not safe, and which decode to a text in lower case. -/
theorem encode_decode_tfae (t : Text) :
    [∃ name, encode name = .ok t, encode (decode t) = .ok t,
      Canonical t ∧ (decode t).lower = decode t].TFAE := by
  tfae_have 1 → 3
  | ⟨name, hname⟩ => by
    obtain ⟨hplain, rfl⟩ := encode_eq_ok_iff.1 hname
    have hlower := Text.hasSurrogate_lower hplain
    rw [decode_flatMap hlower, Text.lower_lower]
    exact ⟨canonical_iff.2 ⟨_, hlower, rfl⟩, rfl⟩
  tfae_have 3 → 2
  | ⟨hcanonical, hlower⟩ => by
    obtain ⟨name, hplain, rfl⟩ := canonical_iff.1 hcanonical
    rw [decode_flatMap hplain] at hlower ⊢
    exact encode_eq_ok_iff.2 ⟨hplain, by rw [hlower]⟩
  tfae_have 2 → 1 := fun h => ⟨_, h⟩
  tfae_finish

end TokenIndex.Token
