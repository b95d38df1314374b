import TokenIndex.Proofs.Load.Basic
import TokenIndex.Proofs.Text.LineEnds
import TokenIndex.Proofs.Writer.Grammar
import Mathlib.Tactic.SplitIfs

namespace TokenIndex.Writer

open Literal.Grammar (Blanks)

section Lexemes

variable {P : Text → Prop}

theorem mem_intersperse {α : Type} {sep x : α} {xs : List α} (h : x ∈ xs.intersperse sep) :
    x = sep ∨ x ∈ xs := by
  induction xs with
  | nil => cases h
  | cons y xs ih =>
    cases xs with
    | nil => exact .inr h
    | cons z xs =>
      rw [List.intersperse_cons_cons, List.mem_cons, List.mem_cons] at h
      rcases h with rfl | rfl | h
      · exact .inr List.mem_cons_self
      · exact .inl rfl
      · exact (ih h).imp_right (List.mem_cons_of_mem _)

def signs : List Text := ["var", "searchData", "=", ";", "[", ",", "]"]

theorem forall_mem_bracketed (hsign : ∀ l ∈ signs, P l) {items : List (List Text)}
    (h : ∀ item ∈ items, ∀ l ∈ item, P l) : ∀ l ∈ bracketed items, P l := by
  intro l hl
  rw [bracketed, List.mem_append, List.mem_append, List.mem_singleton, List.mem_singleton] at hl
  rcases hl with (rfl | hl) | rfl
  · exact hsign _ (by decide)
  · obtain ⟨item, hitem, hl⟩ := List.mem_flatten.1 hl
    rcases mem_intersperse hitem with rfl | hitem
    · rw [List.mem_singleton.1 hl]
      exact hsign _ (by decide)
    · exact h item hitem l hl
  · exact hsign _ (by decide)

theorem Link.forall_mem_lexemes (hsign : ∀ l ∈ signs, P l)
    (hflag : ∀ i : Int, P (Text.decimalInt i)) {link : Link} (hlocator : P (quote link.locator))
    (hscope : P (quote (Reference.escape link.scope))) : ∀ l ∈ link.lexemes, P l := by
  apply forall_mem_bracketed hsign
  simp only [List.forall_mem_cons, List.not_mem_nil, false_imp_iff, implies_true, and_true]
  exact ⟨hlocator, hflag link.flag, hscope⟩

theorem Topic.forall_mem_lexemes (hsign : ∀ l ∈ signs, P l) {topic : Topic}
    (htoken : P (quote topic.token)) (hlabel : P (quote (Reference.escape topic.label)))
    (hlinks : ∀ link ∈ topic.links, ∀ l ∈ link.lexemes, P l) : ∀ l ∈ topic.lexemes, P l := by
  have hentries : ∀ l ∈ bracketed ([quote (Reference.escape topic.label)] ::
      topic.links.map Link.lexemes), P l := by
    apply forall_mem_bracketed hsign
    simp only [List.forall_mem_cons, List.not_mem_nil, false_imp_iff, implies_true, and_true,
      List.forall_mem_map]
    exact ⟨hlabel, hlinks⟩
  apply forall_mem_bracketed hsign
  simp only [List.forall_mem_cons, List.not_mem_nil, false_imp_iff, implies_true, and_true]
  exact ⟨htoken, hentries⟩

theorem Index.mem_strings {index : Index} {topic : Topic} (h : topic ∈ index.topics) :
    topic.token ∈ index.strings ∧ topic.label ∈ index.strings ∧
      ∀ link ∈ topic.links, link.locator ∈ index.strings ∧ link.scope ∈ index.strings := by
  have hstrings : ∀ s ∈ topic.token :: topic.label ::
      topic.links.flatMap fun link => [link.locator, link.scope], s ∈ index.strings := by
    intro s hs
    exact List.mem_flatMap.2 ⟨topic, h, hs⟩
  simp only [List.forall_mem_cons, List.mem_flatMap] at hstrings
  refine ⟨hstrings.1, hstrings.2.1, ?_⟩
  intro link hlink
  refine ⟨hstrings.2.2 _ ⟨link, hlink, ?_⟩, hstrings.2.2 _ ⟨link, hlink, ?_⟩⟩
  · exact List.mem_cons_self
  · exact List.mem_cons_of_mem _ List.mem_cons_self

theorem Index.forall_mem_lexemes (hsign : ∀ l ∈ signs, P l)
    (hflag : ∀ i : Int, P (Text.decimalInt i)) {index : Index}
    (hstring : ∀ s ∈ index.strings, P (quote s) ∧ P (quote (Reference.escape s))) :
    ∀ l ∈ index.lexemes, P l := by
  have htopics : ∀ l ∈ bracketed (index.topics.map Topic.lexemes), P l := by
    apply forall_mem_bracketed hsign
    simp only [List.forall_mem_map]
    intro topic htopic
    obtain ⟨htoken, hlabel, hlinks⟩ := index.mem_strings htopic
    apply Topic.forall_mem_lexemes hsign (hstring _ htoken).1 (hstring _ hlabel).2
    intro link hlink
    obtain ⟨hlocator, hscope⟩ := hlinks link hlink
    exact Link.forall_mem_lexemes hsign hflag (hstring _ hlocator).1 (hstring _ hscope).2
  intro l hl
  rw [Index.lexemes, List.mem_append, List.mem_append] at hl
  rcases hl with (hl | hl) | hl
  · exact hsign l (List.mem_append_left [(";" : Text), "[", ",", "]"] hl)
  · exact htopics l hl
  · rw [List.mem_singleton.1 hl]
    exact hsign _ (by decide)

theorem mem_decimalInt {i : Int} {c : CodePoint} (h : c ∈ Text.decimalInt i) :
    c = '-' ∨ c.isDigit = true := by
  obtain ⟨values, hdigits, -⟩ := exists_digits_decimal i.natAbs
  rw [Text.decimalInt] at h
  split_ifs at h
  · exact (List.mem_cons.1 h).imp_right (hdigits.isDigit c)
  · exact .inr (hdigits.isDigit c h)

end Lexemes

section LineEnds

def isLineEnd (c : CodePoint) : Bool := c = '\r' || c = '\n'

def Plain (l : Text) : Prop := l ≠ [] ∧ l.any isLineEnd = false

theorem any_quote {p : CodePoint → Bool} {t : Text} (hmark : p '\'' = false)
    (hone : ∀ c ∈ t, (quoteOne c).any p = false) : (quote t).any p = false := by
  have hinner : (t.flatMap quoteOne).any p = false := by
    rw [List.any_flatMap, List.any_eq_false]
    intro c hc
    rw [hone c hc]
    exact Bool.false_ne_true
  have hends : (Text.ofString "'").any p = false := by
    show (p '\'' || false) = false
    rw [hmark]
    rfl
  rw [quote, List.any_append, List.any_append, hinner, hends]
  rfl

theorem plain_quote (t : Text) : Plain (quote t) := by
  refine ⟨List.cons_ne_nil _ _, any_quote (by decide) ?_⟩
  intro c _
  unfold quoteOne
  split_ifs with _ _ hline hreturn
  · rfl
  · rfl
  · rfl
  · rfl
  · simp [isLineEnd, hline, hreturn]

theorem plain_decimalInt (i : Int) : Plain (Text.decimalInt i) := by
  refine ⟨?_, ?_⟩
  · rw [Text.decimalInt]
    split_ifs
    · exact List.cons_ne_nil _ _
    · exact decimal_ne_nil _
  · rw [List.any_eq_false]
    intro c hc hend
    rcases mem_decimalInt hc with rfl | hd
    · exact absurd hend (by decide)
    · rw [isLineEnd, Bool.or_eq_true, decide_eq_true_eq, decide_eq_true_eq] at hend
      rcases hend with rfl | rfl
      · exact absurd hd (by decide)
      · exact absurd hd (by decide)

theorem plain_lexemes (index : Index) : ∀ l ∈ index.lexemes, Plain l := by
  apply Index.forall_mem_lexemes
  · unfold Plain
    decide
  · exact plain_decimalInt
  · intro s _
    exact ⟨plain_quote s, plain_quote _⟩

/-- The layout that is left of another when line ends are normalised. -/
def Layout.normalized (layout : Layout) : Layout where
  gap i := (layout.gap i).normalizeLineEnds
  blank i := by
    intro c hc
    rcases Text.mem_normalizeLineEnds hc with rfl | hc
    · decide
    · exact layout.blank i c hc
  apart := Text.normalizeLineEnds_ne_nil layout.apart

theorem normalizeLineEnds_spread (gap : Nat → Text) (i : Nat) {ls : List Text}
    (h : ∀ l ∈ ls, Plain l) :
    Text.normalizeLineEnds (spread gap i ls) =
      spread (fun i => (gap i).normalizeLineEnds) i ls := by
  induction ls generalizing i with
  | nil => rfl
  | cons l ls ih =>
    rw [List.forall_mem_cons] at h
    obtain ⟨⟨hne, hl⟩, hls⟩ := h
    -- a gap may end in CR, but what follows it does not begin with LF
    have hends : Text.Ends (fun c => c = '\n') (l ++ spread gap (i + 1) ls) := by
      cases l with
      | nil => exact absurd rfl hne
      | cons c l =>
        rw [List.any_cons, Bool.or_eq_false_iff, isLineEnd, Bool.or_eq_false_iff] at hl
        exact Text.ends_cons.2 hl.1.2
    have hplain : ∀ c ∈ l, c ≠ '\r' := by
      intro c hc heq
      rw [List.any_eq_false] at hl
      exact hl c hc (by rw [heq]; rfl)
    rw [spread, spread, List.append_assoc, Text.normalizeLineEnds_append hends,
      Text.normalizeLineEnds_append_left hplain, ih (i + 1) hls, List.append_assoc]

theorem normalizeLineEnds_render (layout : Layout) (index : Index) :
    Text.normalizeLineEnds (render layout index) = render layout.normalized index :=
  normalizeLineEnds_spread layout.gap 0 (plain_lexemes index)

end LineEnds

theorem hasSurrogate_quote {t : Text} (h : t.hasSurrogate = false) :
    (quote t).hasSurrogate = false := by
  apply any_quote (by decide)
  intro c hc
  have hs := Text.hasSurrogate_eq_false_iff.1 h c hc
  unfold quoteOne
  split_ifs
  · rfl
  · rfl
  · rfl
  · rfl
  · rw [List.any_cons, hs]
    rfl

theorem hasSurrogate_lexemes {index : Index}
    (h : ∀ s ∈ index.strings, s.hasSurrogate = false) :
    ∀ l ∈ index.lexemes, l.hasSurrogate = false := by
  apply Index.forall_mem_lexemes
  · decide
  · intro i
    rw [Text.hasSurrogate_eq_false_iff]
    intro c hc
    rcases mem_decimalInt hc with rfl | hd
    · rfl
    · exact CodePoint.not_isSurrogate_of_isDigit hd
  · intro s hs
    have hescape := Reference.hasSurrogate_escape (h s hs)
    exact ⟨hasSurrogate_quote (h s hs), hasSurrogate_quote hescape⟩

theorem hasSurrogate_spread {gap : Nat → Text} (hgap : ∀ i, Blanks (gap i)) (i : Nat)
    {ls : List Text} (h : ∀ l ∈ ls, l.hasSurrogate = false) :
    (spread gap i ls).hasSurrogate = false := by
  have hblank (i : Nat) : (gap i).hasSurrogate = false := by
    rw [Text.hasSurrogate_eq_false_iff]
    intro c hc
    exact CodePoint.not_isSurrogate_of_isBlank (hgap i c hc)
  induction ls generalizing i with
  | nil => exact hblank i
  | cons l ls ih =>
    rw [List.forall_mem_cons] at h
    exact Text.hasSurrogate_append (Text.hasSurrogate_append (hblank i) h.1) (ih (i + 1) h.2)

theorem hasSurrogate_render (layout : Layout) {index : Index}
    (h : ∀ s ∈ index.strings, s.hasSurrogate = false) :
    (render layout index).hasSurrogate = false :=
  hasSurrogate_spread layout.blank 0 (hasSurrogate_lexemes h)

theorem exists_bytes_render (layout : Layout) {index : Index}
    (h : ∀ s ∈ index.strings, s.hasSurrogate = false) :
    ∃ bytes, Utf8.encode (render layout index) = .ok bytes ∧
      ∀ fs p, Files.status fs p = .ok (some (.file bytes)) →
        Load.read fs p = .ok (render layout.normalized index) := by
  have hbytes := Utf8.encode_eq_ok (hasSurrogate_render layout h)
  refine ⟨_, hbytes, ?_⟩
  intro fs p hfile
  rw [Load.read_of_encoded hbytes hfile, normalizeLineEnds_render]

end TokenIndex.Writer
