import TokenIndex.Proofs.Literal.Document
import TokenIndex.Proofs.Text.Decimal
import TokenIndex.Proofs.Writer.Basic
import Mathlib.Data.List.Forall2
import Mathlib.Tactic.SplitIfs

namespace TokenIndex.Writer

open Literal Literal.Grammar

section Decimal

theorem exists_digits_decimal (n : Nat) :
    ∃ values, Digits (Text.decimal n) values ∧ Text.ofDigits 10 values = n := by
  obtain ⟨values, hdecimal, hsmall, hvalue, -⟩ := Text.exists_decimal n
  refine ⟨values, ?_, hvalue⟩
  rw [hdecimal, Digits, List.map_map]
  exact List.map_congr_left fun d hd => Text.digit?_digitSign (hsmall d hd)

theorem decimal_ne_nil (n : Nat) : Text.decimal n ≠ [] := by
  rw [Text.decimal, Ne, List.map_eq_nil_iff]
  exact Nat.toDigits_ne_nil

theorem number_decimalInt {i : Int} (h : (Text.decimal i.natAbs).length ≤ TooManyDigits.limit) :
    Number (Text.decimalInt i) i := by
  obtain ⟨values, hdigits, hvalue⟩ := exists_digits_decimal i.natAbs
  have hne := decimal_ne_nil i.natAbs
  rw [Text.decimalInt]
  by_cases hi : i < 0
  · have hneg : -(Text.ofDigits 10 values : Int) = i := by omega
    rw [if_pos hi]
    have hnumber := Number.negative hne h hdigits
    rwa [hneg] at hnumber
  · have hpos : (Text.ofDigits 10 values : Int) = i := by omega
    rw [if_neg hi]
    have hnumber := Number.plain hne h hdigits
    rwa [hpos] at hnumber

end Decimal

theorem characters_backslash {c d : CodePoint} {t v : Text}
    (hd : d ∉ [('u' : CodePoint), 'x', '\n', '\r']) (hc : (meanings.lookup d).getD d = c)
    (h : Characters ('\'' : CodePoint) t v) :
    Characters ('\'' : CodePoint) ('\\' :: d :: t) (c :: v) := by
  simp only [List.mem_cons, List.not_mem_nil, or_false, not_or] at hd
  obtain ⟨hu, hx, hn, hr⟩ := hd
  rw [← hc]
  exact .escape (.character hu hx hn hr) h

theorem characters_quoteOne {c : CodePoint} {t v : Text} (h : Characters ('\'' : CodePoint) t v) :
    Characters ('\'' : CodePoint) (quoteOne c ++ t) (c :: v) := by
  unfold quoteOne
  split_ifs with hbackslash hquote hline hreturn
  · exact characters_backslash (by decide) hbackslash.symm h
  · exact characters_backslash (by decide) hquote.symm h
  · exact characters_backslash (by decide) hline.symm h
  · exact characters_backslash (by decide) hreturn.symm h
  · exact .plain hquote hbackslash hline h

theorem item_quote (t : Text) : Item (quote t) (.text t) := by
  refine .scalar (.string (.inl rfl) ?_)
  induction t with
  | nil => exact .nil
  | cons c t ih =>
    rw [List.flatMap_cons]
    exact characters_quoteOne ih

/-- Lexical elements with white space in front of each. -/
inductive Spaced : List Text → Text → Prop
  | nil : Spaced [] []
  | cons {w l t : Text} {ls : List Text} : Blanks w → Spaced ls t → Spaced (l :: ls) (w ++ l ++ t)

theorem Spaced.append_cases {ls ms : List Text} {t : Text} (h : Spaced (ls ++ ms) t) :
    ∃ a b, t = a ++ b ∧ Spaced ls a ∧ Spaced ms b := by
  induction ls generalizing t with
  | nil => exact ⟨[], t, rfl, .nil, h⟩
  | cons l ls ih =>
    obtain _ | ⟨hw, hrest⟩ := h
    obtain ⟨a, b, rfl, ha, hb⟩ := ih hrest
    exact ⟨_, b, (List.append_assoc ..).symm, .cons hw ha, hb⟩

theorem Spaced.single {l t : Text} (h : Spaced [l] t) : ∃ w, t = w ++ l ∧ Blanks w := by
  obtain _ | ⟨hw, _ | _⟩ := h
  exact ⟨_, List.append_nil _, hw⟩

theorem Spaced.cons_cases {l t : Text} {ls : List Text} (h : Spaced (l :: ls) t) :
    ∃ w s, t = w ++ l ++ s ∧ Blanks w ∧ Spaced ls s := by
  obtain _ | ⟨hw, hs⟩ := h
  exact ⟨_, _, rfl, hw, hs⟩

/-- Lexical elements that spell a value, with any white space between them. -/
def Spells (ls : List Text) (v : Value) : Prop :=
  ∀ t, Spaced ls t → ∃ w x, t = w ++ x ∧ Blanks w ∧ Item x v

theorem spells_item {l : Text} {v : Value} (h : Item l v) : Spells [l] v := by
  intro t ht
  obtain ⟨w, rfl, hw⟩ := ht.single
  exact ⟨w, l, rfl, hw, h⟩

theorem elements_of_spaced {parts : List (List Text)} {vs : List Value}
    (h : List.Forall₂ Spells parts vs) {t : Text}
    (ht : Spaced ((parts.intersperse [("," : Text)]).flatten ++ [("]" : Text)]) t) :
    ∃ e, t = e ++ "]" ∧ Elements e vs := by
  induction h generalizing t with
  | nil =>
    obtain ⟨w, rfl, hw⟩ := ht.single
    exact ⟨w, rfl, .none hw⟩
  | @cons part v parts vs hpart hparts ih =>
    cases hparts with
    | nil =>
      -- no comma behind the last item
      rw [List.intersperse_singleton, List.flatten_singleton] at ht
      obtain ⟨a, b, rfl, ha, hb⟩ := ht.append_cases
      obtain ⟨w, x, rfl, hw, hx⟩ := hpart a ha
      obtain ⟨z, rfl, hz⟩ := hb.single
      exact ⟨w ++ x ++ z, by simp, .last hw hx hz⟩
    | cons =>
      rw [List.intersperse_cons_cons, List.flatten_cons, List.flatten_cons, List.append_assoc,
        List.append_assoc] at ht
      obtain ⟨a, b, rfl, ha, hb⟩ := ht.append_cases
      obtain ⟨w, x, rfl, hw, hx⟩ := hpart a ha
      obtain ⟨z, s, rfl, hz, hs⟩ := hb.cons_cases
      obtain ⟨e, rfl, he⟩ := ih hs
      exact ⟨_, by simp [Text.ofString], .more hw hx hz he⟩

theorem spaced_bracketed {parts : List (List Text)} {vs : List Value}
    (h : List.Forall₂ Spells parts vs) {t : Text} (ht : Spaced (bracketed parts) t) :
    ∃ w e, t = w ++ (('[' : CodePoint) :: (e ++ "]")) ∧ Blanks w ∧ Elements e vs := by
  rw [bracketed, List.append_assoc] at ht
  obtain ⟨w, s, rfl, hw, hs⟩ := ht.cons_cases
  obtain ⟨e, rfl, he⟩ := elements_of_spaced h hs
  exact ⟨w, e, by simp [Text.ofString], hw, he⟩

theorem spells_bracketed {parts : List (List Text)} {vs : List Value}
    (h : List.Forall₂ Spells parts vs) : Spells (bracketed parts) (.array vs) := by
  intro t ht
  obtain ⟨w, e, rfl, hw, he⟩ := spaced_bracketed h ht
  exact ⟨w, _, rfl, hw, .array he⟩

theorem forall₂_map {α β γ : Type} {R : β → γ → Prop} {f : α → β} {g : α → γ} {xs : List α}
    (h : ∀ x ∈ xs, R (f x) (g x)) : List.Forall₂ R (xs.map f) (xs.map g) := by
  rw [List.forall₂_map_left_iff, List.forall₂_map_right_iff, List.forall₂_same]
  exact h

theorem Link.spells (link : Link) : Spells link.lexemes link.raw := by
  apply spells_bracketed
  have hflag : Item (Text.decimalInt link.flag) (.int link.flag) :=
    .scalar (.number (number_decimalInt link.short))
  exact .cons (spells_item (item_quote _)) (.cons (spells_item hflag)
    (.cons (spells_item (item_quote _)) .nil))

theorem Topic.spells (topic : Topic) : Spells topic.lexemes topic.raw := by
  apply spells_bracketed
  have hlinks : List.Forall₂ Spells (topic.links.map Link.lexemes) (topic.links.map Link.raw) :=
    forall₂_map fun link _ => link.spells
  exact .cons (spells_item (item_quote _))
    (.cons (spells_bracketed (.cons (spells_item (item_quote _)) hlinks)) .nil)

theorem exists_spaced_spread (gap : Nat → Text) (h : ∀ i, Blanks (gap i)) (i : Nat)
    (ls : List Text) : ∃ t z, spread gap i ls = t ++ z ∧ Spaced ls t ∧ Blanks z := by
  induction ls generalizing i with
  | nil => exact ⟨[], gap i, rfl, .nil, h i⟩
  | cons l ls ih =>
    obtain ⟨t, z, ht, hs, hz⟩ := ih (i + 1)
    refine ⟨_, z, ?_, .cons (h i) hs, hz⟩
    rw [spread, ht, List.append_assoc _ t z]

theorem document_render (layout : Layout) (index : Index) :
    Document (render layout index) (index.topics.map Topic.raw) := by
  obtain ⟨t, z, ht, hs, hz⟩ := exists_spaced_spread layout.gap layout.blank 3
    (bracketed (index.topics.map Topic.lexemes) ++ [(";" : Text)])
  have htopics : List.Forall₂ Spells (index.topics.map Topic.lexemes)
      (index.topics.map Topic.raw) :=
    forall₂_map fun topic _ => topic.spells
  -- the first three gaps lie in the assignment, the others around the array
  obtain ⟨a, b, rfl, ha, hb⟩ := hs.append_cases
  obtain ⟨w, e, rfl, hw, he⟩ := spaced_bracketed htopics ha
  obtain ⟨y, rfl, hy⟩ := hb.single
  have hname : ∀ c ∈ Text.ofString "earchData", c.continuesName = true :=
    List.all_eq_true.1 (by decide +kernel)
  have hassign := Assignment.mk (layout.blank 0) (layout.blank 1) layout.apart
    (by decide : CodePoint.startsName ('s' : CodePoint) = true) hname (layout.blank 2)
    (nofun : Blanks [])
  have hdoc := Document.mk (.inr hassign) hw he hy (.inr ⟨z, hz, rfl⟩)
  have htext : render layout index = layout.gap 0 ++ "var" ++ (layout.gap 1 ++ "searchData" ++
      (layout.gap 2 ++ "=" ++ spread layout.gap 3
        (bracketed (index.topics.map Topic.lexemes) ++ [(";" : Text)]))) := rfl
  rw [htext, ht]
  simp only [List.append_assoc, List.cons_append, List.nil_append] at hdoc ⊢
  exact hdoc

/-- What was written is read back, HTML escapes apart. -/
theorem parse_render (layout : Layout) (index : Index) :
    parse (render layout index) = .ok (index.topics.map Topic.raw) :=
  parse_eq_ok_iff_document.2 (document_eq_ok_iff.2 (document_render layout index))

end TokenIndex.Writer
