import TokenIndex.Proofs.Literal.Document
import TokenIndex.Proofs.Text.LineEnds

namespace TokenIndex

namespace Text

theorem exists_cons_of_normalizeLineEnds {t b : Text} {c : CodePoint} (hc : c ≠ '\n')
    (h : normalizeLineEnds t = c :: b) : ∃ r, t = c :: r ∧ normalizeLineEnds r = b := by
  obtain ⟨s, r, rfl, hs, hr⟩ := exists_append_of_normalizeLineEnds (a := [c]) h
  rw [eq_of_normalizeLineEnds hs (by simpa using hc.symm)]
  exact ⟨r, rfl, hr⟩

end Text

namespace Literal.Grammar

open Text (normalizeLineEnds exists_append_of_normalizeLineEnds exists_cons_of_normalizeLineEnds
  eq_of_normalizeLineEnds)

variable {t u : Text}

theorem Blanks.of_normalizeLineEnds (h : Blanks u) (hu : normalizeLineEnds t = u) : Blanks t := by
  intro c hc
  obtain rfl | hc := Text.mem_or_eq_return hc
  · decide
  · exact h c (hu ▸ hc)

theorem Number.lineFeed_not_mem {i : Int} (h : Number t i) : ('\n' : CodePoint) ∉ t := by
  have hdigits {s : Text} {values : List Nat} (hs : Digits s values) : ('\n' : CodePoint) ∉ s :=
    fun hmem => absurd (hs.isDigit _ hmem) (by decide)
  cases h with
  | plain _ _ hs => exact hdigits hs
  | negative _ _ hs =>
    rw [List.mem_cons, not_or]
    exact ⟨by decide, hdigits hs⟩

theorem Escape.of_normalizeLineEnds {m : Text} (h : Escape u m) (hu : normalizeLineEnds t = u) :
    Escape t m := by
  have hreturn : ('\r' : CodePoint) ∉ u := hu ▸ Text.return_not_mem_normalizeLineEnds t
  have hkept (hfeed : ('\n' : CodePoint) ∉ u) : Escape t m := by
    rwa [eq_of_normalizeLineEnds hu hfeed]
  have hhex {c : CodePoint} {s : Text} {values : List Nat} (hc : c ≠ '\n')
      (hs : s.map Text.hexDigit? = values.map some) : ('\n' : CodePoint) ∉ c :: s := by
    rw [List.mem_cons, not_or]
    exact ⟨hc.symm, not_mem_of_hexDigits hs rfl⟩
  cases h with
  | unicode _ hs => exact hkept (hhex (by decide) hs)
  | byte _ hs => exact hkept (hhex (by decide) hs)
  | lineFeed =>
    obtain rfl | rfl | rfl := Text.normalizeLineEnds_eq_lineFeed hu
    · exact .lineFeed
    · exact .carriageReturn
    · exact .both
  | carriageReturn | both => exact absurd List.mem_cons_self hreturn
  | character _ _ hfeed _ => exact hkept (by simpa using hfeed.symm)

theorem Characters.of_normalizeLineEnds {q : CodePoint} {v : Text} (h : Characters q u v)
    (hu : normalizeLineEnds t = u) : Characters q t v := by
  induction h generalizing t with
  | nil =>
    rw [eq_of_normalizeLineEnds hu List.not_mem_nil]
    exact .nil
  | plain hq hb hfeed _ ih =>
    obtain ⟨r, rfl, hr⟩ := exists_cons_of_normalizeLineEnds hfeed hu
    exact .plain hq hb hfeed (ih hr)
  | escape he _ ih =>
    obtain ⟨r, rfl, hr⟩ := exists_cons_of_normalizeLineEnds (by decide) hu
    obtain ⟨e, r, rfl, hes, hr⟩ := exists_append_of_normalizeLineEnds hr
    exact .escape (he.of_normalizeLineEnds hes) (ih hr)

theorem Scalar.of_normalizeLineEnds {v : Value} (h : Scalar u v) (hu : normalizeLineEnds t = u) :
    Scalar t v := by
  have hkept (hfeed : ('\n' : CodePoint) ∉ u) : Scalar t v := by
    rwa [eq_of_normalizeLineEnds hu hfeed]
  cases h with
  | @string q s _ hq hs =>
    have hfeed : q ≠ '\n' := by rcases hq with rfl | rfl <;> decide
    obtain ⟨r, rfl, hr⟩ := exists_cons_of_normalizeLineEnds hfeed hu
    obtain ⟨s, z, rfl, hs', hz⟩ := exists_append_of_normalizeLineEnds hr
    rw [eq_of_normalizeLineEnds hz (by simpa using hfeed.symm)]
    exact .string hq (hs.of_normalizeLineEnds hs')
  | number hn => exact hkept hn.lineFeed_not_mem
  | yes | no | null => exact hkept (by decide)

mutual

theorem Item.of_normalizeLineEnds {t u : Text} {v : Value} (h : Item u v)
    (hu : normalizeLineEnds t = u) : Item t v := by
  cases h with
  | scalar h => exact .scalar (h.of_normalizeLineEnds hu)
  | array h =>
    obtain ⟨r, rfl, hr⟩ := exists_cons_of_normalizeLineEnds (by decide) hu
    obtain ⟨s, z, rfl, hs, hz⟩ := exists_append_of_normalizeLineEnds hr
    rw [eq_of_normalizeLineEnds hz (by decide)]
    exact .array (h.of_normalizeLineEnds hs)

theorem Elements.of_normalizeLineEnds {t u : Text} {vs : List Value} (h : Elements u vs)
    (hu : normalizeLineEnds t = u) : Elements t vs := by
  cases h with
  | none hw => exact .none (hw.of_normalizeLineEnds hu)
  | last hw hx hz =>
    obtain ⟨_, z, rfl, hwx, hz'⟩ := exists_append_of_normalizeLineEnds hu
    obtain ⟨w, x, rfl, hw', hx'⟩ := exists_append_of_normalizeLineEnds hwx
    exact .last (hw.of_normalizeLineEnds hw') (hx.of_normalizeLineEnds hx')
      (hz.of_normalizeLineEnds hz')
  | more hw hx hz hr =>
    obtain ⟨_, _, rfl, hwxz, hcomma⟩ := exists_append_of_normalizeLineEnds hu
    obtain ⟨r, rfl, hr'⟩ := exists_cons_of_normalizeLineEnds (by decide) hcomma
    obtain ⟨_, z, rfl, hwx, hz'⟩ := exists_append_of_normalizeLineEnds hwxz
    obtain ⟨w, x, rfl, hw', hx'⟩ := exists_append_of_normalizeLineEnds hwx
    exact .more (hw.of_normalizeLineEnds hw') (hx.of_normalizeLineEnds hx')
      (hz.of_normalizeLineEnds hz') (hr.of_normalizeLineEnds hr')

end

theorem Assignment.of_normalizeLineEnds (h : Assignment u) (hu : normalizeLineEnds t = u) :
    Assignment t := by
  obtain @⟨w, x, n, y, z, c, hw, hx, hne, hc, hn, hy, hz⟩ := h
  have hname : ('\n' : CodePoint) ∉ c :: n := by
    rw [List.mem_cons, not_or]
    refine ⟨?_, fun hmem => absurd (hn _ hmem) (by decide +kernel)⟩
    rintro rfl
    exact absurd hc (by decide)
  obtain ⟨_, _, rfl, hfront, hsign⟩ := exists_append_of_normalizeLineEnds hu
  obtain ⟨z, rfl, hz'⟩ := exists_cons_of_normalizeLineEnds (by decide) hsign
  obtain ⟨_, y, rfl, hnamed, hy'⟩ := exists_append_of_normalizeLineEnds hfront
  obtain ⟨_, _, rfl, hlead, hname'⟩ := exists_append_of_normalizeLineEnds hnamed
  obtain ⟨_, x, rfl, hword, hx'⟩ := exists_append_of_normalizeLineEnds hlead
  obtain ⟨w, _, rfl, hw', hvar⟩ := exists_append_of_normalizeLineEnds hword
  rw [eq_of_normalizeLineEnds hname' hname, eq_of_normalizeLineEnds hvar (by decide)]
  refine .mk (hw.of_normalizeLineEnds hw') (hx.of_normalizeLineEnds hx') ?_ hc hn
    (hy.of_normalizeLineEnds hy') (hz.of_normalizeLineEnds hz')
  rintro rfl
  exact hne hx'.symm

theorem Document.of_normalizeLineEnds {vs : List Value} (h : Document u vs)
    (hu : normalizeLineEnds t = u) : Document t vs := by
  obtain @⟨a, w, s, z, e, _, ha, hw, hs, hz, he⟩ := h
  obtain ⟨_, e', rfl, hfront, he'⟩ := exists_append_of_normalizeLineEnds hu
  obtain ⟨_, _, rfl, hitems, hclose⟩ := exists_append_of_normalizeLineEnds hfront
  obtain ⟨z', rfl, hz'⟩ := exists_cons_of_normalizeLineEnds (by decide) hclose
  obtain ⟨_, _, rfl, hlead, hopen⟩ := exists_append_of_normalizeLineEnds hitems
  obtain ⟨s', rfl, hs'⟩ := exists_cons_of_normalizeLineEnds (by decide) hopen
  obtain ⟨a', w', rfl, ha', hw'⟩ := exists_append_of_normalizeLineEnds hlead
  refine .mk ?_ (hw.of_normalizeLineEnds hw') (hs.of_normalizeLineEnds hs')
    (hz.of_normalizeLineEnds hz') ?_
  · obtain rfl | ha := ha
    · exact .inl (eq_of_normalizeLineEnds ha' List.not_mem_nil)
    · exact .inr (ha.of_normalizeLineEnds ha')
  · obtain rfl | ⟨x, hx, rfl⟩ := he
    · exact .inl (eq_of_normalizeLineEnds he' List.not_mem_nil)
    · obtain ⟨x', rfl, hx'⟩ := exists_cons_of_normalizeLineEnds (by decide) he'
      exact .inr ⟨x', hx.of_normalizeLineEnds hx', rfl⟩

end Literal.Grammar

/-- A text that is read with its line ends normalised is read the same as it is. -/
theorem Literal.parse_of_normalizeLineEnds {t : Text} {vs : List Value}
    (h : parse t.normalizeLineEnds = .ok vs) : parse t = .ok vs := by
  rw [parse_eq_ok_iff_document, document_eq_ok_iff] at h ⊢
  exact h.of_normalizeLineEnds rfl

end TokenIndex
