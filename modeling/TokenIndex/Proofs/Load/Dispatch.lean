import TokenIndex.Proofs.Literal.Offset
import TokenIndex.Proofs.Load.Path

namespace TokenIndex

open Literal.Grammar (Blanks)

namespace Source

variable {t : Text}

/-- A load of the text depends on more than the text: with some files it does not end as the reading
of the text does. -/
def Consults (t : Text) : Prop :=
  ∃ fs category, load fs (.text t) category ≠ loadText textName t

theorem load_of_opens (h : Opens t) (fs : Files) (category : Text) :
    load fs (.text t) category = loadText textName t := by
  rw [load, if_pos (isData_iff.2 h)]

theorem load_of_not_opens (h : ¬Opens t) (fs : Files) (category : Text) :
    load fs (.text t) category = loadPath fs (.ofText t) category := by
  rw [load, if_neg (mt isData_iff.1 h)]

theorem parse_of_not_opens {w r : Text} (hw : Blanks w) (hr : Text.Ends CodePoint.isBlank r)
    (h : ¬Opens (w ++ r)) :
    Literal.parse (w ++ r) = .error (.defect .expectedBracket w.length) := by
  have hnone : Literal.afterAssignment? (w ++ r) = none := by
    cases ha : Literal.afterAssignment? (w ++ r) with
    | none => rfl
    | some rest =>
      obtain ⟨a, heq, has⟩ := Literal.afterAssignment?_sound ha
      rw [heq] at h
      exact absurd (.assignment has) h
  refine Literal.parse_eq_defect_iff.2 ⟨r.length, ?_, by simp⟩
  rw [Literal.document, hnone, Option.getD_none, Literal.dropBlank_blanks hw hr]
  cases r with
  | nil => rfl
  | cons c r =>
    have hc : c ≠ '[' := by
      rintro rfl
      exact h (.bracket hw)
    exact if_neg hc

theorem exists_parse_of_not_opens (h : ¬Opens t) :
    ∃ w r, t = w ++ r ∧ Blanks w ∧
      Literal.parse t = .error (.defect .expectedBracket w.length) := by
  obtain ⟨w, r, rfl, hw, hr⟩ := Literal.exists_blanks_ends t
  exact ⟨w, r, rfl, hw, parse_of_not_opens hw hr h⟩

theorem loadPath_empty_ne (p : Path) (category name : Text) (cause : Literal.Cause) (offset : Nat) :
    loadPath (.empty []) p category ≠ .error (.malformed name (.literal cause offset)) := by
  have hnode (place : Place) (bytes : Bytes) :
      Files.node? (.empty []) place ≠ some (.file bytes) := by
    rw [Files.node?]
    split_ifs <;> rintro ⟨⟩
  have hlisting : Files.listing (.empty []) p = [] := by
    rw [Files.listing]
    split <;> rfl
  rw [loadPath]
  cases hstatus : Files.status (.empty []) p with
  | error path => rintro ⟨⟩
  | ok node =>
    rcases node with _ | bytes | _
    · dsimp only
      rw [loadFile, hstatus]
      rintro ⟨⟩
    · rw [Files.status] at hstatus
      split at hstatus
      · exact absurd (Except.ok.inj hstatus) (hnode _ bytes)
      · cases hstatus
      · cases hstatus
    · have hfiles : Load.dataFiles (.empty []) p category = [] := by
        rw [Load.dataFiles, hlisting, DataFile.inOrder, List.filterMap_nil, List.mergeSort_nil]
        rfl
      dsimp only
      rw [loadDirectory, hstatus]
      dsimp only
      rw [hfiles]
      rintro ⟨⟩

theorem consults_iff : Consults t ↔ ¬Opens t := by
  constructor
  · rintro ⟨fs, category, hne⟩ hopens
    exact hne (load_of_opens hopens fs category)
  · intro h
    obtain ⟨w, r, -, -, hparse⟩ := exists_parse_of_not_opens h
    refine ⟨.empty [], [], ?_⟩
    rw [load_of_not_opens h, loadText, Load.parse, hparse]
    exact loadPath_empty_ne _ _ _ _ _

theorem opens_of_bracket {cause : Literal.Cause} {offset : Nat}
    (h : Literal.parse t = .error (.defect cause offset))
    (hmem : ('[' : CodePoint) ∈ t.take offset) : Opens t := by
  by_contra hopens
  obtain ⟨w, r, rfl, hw, hparse⟩ := exists_parse_of_not_opens hopens
  cases h.symm.trans hparse
  rw [List.take_left] at hmem
  exact absurd (hw _ hmem) (by decide)

end Source

open Source (Opens Consults)

/-- Only a text that the reader of search data refuses for its opening bracket is looked for among
the files. So a text that it reads, one that it refuses behind a bracket, and one with a number too
long in it load as search data with all files alike, also with one that the text is the path of. -/
theorem consults_iff_not_opens (t : Text) :
    (Consults t ↔ ¬Opens t) ∧
    (Consults t → (∃ offset, Literal.parse t = .error (.defect .expectedBracket offset)) ∧
      ∀ fs category, load fs (.text t) category = loadPath fs (.ofText t) category) ∧
    (∀ vs, Literal.parse t = .ok vs →
      ∀ fs category, load fs (.text t) category = loadText Source.textName t) ∧
    (∀ cause offset, Literal.parse t = .error (.defect cause offset) →
      ('[' : CodePoint) ∈ t.take offset →
        ∀ fs category, load fs (.text t) category = loadText Source.textName t) ∧
    (∀ e, Literal.parse t = .error (.tooManyDigits e) →
      ∀ fs category, load fs (.text t) category = loadText Source.textName t) := by
  have hrefused (h : ¬Opens t) :
      ∃ offset, Literal.parse t = .error (.defect .expectedBracket offset) := by
    obtain ⟨w, -, -, -, hparse⟩ := Source.exists_parse_of_not_opens h
    exact ⟨w.length, hparse⟩
  -- what else the reader says of a text is not said of one that begins unlike search data
  have hopens (h : ∀ offset, Literal.parse t ≠ .error (.defect .expectedBracket offset)) :
      Opens t := by
    by_contra hnot
    obtain ⟨offset, hparse⟩ := hrefused hnot
    exact h offset hparse
  refine ⟨Source.consults_iff, ?_, ?_, ?_, ?_⟩
  · intro h
    have hnot := Source.consults_iff.1 h
    exact ⟨hrefused hnot, Source.load_of_not_opens hnot⟩
  · intro vs hparse
    exact Source.load_of_opens (hopens (by rw [hparse]; exact nofun))
  · intro cause offset hparse hmem
    exact Source.load_of_opens (Source.opens_of_bracket hparse hmem)
  · intro e hparse
    exact Source.load_of_opens (hopens (by rw [hparse]; exact nofun))

theorem consults_iff_not_opens_bracket :
    bracketFiles.status (.ofText "[].js") = .ok (some (.file [0x5B, 0x5D])) ∧
    Literal.parse "[].js" = .error (.defect .trailingData 2) ∧
    load bracketFiles (.text "[].js") "all" = loadText Source.textName "[].js" := by
  have hparse : Literal.parse "[].js" = .error (.defect .trailingData 2) := by cbv
  obtain ⟨-, -, -, hbehind, -⟩ := consults_iff_not_opens "[].js"
  exact ⟨rfl, hparse, hbehind _ _ hparse (by decide) bracketFiles "all"⟩

end TokenIndex
