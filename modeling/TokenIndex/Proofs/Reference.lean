import TokenIndex.Reference.Resolve
import TokenIndex.Proofs.Basic
import Mathlib.Tactic.SplitIfs

namespace TokenIndex.Reference

def escapeOne (c : CodePoint) : Text :=
  if c = '&' then "&amp;"
  else if c = '<' then "&lt;"
  else if c = '>' then "&gt;"
  else if c = '"' then "&quot;"
  else if c = '\'' then "&#39;"
  else [c]

def escape (t : Text) : Text := t.flatMap escapeOne

theorem ofString_eq_iff {s t : String} : Text.ofString s = Text.ofString t ↔ s = t := by
  constructor
  · intro h
    have hinj (a b : Char) : CodePoint.ofChar a = CodePoint.ofChar b → a = b :=
      CodePoint.ofChar_inj.1
    exact String.toList_inj.1 ((List.map_inj_right hinj).1 h)
  · exact congrArg Text.ofString

theorem lookup_ofString (pairs : List (String × List Nat)) (name : String) :
    (pairs.map fun (name, text) => (Text.ofString name, text.map CodePoint.ofNat)).lookup
      (Text.ofString name) = (pairs.lookup name).map (·.map CodePoint.ofNat) := by
  induction pairs with
  | nil => rfl
  | cons p pairs ih =>
    rw [List.map_cons, List.lookup_cons, List.lookup_cons]
    by_cases h : name = p.1
    · rw [h, beq_self_eq_true, beq_self_eq_true]
      rfl
    · rw [beq_false_of_ne h, beq_false_of_ne (mt ofString_eq_iff.1 h)]
      exact ih

/-- The names that a writer uses, and the characters that they stand for. -/
def writtenNames : List (String × Nat) :=
  [("amp;", 0x26), ("lt;", 0x3C), ("gt;", 0x3E), ("quot;", 0x22)]

theorem allNames_lookup : ∀ p ∈ writtenNames, allNames.flatten.lookup p.1 = some [p.2] := by
  decide +kernel

theorem named_lookup {name : String} {n : Nat} (h : (name, n) ∈ writtenNames) :
    named.lookup (Text.ofString name) = some [CodePoint.ofNat n] := by
  rw [named, lookup_ofString, allNames_lookup _ h]
  rfl

section

variable {name meaning : Text}

theorem longest_of_lookup (h : named.lookup name = some meaning) (hl : 2 ≤ name.length) :
    nameText name = meaning := by
  obtain ⟨k, hk⟩ : ∃ k, name.length = k + 2 := ⟨name.length - 2, by omega⟩
  have hall : name.take (k + 2) = name := by rw [← hk, List.take_length]
  rw [nameText, hk]
  unfold longest
  split
  · omega
  · omega
  · rename_i size _ hsize
    have hsize : size + 1 = k + 2 := hsize.symm
    rw [hsize, hall, h, ← hk, List.drop_length]
    exact List.append_nil meaning

/-- A name with its semicolon is read whole and no further, whatever follows. -/
theorem reference?_name (hp : ∀ c ∈ name, isNamePart c = true) (hne : name ≠ [])
    (hl : name.length < 32) (h : named.lookup (name ++ [(';' : CodePoint)]) = some meaning)
    (rest : Text) :
    reference? (name ++ (';' : CodePoint) :: rest) = some (.ok meaning, rest) := by
  have hmeaning : nameText (name ++ [(';' : CodePoint)]) = meaning := by
    apply longest_of_lookup h
    have := List.length_pos_iff.2 hne
    simp
    omega
  -- 32 characters are looked at, the semicolon among them
  have hname : ((name ++ (';' : CodePoint) :: rest).take 32).takeWhile isNamePart = name := by
    obtain ⟨k, hk⟩ : ∃ k, 32 - name.length = k + 1 := ⟨31 - name.length, by omega⟩
    rw [List.take_append, List.take_of_length_le (Nat.le_of_lt hl), hk, List.take_succ_cons]
    exact Text.takeWhile_run hp (Text.ends_cons.2 (by decide))
  cases name with
  | nil => exact absurd rfl hne
  | cons c name =>
    have hc : c ≠ '#' := by
      rintro rfl
      exact absurd (hp _ List.mem_cons_self) (by decide)
    rw [List.cons_append] at hname
    rw [List.cons_append, reference?, if_neg hc, hname]
    dsimp only
    rw [← List.cons_append, List.drop_left, semicolon, if_pos rfl]
    dsimp only
    rw [hmeaning]
    rfl

end

theorem resolve_cons {c : CodePoint} (h : c ≠ '&') (rest : Text) :
    resolve (c :: rest) = (resolve rest).map (c :: ·) := by
  rw [resolve, if_neg h]

theorem resolve_reference {s meaning rest : Text}
    (h : reference? s = some (.ok meaning, rest)) :
    resolve (('&' : CodePoint) :: s) = (resolve rest).map (meaning ++ ·) := by
  rw [resolve, if_pos rfl]
  split
  · rename_i heq
    rw [h] at heq
    cases heq
  · rename_i heq
    rw [h] at heq
    cases heq
  · rename_i heq
    rw [h] at heq
    cases heq
    rfl

theorem resolve_writtenName {name : Text} {n : Nat} {written : String}
    (hw : (written, n) ∈ writtenNames) (he : Text.ofString written = name ++ [(';' : CodePoint)])
    (hp : name.all isNamePart = true) (hne : name ≠ []) (hl : name.length < 32) (rest : Text) :
    resolve (('&' : CodePoint) :: (name ++ (';' : CodePoint) :: rest)) =
      (resolve rest).map (CodePoint.ofNat n :: ·) := by
  have hread := reference?_name (List.all_eq_true.1 hp) hne hl (he ▸ named_lookup hw) rest
  exact resolve_reference hread

theorem resolve_escapeOne (c : CodePoint) (rest : Text) :
    resolve (escapeOne c ++ rest) = (resolve rest).map (c :: ·) := by
  unfold escapeOne
  split
  · rename_i hc
    rw [hc]
    exact @resolve_writtenName "amp" 0x26 "amp;" (by decide) rfl
      (by decide) (by decide) (by decide) rest
  split
  · rename_i hc
    rw [hc]
    exact @resolve_writtenName "lt" 0x3C "lt;" (by decide) rfl
      (by decide) (by decide) (by decide) rest
  split
  · rename_i hc
    rw [hc]
    exact @resolve_writtenName "gt" 0x3E "gt;" (by decide) rfl
      (by decide) (by decide) (by decide) rest
  split
  · rename_i hc
    rw [hc]
    exact @resolve_writtenName "quot" 0x22 "quot;" (by decide) rfl
      (by decide) (by decide) (by decide) rest
  split
  · rename_i hc
    rw [hc]
    have hquote : reference? ("#39;" ++ rest) = some (.ok [(39 : CodePoint)], rest) := rfl
    exact resolve_reference hquote
  · rename_i hc _ _ _ _
    exact resolve_cons hc rest

theorem resolve_escape (t : Text) : resolve (escape t) = .ok t := by
  induction t with
  | nil =>
    rw [escape, List.flatMap_nil, resolve]
  | cons c t ih =>
    rw [escape] at ih
    rw [escape, List.flatMap_cons, resolve_escapeOne, ih]
    rfl

theorem escapeOne_ne_nil (c : CodePoint) : escapeOne c ≠ [] := by
  unfold escapeOne
  split_ifs <;> exact List.cons_ne_nil _ _

theorem escape_ne_nil {t : Text} (h : t ≠ []) : escape t ≠ [] := by
  cases t with
  | nil => exact absurd rfl h
  | cons c t =>
    rw [escape, List.flatMap_cons]
    exact List.append_ne_nil_of_left_ne_nil (escapeOne_ne_nil c) _

theorem hasSurrogate_escape {t : Text} (h : t.hasSurrogate = false) :
    (escape t).hasSurrogate = false := by
  apply Text.hasSurrogate_flatMap _ h
  intro c hc
  unfold escapeOne
  split_ifs
  · decide
  · decide
  · decide
  · decide
  · decide
  · rw [Text.hasSurrogate_singleton, hc]

end TokenIndex.Reference
