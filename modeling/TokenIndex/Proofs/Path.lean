import TokenIndex.Files
import TokenIndex.Proofs.Basic
import Mathlib.Tactic.SplitIfs

namespace TokenIndex

/-- There is a stretch of at least this length without a slash. -/
def Text.Unbroken (t : Text) (n : Nat) : Prop :=
  ∃ u, u <:+: t ∧ ('/' : CodePoint) ∉ u ∧ n ≤ u.length

theorem Text.Unbroken.mono {s t : Text} {n : Nat} (h : s.Unbroken n) (hs : s <:+: t) :
    t.Unbroken n := by
  obtain ⟨u, hu, hslash⟩ := h
  exact ⟨u, hu.trans hs, hslash⟩

namespace Text

section SplitOn

variable {sep : CodePoint} {t u : Text}

theorem exists_splitOn_of_prefix (hu : u <+: t) (h : sep ∉ u) :
    ∃ part parts, splitOn sep t = part :: parts ∧ u <+: part := by
  induction t generalizing u with
  | nil => exact ⟨[], [], rfl, hu⟩
  | cons c t ih =>
    cases u with
    | nil =>
      obtain ⟨part, parts, hsplit, -⟩ := ih List.nil_prefix h
      rw [splitOn, hsplit]
      split_ifs
      · exact ⟨_, _, rfl, List.nil_prefix⟩
      · exact ⟨_, _, rfl, List.nil_prefix⟩
    | cons d u =>
      obtain ⟨rfl, hrest⟩ := List.cons_prefix_cons.1 hu
      rw [List.mem_cons, not_or] at h
      obtain ⟨part, parts, hsplit, hpart⟩ := ih hrest h.2
      rw [splitOn, if_neg (Ne.symm h.1), hsplit]
      exact ⟨_, _, rfl, List.cons_prefix_cons.2 ⟨rfl, hpart⟩⟩

theorem exists_mem_splitOn_of_infix (hu : u <:+: t) (h : sep ∉ u) :
    ∃ part ∈ splitOn sep t, u <:+: part := by
  induction t with
  | nil => exact ⟨[], List.mem_singleton.2 rfl, hu⟩
  | cons c t ih =>
    obtain hu | hu := List.infix_cons_iff.1 hu
    · obtain ⟨part, parts, hsplit, hpart⟩ := exists_splitOn_of_prefix hu h
      exact ⟨part, hsplit ▸ List.mem_cons_self, hpart.isInfix⟩
    · obtain ⟨part, hmem, hpart⟩ := ih hu
      rw [splitOn]
      split_ifs
      · exact ⟨part, List.mem_cons_of_mem _ hmem, hpart⟩
      · cases hsplit : splitOn sep t with
        | nil =>
          rw [hsplit] at hmem
          cases hmem
        | cons first parts =>
          rw [hsplit] at hmem
          obtain rfl | hmem := List.mem_cons.1 hmem
          · exact ⟨c :: part, List.mem_cons_self, hpart.trans (List.suffix_cons c part).isInfix⟩
          · exact ⟨part, List.mem_cons_of_mem _ hmem, hpart⟩

end SplitOn

theorem length_le_join (sep : Text) {t : Text} {ts : List Text} (h : t ∈ ts) :
    t.length ≤ (join sep ts).length := by
  induction ts with
  | nil => cases h
  | cons u ts ih =>
    cases ts with
    | nil => exact Nat.le_of_eq (congrArg List.length (List.mem_singleton.1 h))
    | cons v ts =>
      have hjoin : join sep (u :: v :: ts) = u ++ sep ++ join sep (v :: ts) := rfl
      rw [hjoin, List.length_append, List.length_append]
      obtain rfl | h := List.mem_cons.1 h
      · omega
      · have hrest := ih h
        omega

end Text

namespace Path

theorem one_le_nameWidth {c : CodePoint} {n : Nat} (h : nameWidth? c = some n) : 1 ≤ n := by
  rw [nameWidth?] at h
  split_ifs at h
  · cases h
    exact Nat.le_refl 1
  · cases h
    rw [Utf8.encodeOne]
    split_ifs <;> simp

theorem length_le_byteLength {t : Text} {n : Nat} (h : byteLength? t = some n) : t.length ≤ n := by
  obtain ⟨widths, hwidths, rfl⟩ := Option.map_eq_some_iff.1 h
  clear h
  induction t generalizing widths with
  | nil => exact Nat.zero_le _
  | cons c t ih =>
    rw [List.mapM_cons] at hwidths
    obtain ⟨width, hwidth, hrest⟩ := Option.bind_eq_some_iff.1 hwidths
    obtain ⟨others, hothers, hcons⟩ := Option.bind_eq_some_iff.1 hrest
    cases hcons
    have hone := one_le_nameWidth hwidth
    have hlength := ih others hothers
    rw [List.length_cons, List.foldr_cons]
    omega

theorem length_le_toText {p : Path} {part : Text} (h : part ∈ p.parts) :
    part.length ≤ p.toText.length := by
  have hbody := Text.length_le_join "/" h
  have hne : p.parts ≠ [] := List.ne_nil_of_mem h
  rw [toText]
  cases p.anchor with
  | relative =>
    dsimp only
    rw [if_neg hne]
    exact hbody
  | _ =>
    dsimp only
    rw [List.length_append]
    omega

theorem unbroken_ofText {t : Text} {n : Nat} (h : t.Unbroken n) :
    n ≤ 1 ∨ n ≤ (ofText t).toText.length := by
  obtain ⟨u, hu, hslash, hn⟩ := h
  obtain ⟨part, hpart, hu⟩ := Text.exists_mem_splitOn_of_infix hu hslash
  have hlength := hu.length_le
  by_cases hdropped : part = [] ∨ part = "."
  · left
    obtain rfl | rfl := hdropped
    · exact Nat.le_trans (Nat.le_trans hn hlength) (by decide)
    · exact Nat.le_trans (Nat.le_trans hn hlength) (by decide)
  · have hmem : part ∈ (ofText t).parts :=
      List.mem_filter.2 ⟨hpart, decide_eq_true (not_or.1 hdropped)⟩
    have htext := length_le_toText hmem
    omega

theorem exists_ofText_cons {c : CodePoint} (hslash : c ≠ '/') (hdot : c ≠ '.') (t : Text) :
    ∃ part parts, ofText (c :: t) = ⟨.relative, (c :: part) :: parts⟩ := by
  have hanchor : (c :: t).takeWhile (· = ('/' : CodePoint)) = [] := by
    rw [List.takeWhile_cons, decide_eq_false hslash, if_neg Bool.false_ne_true]
  have hkept (part : Text) : c :: part ≠ [] ∧ c :: part ≠ "." :=
    ⟨List.cons_ne_nil _ _, fun heq => hdot (List.cons.inj heq).1⟩
  obtain ⟨part, parts, hsplit, -⟩ :=
    @Text.exists_splitOn_of_prefix '/' t [] List.nil_prefix List.not_mem_nil
  refine ⟨part, parts.filter fun p => p ≠ [] ∧ p ≠ ".", ?_⟩
  rw [ofText, hanchor, Text.splitOn, if_neg hslash, hsplit]
  dsimp only
  rw [List.filter_cons, if_pos (decide_eq_true (hkept part))]
  rfl

theorem exists_toText_cons (c : CodePoint) (part : Text) (parts : List Text) :
    ∃ rest, toText ⟨.relative, (c :: part) :: parts⟩ = c :: rest := by
  cases parts with
  | nil => exact ⟨part, rfl⟩
  | cons next parts => exact ⟨part ++ "/" ++ Text.join "/" (next :: parts), rfl⟩

/-- The same path in a text that begins with a slash or with a dot. -/
def led (t : Text) : Text := if t.head? = some '/' then t else "./" ++ t

theorem led_cases (t : Text) : (∃ r, led t = ('/' : CodePoint) :: r) ∨ led t = "./" ++ t := by
  rw [led]
  split_ifs with h
  · obtain ⟨r, rfl⟩ := List.head?_eq_some_iff.1 h
    exact .inl ⟨r, rfl⟩
  · exact .inr rfl

theorem ofText_led (t : Text) : ofText (led t) = ofText t := by
  rw [led]
  split_ifs with h
  · rfl
  · have hanchor : t.takeWhile (· = ('/' : CodePoint)) = [] := by
      cases t with
      | nil => rfl
      | cons c t =>
        have hc : c ≠ '/' := fun heq => h (congrArg some heq)
        rw [List.takeWhile_cons, decide_eq_false hc, if_neg Bool.false_ne_true]
    have hdot : ('/' : CodePoint) ∉ Text.ofString "." := by decide
    have hsplit : Text.splitOn '/' ("./" ++ t) = Text.ofString "." :: Text.splitOn '/' t :=
      Text.splitOn_append hdot t
    rw [ofText, ofText, hanchor, hsplit]
    rfl

end Path

/-- What is at the path of a text can only be there if no part of the text is too long. -/
theorem Files.unbroken_le {fs : Files} {t : Text} {node : Node} {n : Nat}
    (h : fs.status (.ofText t) = .ok (some node)) (hn : t.Unbroken n) : n ≤ longestPath := by
  have hshort : (Path.ofText t).toText.length ≤ longestPath := by
    rw [status, resolve] at h
    cases hbytes : Path.byteLength? (Path.ofText t).toText with
    | none =>
      rw [hbytes] at h
      cases h
    | some m =>
      rw [hbytes] at h
      dsimp only at h
      split_ifs at h with hlong
      have hlength := Path.length_le_byteLength hbytes
      omega
  obtain hone | hlength := Path.unbroken_ofText hn
  · exact Nat.le_trans hone (by decide)
  · exact Nat.le_trans hlength hshort

end TokenIndex
