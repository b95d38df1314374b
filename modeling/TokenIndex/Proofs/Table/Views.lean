import TokenIndex.Proofs.Table
import Mathlib.Data.List.Induction
import Mathlib.Tactic.SplitIfs

namespace TokenIndex

/-- The last of the rows with this token has these entries. -/
def Last (given : List Row) (token : Text) (entries : List Entry) : Prop :=
  ∃ before after, given = before ++ (token, entries) :: after ∧ token ∉ after.map (·.1)

theorem last_append_iff {given : List Row} {row : Row} {token : Text} {entries : List Entry} :
    Last (given ++ [row]) token entries ↔
      (token, entries) = row ∨ token ≠ row.1 ∧ Last given token entries := by
  constructor
  · rintro ⟨before, after, hgiven, hafter⟩
    rcases List.eq_nil_or_concat after with rfl | ⟨after, r, rfl⟩
    · exact .inl (List.append_singleton_inj.1 hgiven).2.symm
    · rw [List.concat_eq_append] at hgiven hafter
      rw [← List.cons_append, ← List.append_assoc] at hgiven
      obtain ⟨hbefore, rfl⟩ := List.append_singleton_inj.1 hgiven
      rw [List.map_append, List.mem_append, not_or] at hafter
      exact .inr ⟨by simpa using hafter.2, before, after, hbefore, hafter.1⟩
  · rintro (rfl | ⟨hne, before, after, rfl, hafter⟩)
    · exact ⟨given, [], rfl, List.not_mem_nil⟩
    · refine ⟨before, after ++ [row], by simp, ?_⟩
      rw [List.map_append, List.mem_append, not_or]
      exact ⟨hafter, by simpa using hne⟩

theorem not_last_nil {token : Text} {entries : List Entry} : ¬Last [] token entries := by
  rintro ⟨before, after, h, -⟩
  exact List.append_ne_nil_of_right_ne_nil before (List.cons_ne_nil _ _) h.symm

theorem exists_last_iff {given : List Row} {token : Text} :
    (∃ entries, Last given token entries) ↔ token ∈ given.map (·.1) := by
  induction given using List.reverseRecOn with
  | nil => simp [not_last_nil]
  | append_singleton given row ih =>
    rw [List.map_append, List.mem_append, ← ih]
    by_cases h : token = row.1
    · subst h
      exact iff_of_true ⟨row.2, last_append_iff.2 (.inl rfl)⟩ (.inr List.mem_cons_self)
    · have hrow (entries : List Entry) : (token, entries) ≠ row := fun heq => h (by rw [← heq])
      simp [last_append_iff, h, hrow]

theorem mem_insertRow_iff {row r : Row} {rows : List Row} (h : rows.Pairwise (·.1 < ·.1)) :
    r ∈ insertRow row rows ↔ r = row ∨ r.1 ≠ row.1 ∧ r ∈ rows := by
  induction rows with
  | nil => simp [insertRow]
  | cons s rows ih =>
    rw [List.pairwise_cons] at h
    have hbehind : s.1 = row.1 → ∀ r ∈ rows, r.1 ≠ row.1 := by
      intro hs r hr heq
      exact List.lt_irrefl _ (hs.trans heq.symm ▸ h.1 r hr)
    have hbefore : row.1 < s.1 → ∀ r ∈ s :: rows, r.1 ≠ row.1 := by
      intro hlt
      refine List.forall_mem_cons.2 ⟨?_, fun r hr => ?_⟩
      · rintro heq
        exact List.lt_irrefl _ (heq ▸ hlt)
      · intro heq
        exact List.lt_asymm hlt (heq ▸ h.1 r hr)
    rw [insertRow]
    split_ifs with hlt heq
    · rw [List.mem_cons]
      exact or_congr_right ⟨fun hr => ⟨hbefore hlt r hr, hr⟩, And.right⟩
    · rw [List.mem_cons, List.mem_cons]
      refine or_congr_right ⟨fun hr => ⟨hbehind heq.symm r hr, .inr hr⟩, ?_⟩
      rintro ⟨hne, rfl | hr⟩
      · exact absurd heq.symm hne
      · exact hr
    · rw [List.mem_cons, ih h.2, List.mem_cons]
      constructor
      · rintro (rfl | rfl | ⟨hne, hr⟩)
        · exact .inr ⟨Ne.symm heq, .inl rfl⟩
        · exact .inl rfl
        · exact .inr ⟨hne, .inr hr⟩
      · rintro (rfl | ⟨hne, rfl | hr⟩)
        · exact .inr (.inl rfl)
        · exact .inl rfl
        · exact .inr (.inr ⟨hne, hr⟩)

theorem sortRows_append (given : List Row) (row : Row) :
    sortRows (given ++ [row]) = insertRow row (sortRows given) :=
  List.foldl_append

theorem mem_sortRows_iff {given : List Row} {token : Text} {entries : List Entry} :
    (token, entries) ∈ sortRows given ↔ Last given token entries := by
  induction given using List.reverseRecOn with
  | nil => exact iff_of_false List.not_mem_nil not_last_nil
  | append_singleton given row ih =>
    rw [sortRows_append, mem_insertRow_iff (sortRows_pairwise given), ih, last_append_iff]

/-- Puts a row where its token stands, or behind all rows. -/
def putRow (rows : List Row) (row : Row) : List Row :=
  if rows.any (·.1 == row.1) then rows.map fun r => if r.1 = row.1 then row else r
  else rows ++ [row]

/-- The rows as they are kept under their tokens: one that comes again keeps its place. -/
def dictionary (given : List Row) : List Row := given.foldl putRow []

theorem dictionary_append (given : List Row) (row : Row) :
    dictionary (given ++ [row]) = putRow (dictionary given) row :=
  List.foldl_append

theorem mem_putRow_iff {row r : Row} {rows : List Row} :
    r ∈ putRow rows row ↔ r = row ∨ r.1 ≠ row.1 ∧ r ∈ rows := by
  have hany : rows.any (·.1 == row.1) = true ↔ ∃ s ∈ rows, s.1 = row.1 := by simp
  rw [putRow]
  split_ifs with h
  · obtain ⟨s, hs, heq⟩ := hany.1 h
    rw [List.mem_map]
    constructor
    · rintro ⟨r, hr, rfl⟩
      split_ifs with hrow
      · exact .inl rfl
      · exact .inr ⟨hrow, hr⟩
    · rintro (rfl | ⟨hne, hr⟩)
      · exact ⟨s, hs, if_pos heq⟩
      · exact ⟨r, hr, if_neg hne⟩
  · have hnew : r ∈ rows → r.1 ≠ row.1 := fun hr heq => h (hany.2 ⟨r, hr, heq⟩)
    rw [List.mem_append, List.mem_singleton]
    tauto

theorem nodup_putRow {row : Row} {rows : List Row} (h : (rows.map (·.1)).Nodup) :
    ((putRow rows row).map (·.1)).Nodup := by
  rw [putRow]
  split_ifs with hany
  · have hsame : (rows.map fun r => if r.1 = row.1 then row else r).map (·.1) = rows.map (·.1) := by
      rw [List.map_map]
      refine List.map_congr_left fun r _ => ?_
      rw [Function.comp_apply]
      split_ifs with hr
      · exact hr.symm
      · rfl
    rwa [hsame]
  · rw [List.map_append]
    refine List.nodup_append'.2 ⟨h, List.nodup_singleton _, ?_⟩
    rw [List.map_singleton, List.disjoint_singleton, List.mem_map]
    rintro ⟨r, hr, heq⟩
    exact hany (List.any_eq_true.2 ⟨r, hr, beq_iff_eq.2 heq⟩)

theorem nodup_dictionary (given : List Row) : ((dictionary given).map (·.1)).Nodup := by
  induction given using List.reverseRecOn with
  | nil => exact List.nodup_nil
  | append_singleton given row ih =>
    rw [dictionary_append]
    exact nodup_putRow ih

theorem mem_dictionary_iff {given : List Row} {token : Text} {entries : List Entry} :
    (token, entries) ∈ dictionary given ↔ Last given token entries := by
  induction given using List.reverseRecOn with
  | nil => exact iff_of_false List.not_mem_nil not_last_nil
  | append_singleton given row ih =>
    rw [dictionary_append, mem_putRow_iff, ih, last_append_iff]

theorem sortRows_perm_dictionary (given : List Row) : (sortRows given).Perm (dictionary given) := by
  have hsorted : (sortRows given).Nodup := by
    refine (sortRows_pairwise given).imp ?_
    rintro r s hlt rfl
    exact List.lt_irrefl _ hlt
  rw [List.perm_ext_iff_of_nodup hsorted (nodup_dictionary given).of_map]
  rintro ⟨token, entries⟩
  rw [mem_sortRows_iff, mem_dictionary_iff]

theorem lookup_eq_of_perm {rows rows' : List Row} (h : rows.Perm rows')
    (hnodup : (rows.map (·.1)).Nodup) (token : Text) : rows.lookup token = rows'.lookup token := by
  induction h with
  | nil => rfl
  | cons r _ ih =>
    rw [List.map_cons, List.nodup_cons] at hnodup
    rw [List.lookup_cons, List.lookup_cons, ih hnodup.2]
  | swap r s rows =>
    simp only [List.map_cons, List.nodup_cons, List.mem_cons, not_or] at hnodup
    rw [List.lookup_cons, List.lookup_cons, List.lookup_cons, List.lookup_cons]
    by_cases hr : token = r.1
    · have hs : (token == s.1) = false := by
        rw [beq_eq_false_iff_ne, hr]
        exact Ne.symm hnodup.1.1
      rw [hs]
    · rw [beq_eq_false_iff_ne.2 hr]
  | trans h _ ih ih' => exact (ih hnodup).trans (ih' ((h.map (·.1)).nodup hnodup))

namespace Table

/-- What is read from a table is what the rows say that it was made from. -/
structure Views (t : Table) (given : List Row) : Prop where
  increasing : t.tokens.Pairwise (· < ·)
  tokens : ∀ token, token ∈ t.tokens ↔ token ∈ given.map (·.1)
  size : t.size = t.tokens.length
  contains : ∀ token, t.contains token = true ↔ token ∈ t.tokens
  filled : ∀ token, t.lookup token ≠ [] ↔ token ∈ t.tokens
  last : ∀ token entries, Last given token entries → t.lookup token = entries
  entryCount : t.entryCount = (t.tokens.map fun token => (t.lookup token).length).sum
  value : t.toValue = .object (t.tokens.map fun token => (token,
    .array ((t.lookup token).map fun e => .object [("label", .text e.label),
      ("locator", .text e.locator), ("scope", .text e.scope),
      ("parent_frame", .bool e.parentFrame)])))

/-- A table reads as rows that stand in another order. -/
structure Mirrors (t : Table) (rows : List Row) : Prop where
  tokens : t.tokens.Perm (rows.map (·.1))
  size : t.size = rows.length
  contains : ∀ token, t.contains token = rows.any (·.1 == token)
  lookup : ∀ token, t.lookup token = (rows.lookup token).getD []
  entryCount : t.entryCount = (rows.map (·.2.length)).sum

variable {t : Table} {given rows : List Row}

theorem mirrors_of_perm (h : t.rows.Perm rows) : t.Mirrors rows where
  tokens := tokens_perm h
  size := h.length_eq
  contains token := by
    rw [Table.contains, Bool.eq_iff_iff, List.any_eq_true, List.any_eq_true]
    simp only [h.mem_iff]
  lookup token := by rw [Table.lookup, lookup_eq_of_perm h t.nodup_tokens]
  entryCount := entryCount_eq_of_perm h

theorem views_of_mem_iff (h : ∀ token entries, (token, entries) ∈ t.rows ↔ Last given token entries) :
    t.Views given := by
  have hmem (token : Text) : token ∈ t.tokens ↔ ∃ entries, (token, entries) ∈ t.rows := by
    simp [Table.tokens]
  refine ⟨List.pairwise_map.2 t.sorted, ?_, (List.length_map _).symm, ?_, ?_, ?_,
    t.entryCount_eq_sum, ?_⟩
  · intro token
    simp only [hmem, h]
    exact exists_last_iff
  · intro token
    simp [Table.contains, Table.tokens]
  · intro token
    constructor
    · intro hne
      by_contra hnot
      exact hne (lookup_of_not_mem hnot)
    · intro htoken
      obtain ⟨entries, hrow⟩ := (hmem token).1 htoken
      rw [lookup_of_mem hrow]
      exact t.filled _ hrow
  · intro token entries hlast
    exact lookup_of_mem ((h token entries).2 hlast)
  · rw [toValue, rows_eq_map, List.map_map]
    rfl

theorem ofRows_eq_error_iff {source : Text} {e : EmptyTokens} :
    ofRows source given = .error e ↔ (∃ r ∈ sortRows given, r.2 = []) ∧
      e = ⟨((sortRows given).filter (·.2.isEmpty)).map (·.1)⟩ := by
  rw [ofRows]
  split_ifs with hfilled
  · refine iff_of_false (by rintro ⟨⟩) ?_
    rintro ⟨⟨r, hr, hnil⟩, -⟩
    exact hfilled r hr hnil
  · push Not at hfilled
    rw [Except.error.injEq, eq_comm]
    exact (and_iff_right hfilled).symm

theorem rows_of_ofRows {source : Text} (h : ofRows source given = .ok t) :
    t.source = source ∧ t.rows = sortRows given := by
  rw [ofRows] at h
  split_ifs at h
  cases h
  exact ⟨rfl, rfl⟩

/-- Rows make a table unless a token ends up without entries, and then the message lists all such
tokens in order. If they do, the tokens of the table are those of the rows, once each and in order,
its entries are those of the last row of each, and whether tokens are counted, looked for, looked up
or written out, the same is read, as it would be from the rows in the order in which they came. -/
theorem ofRows_views (source : Text) (given : List Row) :
    ((∃ e, ofRows source given = .error e) ↔ ∃ token, Last given token []) ∧
    (∀ e, ofRows source given = .error e →
      e.tokens.Pairwise (· < ·) ∧ (∀ token, token ∈ e.tokens ↔ Last given token []) ∧
      e.message = "Tokens without entries: " ++ Text.join ", " e.tokens) ∧
    ∀ t, ofRows source given = .ok t →
      t.source = source ∧ t.Views given ∧ t.Mirrors (dictionary given) := by
  refine ⟨?_, ?_, ?_⟩
  · simp only [ofRows_eq_error_iff, exists_and_left, exists_eq, and_true, Prod.exists,
      mem_sortRows_iff, exists_eq_right]
  · intro e he
    obtain ⟨-, rfl⟩ := ofRows_eq_error_iff.1 he
    refine ⟨?_, ?_, rfl⟩
    · exact List.pairwise_map.2 ((sortRows_pairwise given).sublist List.filter_sublist)
    · intro token
      rw [← mem_sortRows_iff]
      simp
  · intro t ht
    obtain ⟨hsource, hrows⟩ := rows_of_ofRows ht
    refine ⟨hsource, ?_, ?_⟩
    · apply views_of_mem_iff
      intro token entries
      rw [hrows, mem_sortRows_iff]
    · apply mirrors_of_perm
      rw [hrows]
      exact sortRows_perm_dictionary given

/-- Two tokens, one of them twice; it has entries only where it comes last. -/
def repeated (last : List Entry) : List Row :=
  [("b", [⟨"B", "b.html", "", false⟩]), ("ab", [⟨"AB", "ab.html", "", true⟩]), ("b", last)]

theorem ofRows_views_repeated :
    (∃ t, ofRows "f.js" (repeated [⟨"B", "c.html", "", true⟩]) = .ok t ∧ t.tokens = ["ab", "b"] ∧
      t.lookup "b" = [⟨"B", "c.html", "", true⟩] ∧ t.size = 2 ∧ t.entryCount = 2) ∧
    ∃ e, ofRows "f.js" (repeated []) = .error e ∧ Last (repeated []) "b" [] ∧
      e.message = "Tokens without entries: b" := by
  constructor
  · have ht : ∃ t, ofRows "f.js" (repeated [⟨"B", "c.html", "", true⟩]) = .ok t := ⟨_, rfl⟩
    obtain ⟨t, ht⟩ := ht
    obtain ⟨-, hviews, hmirrors⟩ :=
      (ofRows_views "f.js" (repeated [⟨"B", "c.html", "", true⟩])).2.2 t ht
    refine ⟨t, ht, ?_, ?_, hmirrors.size, hmirrors.entryCount⟩
    · cases ht
      rfl
    · exact hviews.last "b" _ ⟨(repeated []).dropLast, [], rfl, List.not_mem_nil⟩
  · have he : ofRows "f.js" (repeated []) = .error ⟨["b"]⟩ := rfl
    obtain ⟨-, htokens, hmessage⟩ := (ofRows_views "f.js" (repeated [])).2.1 _ he
    exact ⟨_, he, (htokens "b").1 List.mem_cons_self, hmessage⟩

end Table

end TokenIndex
