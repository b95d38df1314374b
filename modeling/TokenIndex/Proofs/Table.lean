import TokenIndex.Table
import TokenIndex.Proofs.Basic
import Mathlib.Algebra.GroupWithZero.Nat
import Mathlib.Data.List.Nodup
import Mathlib.Tactic.SplitIfs

namespace TokenIndex

theorem insertRow_perm {row : Row} {rows : List Row} (h : row.1 ∉ rows.map (·.1)) :
    (insertRow row rows).Perm (row :: rows) := by
  induction rows with
  | nil => exact List.Perm.refl _
  | cons r rows ih =>
    rw [List.map_cons, List.mem_cons, not_or] at h
    rw [insertRow]
    by_cases hlt : row.1 < r.1
    · rw [if_pos hlt]
    · have hrest := (ih h.2).cons r
      rw [if_neg hlt, if_neg h.1]
      exact hrest.trans (List.Perm.swap row r rows)

theorem foldl_insertRow_perm {sorted rows : List Row} (h : ((sorted ++ rows).map (·.1)).Nodup) :
    (rows.foldl (fun sorted row => insertRow row sorted) sorted).Perm (sorted ++ rows) := by
  induction rows generalizing sorted with
  | nil => rw [List.foldl_nil, List.append_nil]
  | cons row rows ih =>
    have hperm : (sorted ++ row :: rows).Perm (row :: (sorted ++ rows)) := List.perm_middle
    have hnew := (hperm.map (·.1)).nodup h
    rw [List.map_cons, List.nodup_cons, List.map_append, List.mem_append, not_or] at hnew
    -- the tokens of the sorted rows and those to come stay distinct
    have hinsert : (insertRow row sorted ++ rows).Perm (row :: (sorted ++ rows)) :=
      (insertRow_perm hnew.1.1).append_right rows
    have hnodup : ((insertRow row sorted ++ rows).map (·.1)).Nodup :=
      ((hinsert.trans hperm.symm).map (·.1)).symm.nodup h
    exact (ih hnodup).trans (hinsert.trans hperm.symm)

theorem sortRows_perm {rows : List Row} (h : (rows.map (·.1)).Nodup) :
    (sortRows rows).Perm rows :=
  @foldl_insertRow_perm [] rows h

namespace Text

theorem not_lt_of_prefix {start t : Text} (h : start <+: t) : ¬t < start := by
  induction start generalizing t with
  | nil => exact List.not_lt_nil t
  | cons c start ih =>
    cases t with
    | nil => cases List.prefix_nil.1 h
    | cons d t =>
      obtain ⟨rfl, hrest⟩ := List.cons_prefix_cons.1 h
      rw [List.cons_lt_cons_self]
      exact ih hrest

/-- The texts that begin with `start` are neighbours: none that does not lies between two. -/
theorem prefix_of_between {start s t : Text} (hs : ¬s < start) (hst : s < t) (ht : start <+: t) :
    start <+: s := by
  induction start generalizing s t with
  | nil => exact List.nil_prefix
  | cons c start ih =>
    cases t with
    | nil => cases List.prefix_nil.1 ht
    | cons d t =>
      obtain ⟨rfl, hrest⟩ := List.cons_prefix_cons.1 ht
      cases s with
      | nil => exact absurd (List.nil_lt_cons c start) hs
      | cons e s =>
        rw [List.cons_lt_cons_iff, not_or, not_and] at hs
        rcases List.cons_lt_cons_iff.1 hst with hlt | ⟨rfl, hlt⟩
        · exact absurd hlt hs.1
        · exact List.cons_prefix_cons.2 ⟨rfl, ih (hs.2 rfl) hlt hrest⟩

end Text

namespace Table

section Block

variable {start : Text} {rows : List Row}

theorem takeWhile_startsWith (h : rows.Pairwise (·.1 < ·.1)) (hge : ∀ r ∈ rows, ¬r.1 < start) :
    rows.takeWhile (·.1.startsWith start) = rows.filter (·.1.startsWith start) := by
  induction rows with
  | nil => rfl
  | cons r rows ih =>
    rw [List.pairwise_cons] at h
    rw [List.forall_mem_cons] at hge
    rw [List.takeWhile_cons, List.filter_cons]
    by_cases hr : r.1.startsWith start = true
    · rw [if_pos hr, if_pos hr, ih h.2 hge.2]
    · rw [if_neg hr, if_neg hr, eq_comm, List.filter_eq_nil_iff]
      intro s hs hstart
      rw [Text.startsWith_iff] at hr hstart
      exact hr (Text.prefix_of_between hge.1 (h.1 s hs) hstart)

theorem dropWhile_takeWhile_startsWith (h : rows.Pairwise (·.1 < ·.1)) :
    (rows.dropWhile (·.1 < start)).takeWhile (·.1.startsWith start) =
      rows.filter (·.1.startsWith start) := by
  induction rows with
  | nil => rfl
  | cons r rows ih =>
    rw [List.dropWhile_cons]
    by_cases hr : r.1 < start
    · have hneg : ¬r.1.startsWith start = true := by
        rw [Text.startsWith_iff]
        exact fun hstart => Text.not_lt_of_prefix hstart hr
      rw [if_pos (decide_eq_true hr), ih (List.pairwise_cons.1 h).2, List.filter_cons, if_neg hneg]
    · rw [if_neg (by rwa [decide_eq_true_eq])]
      apply takeWhile_startsWith h
      rw [List.forall_mem_cons]
      refine ⟨hr, fun s hs hlt => hr ?_⟩
      exact List.lt_trans ((List.pairwise_cons.1 h).1 s hs) hlt

theorem search_eq_filter (t : Table) (h : start ≠ []) :
    t.search start none = t.rows.filter (·.1.startsWith start) := by
  rw [search, if_neg (by rwa [List.isEmpty_iff])]
  exact dropWhile_takeWhile_startsWith t.sorted

end Block

theorem search_some (t : Table) (start : Text) (n : Int) :
    t.search start (some n) = (t.search start none).take n.toNat := by
  rw [search, search]
  split
  · exact List.take_nil.symm
  · rfl

theorem search_subset (t : Table) (start : Text) (limit : Option Int) :
    t.search start limit ⊆ t.rows := by
  have hall : t.search start none ⊆ t.rows := by
    intro r hr
    rw [search] at hr
    split at hr
    · cases hr
    · exact (List.dropWhile_sublist _).subset ((List.takeWhile_sublist _).subset hr)
  cases limit with
  | none => exact hall
  | some n =>
    rw [search_some]
    exact List.Subset.trans (List.take_subset _ _) hall

theorem exists_ofRows (source : Text) {rows : List Row} (hn : (rows.map (·.1)).Nodup)
    (hf : ∀ r ∈ rows, r.2 ≠ []) :
    ∃ t, ofRows source rows = .ok t ∧ t.source = source ∧ t.rows.Perm rows := by
  have hperm := sortRows_perm hn
  have hkept : ∀ r ∈ sortRows rows, r.2 ≠ [] := by
    intro r hr
    exact hf r (hperm.mem_iff.1 hr)
  refine ⟨⟨source, sortRows rows, sortRows_pairwise rows, hkept⟩, ?_, rfl, hperm⟩
  rw [ofRows]
  exact dif_pos hkept

section

variable {t u : Table} {rows : List Row}

theorem nodup_tokens (t : Table) : (t.rows.map (·.1)).Nodup := by
  apply List.pairwise_map.2
  apply t.sorted.imp
  intro r s hlt heq
  rw [heq] at hlt
  exact List.lt_irrefl _ hlt

/-- The order of the rows is that of the tokens, so the rows alone decide it. -/
theorem rows_eq_of_perm (h : t.rows.Perm u.rows) : t.rows = u.rows := by
  refine h.eq_of_pairwise ?_ t.sorted u.sorted
  intro r s _ _ hrs hsr
  exact absurd hsr (List.lt_asymm hrs)

theorem beq_of_perm (h : t.rows.Perm u.rows) : (t == u) = true := by
  show (t.rows == u.rows) = true
  rw [rows_eq_of_perm h]
  exact beq_self_eq_true _

theorem tokens_perm (h : t.rows.Perm rows) : t.tokens.Perm (rows.map (·.1)) := h.map _

theorem entryCount_eq_of_perm (h : t.rows.Perm rows) :
    t.entryCount = (rows.map (·.2.length)).sum :=
  (h.map _).sum_nat

theorem lookup_of_mem {token : Text} {entries : List Entry} (h : (token, entries) ∈ t.rows) :
    t.lookup token = entries := by
  obtain ⟨before, after, hrows⟩ := List.append_of_mem h
  have hnodup := t.nodup_tokens
  rw [hrows, List.map_append, List.map_cons, List.nodup_middle, List.nodup_cons,
    List.mem_append, not_or] at hnodup
  have hsome : t.rows.lookup token = some entries := by
    rw [hrows, List.lookup_eq_some_iff]
    refine ⟨before, after, rfl, ?_⟩
    intro r hr
    rw [bne_iff_ne]
    intro heq
    exact hnodup.1.1 (List.mem_map.2 ⟨r, hr, heq.symm⟩)
  rw [lookup, hsome, Option.getD_some]

theorem lookup_of_not_mem {token : Text} (h : token ∉ t.tokens) : t.lookup token = [] := by
  have hnone : t.rows.lookup token = none := by
    rw [List.lookup_eq_none_iff]
    intro r hr
    rw [bne_iff_ne]
    intro heq
    exact h (List.mem_map.2 ⟨r, hr, heq.symm⟩)
  rw [lookup, hnone, Option.getD_none]

theorem rows_eq_map (t : Table) : t.rows = t.tokens.map fun token => (token, t.lookup token) := by
  rw [tokens, List.map_map]
  refine (List.map_id t.rows).symm.trans (List.map_congr_left fun r hr => ?_)
  exact Prod.ext rfl (lookup_of_mem hr).symm

theorem entryCount_eq_sum (t : Table) :
    t.entryCount = (t.tokens.map fun token => (t.lookup token).length).sum := by
  calc t.entryCount
    _ = (t.rows.map (·.2.length)).sum := entryCount_eq_of_perm (List.Perm.refl _)
    _ = ((t.tokens.map fun token => (token, t.lookup token)).map (·.2.length)).sum := by
      rw [← rows_eq_map]
    _ = (t.tokens.map fun token => (t.lookup token).length).sum := by
      rw [List.map_map]
      rfl

end

end Table

end TokenIndex
