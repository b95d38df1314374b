import TokenIndex.Proofs.Table.Equality

namespace TokenIndex.Table

/-- Every token that begins with a text, with its entries. -/
def scan (t : Table) (start : Text) : List Row :=
  (t.tokens.filter fun token => start.isPrefixOf token).map fun token => (token, t.lookup token)

/-- The first rows up to a limit: none if it is not positive, all of them without one. -/
def upTo (limit : Option Int) (rows : List Row) : List Row :=
  match limit with
  | none => rows
  | some n => if n ≤ 0 then [] else rows.take n.toNat

theorem search_eq_upTo (t : Table) (start : Text) (limit : Option Int) :
    t.search start limit = upTo limit (t.search start none) := by
  cases limit with
  | none => rfl
  | some n =>
    rw [search_some, upTo]
    split_ifs with hn
    · rw [Int.toNat_of_nonpos hn, List.take_zero]
    · rfl

theorem scan_eq_filter (t : Table) (start : Text) :
    t.scan start = t.rows.filter (·.1.startsWith start) := by
  have hbegins (token : Text) : start.isPrefixOf token = token.startsWith start := by
    rw [Bool.eq_iff_iff, List.isPrefixOf_iff_prefix, Text.startsWith_iff]
  rw [scan, rows_eq_map, List.filter_map]
  simp only [hbegins]
  rfl

theorem mem_scan_iff {t : Table} {start token : Text} {entries : List Entry} :
    (token, entries) ∈ t.scan start ↔
      start <+: token ∧ entries ≠ [] ∧ t.lookup token = entries := by
  rw [scan_eq_filter, List.mem_filter, Text.startsWith_iff, mem_rows_iff, and_comm]

theorem scan_pairwise (t : Table) (start : Text) : (t.scan start).Pairwise (·.1 < ·.1) := by
  rw [scan_eq_filter]
  exact t.sorted.filter _

/-- A search for the empty text finds nothing. A search for any other finds what a scan of all
tokens finds, as far as the limit goes: every token that begins with the text and has entries, once,
in the order of the tokens. -/
theorem search_eq_scan (t : Table) (start : Text) (limit : Option Int) :
    t.search start limit = (if start = [] then [] else upTo limit (t.scan start)) ∧
      (t.scan start).Pairwise (·.1 < ·.1) ∧
      ∀ token entries, (token, entries) ∈ t.scan start ↔
        start <+: token ∧ entries ≠ [] ∧ t.lookup token = entries := by
  refine ⟨?_, t.scan_pairwise start, fun token entries => mem_scan_iff⟩
  rw [search_eq_upTo]
  split_ifs with hstart
  · cases limit <;> simp [upTo, search, hstart]
  · rw [search_eq_filter t hstart, scan_eq_filter]

end TokenIndex.Table
