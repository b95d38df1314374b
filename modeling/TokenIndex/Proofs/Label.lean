import TokenIndex.Proofs.Endpoints
import TokenIndex.Proofs.Exchange.Search
import TokenIndex.Proofs.Report

namespace TokenIndex

open Shape (Accepted ReadsItem)

/-- A row with at least one entry, all of them under this label. -/
structure Row.Labelled (r : Row) (label : Text) : Prop where
  first : r.2.head?.map Entry.label = some label
  all : ∀ e ∈ r.2, e.label = label

/-- Tables that some way of loading gives. -/
inductive Table.Loaded (t : Table) : Prop
  | source {fs : Files} {source : Source} {category : Text} :
    load fs source category = .ok t → t.Loaded
  | text {source text : Text} : loadText source text = .ok t → t.Loaded
  | file {fs : Files} {p : Path} : loadFile fs p = .ok t → t.Loaded
  | directory {fs : Files} {p : Path} {category : Text} :
    loadDirectory fs p category = .ok t → t.Loaded

section Loaded

variable {t : Table} {fs : Files} {p : Path}

theorem loadPath_of_loadFile (category : Text) (h : loadFile fs p = .ok t) :
    loadPath fs p category = .ok t := by
  rw [loadPath]
  split
  · rename_i hstatus
    rw [loadFile, hstatus] at h
    cases h
  · rename_i hstatus
    rw [loadFile, hstatus] at h
    cases h
  · exact h

theorem loadPath_of_loadDirectory {category : Text} (h : loadDirectory fs p category = .ok t) :
    loadPath fs p category = .ok t := by
  obtain ⟨lists, hspelled⟩ := Load.exists_spelled h
  rw [loadPath, hspelled.directory]
  exact h

theorem Table.Loaded.exists_accepted (h : t.Loaded) :
    ∃ items rows, Accepted items rows ∧ t.rows.Perm rows := by
  have hload {fs : Files} {category : Text} (source : Source)
      (h : load fs source category = .ok t) :
      ∃ items rows, Accepted items rows ∧ t.rows.Perm rows := by
    obtain ⟨lists, rows, -, hrows⟩ := Load.exists_accepted h
    exact ⟨lists.flatten, rows, hrows⟩
  cases h with
  | source h => exact hload _ h
  | @text source text h =>
    obtain ⟨vs, hvs⟩ := Load.exists_of_loadText h
    have hloads := Load.loads_loadText source hvs
    rw [h] at hloads
    exact ⟨vs, hloads⟩
  | @file fs p h => exact hload (.path p) (loadPath_of_loadFile [] h)
  | @directory fs p _ h => exact hload (.path p) (loadPath_of_loadDirectory h)

theorem Shape.ReadsItem.exists_labelled {item : Value} {r : Row} (h : ReadsItem item r) :
    ∃ label, Row.Labelled r label := by
  obtain ⟨token, entries⟩ := r
  obtain ⟨written, -, -, -, -, hentries⟩ := Load.exists_label h
  obtain ⟨e, es, rfl⟩ := List.exists_cons_of_ne_nil h.ne_nil
  refine ⟨e.label, rfl, fun e' he' => ?_⟩
  have hfirst := (hentries e List.mem_cons_self).1
  exact Except.ok.inj ((hentries e' he').1.symm.trans hfirst)

theorem Table.Loaded.exists_labels (h : t.Loaded) :
    ∃ label : Text → Text, ∀ r ∈ t.rows, Row.Labelled r (label r.1) := by
  obtain ⟨items, rows, hrows, hperm⟩ := h.exists_accepted
  have hone : ∀ token ∈ t.tokens, ∃ label, Row.Labelled (token, t.lookup token) label := by
    intro token htoken
    obtain ⟨item, -, hitem⟩ := Load.exists_item hrows hperm htoken
    exact hitem.exists_labelled
  choose! label hlabel using hone
  refine ⟨label, fun r hr => ?_⟩
  have hrow := hlabel r.1 (List.mem_map_of_mem hr)
  rwa [Table.lookup_of_mem hr] at hrow

end Loaded

/-- A result as a value, with one label over it and on every entry. -/
def resultValue (label : Text) (r : Row) : Value :=
  .object [("token", .text r.1), ("label", .text label),
    ("entries", .array (r.2.map fun e => .object [("label", .text label),
      ("locator", .text e.locator), ("scope", .text e.scope),
      ("parent_frame", .bool e.parentFrame)]))]

theorem rowValue_eq {r : Row} {label : Text} (h : Row.Labelled r label) :
    rowValue r = resultValue label r := by
  have hentries : entriesValue r.2 = .array (r.2.map fun e => .object [("label", .text label),
      ("locator", .text e.locator), ("scope", .text e.scope),
      ("parent_frame", .bool e.parentFrame)]) := by
    rw [entriesValue]
    refine congrArg Value.array (List.map_congr_left fun e he => ?_)
    rw [Entry.toValue, h.all e he]
  rw [rowValue, h.first, hentries]
  rfl

/-- A result as it is printed: a line under its label, and one line for each entry if they are to
be shown. -/
def resultTexts (showEntries : Bool) (label : Text) (r : Row) : List Text :=
  (r.1.padRight 30 ++ " " ++ label.padRight 24 ++ " " ++ ("(" ++ Text.decimal r.2.length ++ ")") ++
    "\n") ::
    if showEntries then
      r.2.map fun e =>
        "  " ++ label.padRight 24 ++ " " ++ e.scope.padRight 50 ++ " " ++ e.locator ++ "\n"
    else []

namespace Report

theorem resultLines_resultValue (showEntries : Bool) (label : Text) (r : Row) :
    resultLines showEntries (resultValue label r) = (resultTexts showEntries label r).map .ok := by
  have hline : resultLine (resultValue label r) = .ok (r.1.padRight 30 ++ " " ++
      label.padRight 24 ++ " " ++ ("(" ++ Text.decimal r.2.length ++ ")") ++ "\n") := by
    rw [← @List.length_map _ _ r.2]
    rfl
  rw [resultLines, hline, resultTexts, List.map_cons]
  cases showEntries with
  | false => rfl
  | true =>
    rw [if_pos rfl, if_pos rfl, List.map_map]
    refine congrArg (_ :: ·) ?_
    show List.flatMap _ (List.map _ _) = _
    rw [List.flatMap_map, ← List.flatMap_pure_eq_map]
    rfl

theorem search_eq_map_ok (start : Text) (showEntries : Bool) {label : Text → Text}
    {rows : List Row} (h : ∀ r ∈ rows, Row.Labelled r (label r.1)) (hne : rows ≠ []) :
    search start false showEntries (.array (rows.map rowValue)) =
      (rows.flatMap fun r => resultTexts showEntries (label r.1) r).map .ok := by
  have hvoid : (Value.array (rows.map rowValue)).isVoid = false := by
    rw [Value.isVoid, List.isEmpty_eq_false_iff]
    exact mt List.map_eq_nil_iff.1 hne
  rw [search, if_neg Bool.false_ne_true, hvoid, if_neg Bool.false_ne_true]
  show List.flatMap _ (List.map _ _) = _
  rw [List.flatMap_map, List.map_flatMap]
  refine List.flatMap_congr fun r hr => ?_
  rw [rowValue_eq (h r hr), resultLines_resultValue]

end Report

open Command (given? categoryFor)

/-- What a search prints of rows with their labels. -/
def searchText (start : Text) (asJson showEntries : Bool) (label : Text → Text)
    (rows : List Row) : Text :=
  if asJson then
    Json.indented (.object [("prefix", .text start),
      ("results", .array (rows.map fun r => resultValue (label r.1) r))]) ++ "\n"
  else if rows = [] then "No tokens start with '" ++ start ++ "'.\n"
  else (rows.flatMap fun r => resultTexts showEntries (label r.1) r).flatten

section Labels

variable {t : Table} {label : Text → Text} {rows : List Row}

theorem map_rowValue_eq (h : ∀ r ∈ rows, Row.Labelled r (label r.1)) :
    rows.map rowValue = rows.map fun r => resultValue (label r.1) r :=
  List.map_congr_left fun r hr => rowValue_eq (h r hr)

theorem ofLines_search (start : Text) (asJson showEntries : Bool)
    (h : ∀ r ∈ rows, Row.Labelled r (label r.1)) :
    Outcome.ofLines (Report.search start asJson showEntries (.array (rows.map rowValue))) =
      { Outcome.quiet with output := searchText start asJson showEntries label rows } := by
  rw [searchText]
  cases asJson with
  | true =>
    rw [if_pos rfl, ← map_rowValue_eq h, ← List.append_nil (_ ++ _)]
    rfl
  | false =>
    rw [if_neg Bool.false_ne_true]
    split_ifs with hnil
    · rw [hnil, ← List.append_nil (_ ++ _)]
      rfl
    · rw [Report.search_eq_map_ok start showEntries h hnil, Outcome.ofLines, Report.print_map_ok]

theorem subset_of_rows {start : Text} {limit : Option (Given Int)}
    (h : Question.rows start t limit = .ok rows) : rows ⊆ t.rows := by
  cases limit with
  | none =>
    cases h
    exact t.search_subset start none
  | some given =>
    cases given with
    | value n =>
      cases h
      exact t.search_subset start _
    | dropped =>
      rw [Question.rows] at h
      split_ifs at h
      cases h
      exact List.nil_subset _

theorem search_of_texts {w : World} {reply : Reply} {texts : List Text} {start index : Text}
    {a : Arguments} (hlabel : ∀ r ∈ t.rows, Row.Labelled r (label r.1))
    (htexts : Task.ofTexts texts = .ok (.run .search start a))
    (hindex : given? a.index = some index)
    (hload : load w.files (.text index) (categoryFor w a) = .ok t) :
    (runTexts w reply texts).1.escaped = none ∧
      ∀ rows, Question.rows start t a.limit = .ok rows →
        (∀ r ∈ rows, Row.Labelled r (label r.1)) ∧ (runTexts w reply texts).1.exit = 0 ∧
          (runTexts w reply texts).1.output =
            searchText start a.json a.showEntries label rows := by
  obtain ⟨log, hlog⟩ := Command.exists_askTable (.search start a.limit)
    (Report.search start a.json a.showEntries) hload
  rw [(Command.asks_search htexts).near hindex, hlog, Question.search]
  dsimp only
  cases hrows : Question.rows start t a.limit with
  | error e => exact ⟨rfl, nofun⟩
  | ok rows =>
    have hrow : ∀ r ∈ rows, Row.Labelled r (label r.1) :=
      fun r hr => hlabel r (subset_of_rows hrows hr)
    rw [Except.map]
    dsimp only
    rw [ofLines_search start a.json a.showEntries hrow]
    refine ⟨rfl, ?_⟩
    rintro _ ⟨⟩
    exact ⟨hrow, rfl, rfl⟩

/-- Whatever is searched for in a table that was loaded, every token that is found has an entry, all
its entries have one label, and that label is shown for it: by the service, which answers with it,
and on the command line, which does not fail. -/
theorem search_labelled (h : t.Loaded) : ∃ label : Text → Text,
    (∀ start limit, ∀ r ∈ t.search start limit, Row.Labelled r (label r.1)) ∧
    (∀ (w : World) request query start bound, w.table.1 = .ok t →
      Service.asked? request = some (.search, query) →
      Service.Query.search query = .ok (start, bound) →
      (Service.answer w request).1 = (Service.send (.object [("prefix", .text start), ("results",
        .array ((t.search start (bound.map Int.ofNat)).map fun r =>
          resultValue (label r.1) r))])).map (Service.Origin.complete request)) ∧
    ∀ (w : World) reply texts start a index, Task.ofTexts texts = .ok (.run .search start a) →
      given? a.index = some index → load w.files (.text index) (categoryFor w a) = .ok t →
      let o := (runTexts w reply texts).1
      o.escaped = none ∧ ∀ rows, Question.rows start t a.limit = .ok rows →
        (∀ r ∈ rows, Row.Labelled r (label r.1)) ∧ o.exit = 0 ∧
          o.output = searchText start a.json a.showEntries label rows := by
  obtain ⟨label, hlabel⟩ := h.exists_labels
  refine ⟨label, ?_, ?_, ?_⟩
  · intro start limit r hr
    exact hlabel r (t.search_subset start limit hr)
  · intro w request query start bound ht hasked hquery
    rw [Service.answer_of_asked hasked, ht]
    dsimp only [Service.answerWith]
    rw [Service.answerFrom, hquery]
    dsimp only
    rw [Service.searchValue, map_rowValue_eq fun r hr => hlabel r (t.search_subset start _ hr)]
  · intro w reply texts start a index htexts hindex hload
    exact search_of_texts hlabel htexts hindex hload

end Labels

def sampleRow : Row := (Writer.sampleTopic "a" (List.cons_ne_nil _ _)).row

/-- The one topic of a file is found by its first letter, at the command line and by a service. -/
theorem search_labelled_file : ∃ t : Table, t.Loaded ∧ t.search "a" none = [sampleRow] ∧
    Row.Labelled sampleRow "a&lt;\\" ∧
    (Service.answer (Service.offering t) (Service.get "/api/search?prefix=a" [])).1 =
      (Service.send (.object [("prefix", .text "a"), ("results",
        .array [resultValue "a&lt;\\" sampleRow])])).map
          (Service.Origin.complete (Service.get "/api/search?prefix=a" [])) ∧
    (runTexts Command.sampleWorld (.failed []) (Command.searchLines "1").1).1.exit = 0 := by
  have hfile : Command.sampleWorld.files.status (.ofText "/f") =
      .ok (some (.file Writer.sampleBytes)) := rfl
  obtain ⟨t, ht, hrows⟩ := Writer.exists_load_sample Command.sampleWorld.env.category
    (by decide) hfile
  obtain ⟨label, hfound, hanswer, hline⟩ := search_labelled (.source ht)
  have hsearch : t.search "a" none = [sampleRow] := by
    rw [Table.search, hrows]
    rfl
  have hr : Row.Labelled sampleRow (label sampleRow.1) :=
    hfound "a" none _ (hsearch ▸ List.mem_cons_self)
  have hlabel : label sampleRow.1 = "a&lt;\\" := (Option.some.inj hr.first).symm
  refine ⟨t, .source ht, hsearch, hlabel ▸ hr, ?_, ?_⟩
  · have hanswered := hanswer (Service.offering t) (Service.get "/api/search?prefix=a" [])
      "prefix=a" "a" none rfl (by with_unfolding_all rfl)
      (by with_unfolding_all rfl)
    rw [Option.map_none, hsearch, List.map_singleton, hlabel] at hanswered
    exact hanswered
  · obtain ⟨-, hrun⟩ := hline Command.sampleWorld (.failed []) _ "a" _ "/f"
      Command.lines_search_sample.1.near (Command.given?_of_ne_nil (List.cons_ne_nil _ _)) ht
    exact (hrun _ rfl).2.1

end TokenIndex
