import TokenIndex.Proofs.Load.Source
import TokenIndex.Proofs.Literal.Digits

namespace TokenIndex

open Reference (Oversized)

namespace Shape

/-- A decimal reference in one of the texts of a value has too many digits. -/
def TooLong (v : Value) (e : TooManyDigits) : Prop :=
  ∃ text run, v.Has text ∧ Oversized text run ∧ e = ⟨run.length⟩

theorem TooLong.array {vs : List Value} {v : Value} {e : TooManyDigits} (h : TooLong v e)
    (hv : v ∈ vs) : TooLong (.array vs) e := by
  obtain ⟨text, run, htext, hrun, he⟩ := h
  exact ⟨text, run, .array hv htext, hrun, he⟩

theorem TooLong.subset {vs ws : List Value} {e : TooManyDigits} (h : TooLong (.array vs) e)
    (hsub : vs ⊆ ws) : TooLong (.array ws) e := by
  obtain ⟨text, run, htext, hrun⟩ := h
  cases htext with
  | array hv htext => exact ⟨text, run, .array (hsub hv) htext, hrun⟩

theorem tooLong_of_resolve {t : Text} {e : TooManyDigits}
    (h : resolve t = .error (.tooManyDigits e)) : TooLong (.text t) e := by
  rw [resolve] at h
  cases hr : Reference.resolve t with
  | ok => rw [hr] at h; cases h
  | error e' =>
    rw [hr] at h
    cases h
    obtain ⟨run, hrun, he⟩ := Reference.exists_oversized hr
    exact ⟨t, run, .text, hrun, he⟩

theorem tooLong_of_entry {label : Text} {fail : EntryDefect → Defect} {raw : Value}
    {e : TooManyDigits} :
    entry label fail raw = .error (.tooManyDigits e) → TooLong raw e := by
  fun_cases entry label fail raw with
  | case2 flag more c locator _ link scope hlink =>
    intro h
    exact (tooLong_of_resolve (map_eq_error_iff.1 h)).array (by simp)
  | _ => rintro ⟨⟩

theorem tooLong_of_entries {label : Text} {fail : Nat → EntryDefect → Defect} {j : Nat}
    {raws : List Value} {e : TooManyDigits}
    (h : entries label fail j raws = .error (.tooManyDigits e)) : TooLong (.array raws) e := by
  induction raws generalizing j with
  | nil => cases h
  | cons raw raws ih =>
    rw [entries] at h
    cases he : entry label (fail j) raw with
    | error err =>
      rw [he] at h
      cases h
      exact (tooLong_of_entry he).array List.mem_cons_self
    | ok =>
      rw [he] at h
      exact (ih (map_eq_error_iff.1 h)).subset (List.subset_cons_self _ _)

theorem tooLong_of_row {before : List Row} {item : Value} {e : TooManyDigits} :
    row before item = .error (.tooManyDigits e) → TooLong item e := by
  fun_cases row before item with
  | case2 _ _ _ raw raws d label _ err hr =>
    intro h
    cases h
    have hbody : TooLong (.array (.text (d :: label) :: raw :: raws)) e :=
      (tooLong_of_resolve hr).array List.mem_cons_self
    exact hbody.array (by simp)
  | case3 _ c rest token raw raws d label _ _ _ =>
    intro h
    have hraws := tooLong_of_entries (map_eq_error_iff.1 h)
    have hbody : TooLong (.array (.text (d :: label) :: raw :: raws)) e :=
      hraws.subset (List.subset_cons_self _ _)
    exact hbody.array (by simp)
  | _ => rintro ⟨⟩

theorem tooLong_of_rowsFrom {before : List Row} {items : List Value} {e : TooManyDigits}
    (h : rowsFrom before items = .error (.tooManyDigits e)) : TooLong (.array items) e := by
  induction items generalizing before with
  | nil => cases h
  | cons item items ih =>
    rw [rowsFrom] at h
    cases hr : row before item with
    | error err =>
      rw [hr] at h
      cases h
      exact (tooLong_of_row hr).array List.mem_cons_self
    | ok r =>
      rw [hr] at h
      exact (ih h).subset (List.subset_cons_self _ _)

end Shape

namespace Source

/-- The search data texts that a load of a source may read. -/
inductive Reads (fs : Files) (category : Text) : Source → Text → Prop
  | text {t : Text} : isData t = true → Reads fs category (.text t) t
  | file {source : Source} {p : Path} {t : Text} : source.path? = some p →
      Load.read fs p = .ok t → Reads fs category source t
  | dataFile {source : Source} {p file : Path} {t : Text} : source.path? = some p →
      fs.status p = .ok (some .directory) → file ∈ Load.dataFiles fs p category →
      Load.read fs file = .ok t → Reads fs category source t

/-- The lists of items that a load of a source may look at. -/
inductive Holds (fs : Files) (category : Text) : Source → List Value → Prop
  | items (vs : List Value) : Holds fs category (.items vs) vs
  | parsed {source : Source} {t : Text} {vs : List Value} : source.Reads fs category t →
      Literal.parse t = .ok vs → Holds fs category source vs

/-- The names that the data of a source goes by. -/
inductive Names (fs : Files) (category : Text) : Source → Text → Prop
  | items (vs : List Value) : Names fs category (.items vs) itemsName
  | text {t : Text} : isData t = true → Names fs category (.text t) textName
  | path {source : Source} {p : Path} : source.path? = some p → Names fs category source p.toText
  | dataFile {source : Source} {p file : Path} : source.path? = some p →
      fs.status p = .ok (some .directory) → file ∈ Load.dataFiles fs p category →
      Names fs category source file.toText

/-- The errors of a load, each with what it is about. -/
inductive Fails (fs : Files) (category : Text) (source : Source) : LoadError → Prop
  | malformed {name : Text} (what : Malformed) : source.Names fs category name →
      Fails fs category source (.malformed name what)
  | number {t run : Text} : source.Reads fs category t → Literal.TooLong t run →
      Fails fs category source (.tooManyDigits ⟨run.length⟩)
  | reference {vs : List Value} {e : TooManyDigits} : source.Holds fs category vs →
      Shape.TooLong (.array vs) e → Fails fs category source (.tooManyDigits e)
  | nameTooLong {p : Path} : source.path? = some p → fs.status p = .error p.toText →
      Fails fs category source (.nameTooLong p.toText)
  | unsupported {kind : Text} : source = .other kind →
      Fails fs category source (.unsupported kind)

end Source

namespace Load

variable {fs : Files} {category : Text} {source : Source} {name text : Text} {err : LoadError}

theorem shape_error_cases {vs : List Value} (h : shape name (.array vs) = .error err) :
    (∃ what, err = .malformed name what) ∨
      ∃ e, Shape.TooLong (.array vs) e ∧ err = .tooManyDigits e := by
  rw [shape, Shape.rows] at h
  split at h
  · cases h
  · cases h
    exact .inl ⟨_, rfl⟩
  · rename_i hrows
    cases h
    exact .inr ⟨_, Shape.tooLong_of_rowsFrom hrows, rfl⟩

/-- Rows of items always make a table. -/
theorem exists_table_of_shape {vs : List Value} {rows : List Row} (other : Text)
    (h : shape name (.array vs) = .ok rows) : ∃ t, table other rows = .ok t := by
  obtain ⟨t, ht, -⟩ := exists_table other
    (Shape.rowsFrom_nil_eq_ok_iff.1 (shape_eq_ok_iff.1 h))
  exact ⟨t, ht⟩

theorem loadItems_error_cases {vs : List Value} (h : loadItems name (.array vs) = .error err) :
    (∃ what, err = .malformed name what) ∨
      ∃ e, Shape.TooLong (.array vs) e ∧ err = .tooManyDigits e := by
  rw [loadItems] at h
  cases hs : shape name (.array vs) with
  | error e =>
    rw [hs] at h
    cases h
    exact shape_error_cases hs
  | ok rows =>
    obtain ⟨t, ht⟩ := exists_table_of_shape name hs
    rw [hs] at h
    dsimp only at h
    rw [ht] at h
    cases h

inductive TextFails (name text : Text) : LoadError → Prop
  | malformed (what : Malformed) : TextFails name text (.malformed name what)
  | number {run : Text} : Literal.TooLong text run →
      TextFails name text (.tooManyDigits ⟨run.length⟩)
  | reference {vs : List Value} {e : TooManyDigits} : Literal.parse text = .ok vs →
      Shape.TooLong (.array vs) e → TextFails name text (.tooManyDigits e)

theorem textFails_of_parse (h : parse name text = .error err) : TextFails name text err := by
  rw [parse] at h
  split at h
  · cases h
  · cases h
    exact .malformed _
  · rename_i hparse
    cases h
    obtain ⟨run, hrun, rfl⟩ := Literal.exists_tooLong hparse
    exact .number hrun

theorem parse_eq_ok {vs : List Value} (h : parse name text = .ok vs) :
    Literal.parse text = .ok vs := by
  rw [parse] at h
  split at h
  · rename_i hparse
    cases h
    exact hparse
  · cases h
  · cases h

theorem textFails_of_items {vs : List Value} (hparse : parse name text = .ok vs)
    (h : (∃ what, err = .malformed name what) ∨
      ∃ e, Shape.TooLong (.array vs) e ∧ err = .tooManyDigits e) : TextFails name text err := by
  obtain ⟨what, rfl⟩ | ⟨e, he, rfl⟩ := h
  · exact .malformed what
  · exact .reference (parse_eq_ok hparse) he

theorem textFails_of_rows (h : rows name text = .error err) : TextFails name text err := by
  rw [rows] at h
  cases hp : parse name text with
  | error e =>
    rw [hp] at h
    cases h
    exact textFails_of_parse hp
  | ok vs =>
    rw [hp] at h
    exact textFails_of_items hp (shape_error_cases h)

theorem textFails_of_loadText (h : loadText name text = .error err) : TextFails name text err := by
  rw [loadText] at h
  cases hp : parse name text with
  | error e =>
    rw [hp] at h
    cases h
    exact textFails_of_parse hp
  | ok vs =>
    rw [hp] at h
    exact textFails_of_items hp (loadItems_error_cases h)

/-- How the reading of a file fails. -/
def FileFails (fs : Files) (file : Path) (err : LoadError) : Prop :=
  (∃ what, err = .malformed file.toText what) ∨
    ∃ text, read fs file = .ok text ∧ TextFails file.toText text err

theorem fileFails_of_read {file : Path} (h : read fs file = .error err) :
    FileFails fs file err := by
  rw [read] at h
  split at h
  · cases h
  · cases h
    exact .inl ⟨_, rfl⟩

theorem fileFails_of_addFile {before : List Row} {file : Path}
    (h : addFile fs before file = .error err) : FileFails fs file err := by
  rw [addFile] at h
  cases hread : read fs file with
  | error e =>
    rw [hread] at h
    cases h
    exact fileFails_of_read hread
  | ok text =>
    rw [hread] at h
    dsimp only at h
    cases hrows : rows file.toText text with
    | error e =>
      rw [hrows] at h
      cases h
      exact .inr ⟨text, hread, textFails_of_rows hrows⟩
    | ok new =>
      rw [hrows] at h
      dsimp only at h
      split at h
      · cases h
        exact .inl ⟨_, rfl⟩
      · cases h

theorem fileFails_of_addFiles {before : List Row} {files : List Path}
    (h : addFiles fs before files = .error err) : ∃ file ∈ files, FileFails fs file err := by
  induction files generalizing before with
  | nil => cases h
  | cons file files ih =>
    rw [addFiles] at h
    cases ha : addFile fs before file with
    | error e =>
      rw [ha] at h
      cases h
      exact ⟨file, List.mem_cons_self, fileFails_of_addFile ha⟩
    | ok rows =>
      rw [ha] at h
      obtain ⟨f, hf, hfails⟩ := ih h
      exact ⟨f, List.mem_cons_of_mem _ hf, hfails⟩

theorem exists_table_of_addFiles {files : List Path} {rows : List Row} (other : Text)
    (h : addFiles fs [] files = .ok rows) : ∃ t, table other rows = .ok t := by
  obtain ⟨lists, hlists⟩ := exists_spells_of_addFiles h
  obtain ⟨t, ht, -⟩ := exists_table other
    (Shape.rowsFrom_nil_eq_ok_iff.1 ((addFiles_eq_ok_iff hlists).1 h))
  exact ⟨t, ht⟩

theorem fails_of_textFails (hreads : source.Reads fs category text)
    (hname : source.Names fs category name) (h : TextFails name text err) :
    source.Fails fs category err := by
  cases h with
  | malformed what => exact .malformed what hname
  | number hrun => exact .number hreads hrun
  | reference hparse he => exact .reference (.parsed hreads hparse) he

section Paths

variable {p : Path}

theorem toText_of_status {path : Text} (h : fs.status p = .error path) : path = p.toText := by
  rw [Files.status] at h
  split at h
  · cases h
  · cases h
  · cases h
    rfl

theorem fails_of_status {path : Text} (hp : source.path? = some p)
    (h : fs.status p = .error path) : source.Fails fs category (.nameTooLong path) := by
  obtain rfl := toText_of_status h
  exact .nameTooLong hp h

theorem fails_of_loadFile (hp : source.path? = some p) (h : loadFile fs p = .error err) :
    source.Fails fs category err := by
  rw [loadFile] at h
  split at h
  · rename_i hstatus
    cases h
    exact fails_of_status hp hstatus
  · split at h
    · rename_i text hread
      exact fails_of_textFails (.file hp hread) (.path hp) (textFails_of_loadText h)
    · rename_i hread
      cases h
      obtain ⟨what, rfl⟩ | ⟨text, htext, -⟩ := fileFails_of_read hread
      · exact .malformed what (.path hp)
      · rw [htext] at hread
        cases hread
  · cases h
    exact .malformed _ (.path hp)

theorem fails_of_loadDirectory (hp : source.path? = some p)
    (h : loadDirectory fs p category = .error err) : source.Fails fs category err := by
  rw [loadDirectory] at h
  split at h
  · rename_i hstatus
    cases h
    exact fails_of_status hp hstatus
  · rename_i hstatus
    split at h
    · cases h
      exact .malformed _ (.path hp)
    · cases ha : addFiles fs [] (dataFiles fs p category) with
      | error e =>
        rw [ha] at h
        cases h
        obtain ⟨file, hfile, ⟨what, rfl⟩ | ⟨text, hread, htext⟩⟩ := fileFails_of_addFiles ha
        · exact .malformed what (.dataFile hp hstatus hfile)
        · exact fails_of_textFails (.dataFile hp hstatus hfile hread)
            (.dataFile hp hstatus hfile) htext
      | ok rows =>
        obtain ⟨t, ht⟩ := exists_table_of_addFiles p.toText ha
        rw [ha] at h
        dsimp only at h
        rw [ht] at h
        cases h
  · cases h
    exact .malformed _ (.path hp)

theorem fails_of_loadPath (hp : source.path? = some p)
    (h : loadPath fs p category = .error err) : source.Fails fs category err := by
  rw [loadPath] at h
  split at h
  · rename_i hstatus
    cases h
    exact fails_of_status hp hstatus
  · exact fails_of_loadDirectory hp h
  · exact fails_of_loadFile hp h

end Paths

theorem fails_of_load (h : load fs source category = .error err) :
    source.Fails fs category err := by
  cases source with
  | items vs =>
    obtain ⟨what, rfl⟩ | ⟨e, he, rfl⟩ := loadItems_error_cases h
    · exact .malformed what (.items vs)
    · exact .reference (.items vs) he
  | path p => exact fails_of_loadPath rfl h
  | text t =>
    rw [load] at h
    split_ifs at h with hdata
    · exact fails_of_textFails (.text hdata) (.text hdata) (textFails_of_loadText h)
    · have hpath : (Source.text t).path? = some (.ofText t) := by rw [Source.path?, if_neg hdata]
      exact fails_of_loadPath hpath h
  | other kind =>
    cases h
    exact .unsupported rfl

end Load

end TokenIndex
