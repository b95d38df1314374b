import TokenIndex.Proofs.Load.Directory
import TokenIndex.Proofs.Reference.Outcome

namespace TokenIndex

open Shape (Accepted Reads ReadsItem)

/-- Texts in a value, which may be an array of arrays. -/
inductive Value.Has (t : Text) : Value → Prop
  | text : Has t (.text t)
  | array {vs : List Value} {v : Value} : v ∈ vs → Has t v → Has t (.array vs)

namespace Value

variable {t : Text}

@[simp] theorem has_text_iff {s : Text} : (Value.text s).Has t ↔ t = s := by
  constructor
  · rintro ⟨⟩
    rfl
  · rintro rfl
    exact .text

@[simp] theorem has_array_iff {vs : List Value} : (Value.array vs).Has t ↔ ∃ v ∈ vs, v.Has t := by
  constructor
  · rintro (_ | ⟨hv, h⟩)
    exact ⟨_, hv, h⟩
  · rintro ⟨v, hv, h⟩
    exact .array hv h

@[simp] theorem not_has_int (i : Int) : ¬(Value.int i).Has t := nofun

end Value

namespace Source

/-- The path that a source names, unless it holds the data itself. -/
def path? : Source → Option Path
  | .path p => some p
  | .text t => if isData t then none else some (.ofText t)
  | _ => none

/-- The lists of items that a source holds, or that stand in the files it leads to. -/
inductive Lists (fs : Files) (category : Text) : Source → List (List Value) → Prop
  | items (vs : List Value) : Lists fs category (.items vs) [vs]
  | text {t : Text} {vs : List Value} : isData t = true → Literal.parse t = .ok vs →
      Lists fs category (.text t) [vs]
  | file {source : Source} {p : Path} {vs : List Value} : source.path? = some p →
      Load.Spells fs p vs → Lists fs category source [vs]
  | directory {source : Source} {p : Path} {lists : List (List Value)} : source.path? = some p →
      Load.Spelled fs p category lists → Lists fs category source lists

/-- No text in the data of a source has a surrogate in it. -/
def Plain (fs : Files) (category : Text) (source : Source) : Prop :=
  ∀ lists, source.Lists fs category lists →
    ∀ text, (Value.array lists.flatten).Has text → text.hasSurrogate = false

end Source

namespace Load

variable {fs : Files} {category : Text} {source : Source} {t : Table}

theorem load_of_path {p : Path} (h : source.path? = some p) :
    load fs source category = loadPath fs p category := by
  cases source with
  | path => cases h; rfl
  | text t =>
    rw [Source.path?] at h
    split_ifs at h with hdata
    cases h
    rw [load, if_neg hdata]
  | items => cases h
  | other => cases h

theorem exists_of_loadText {name text : Text} (h : loadText name text = .ok t) :
    ∃ vs, Literal.parse text = .ok vs := by
  rw [loadText, parse] at h
  cases hparse : Literal.parse text with
  | ok vs => exact ⟨vs, rfl⟩
  | error e =>
    rw [hparse] at h
    cases e <;> cases h

theorem loads_loadText (name : Text) {text : Text} {vs : List Value}
    (h : Literal.parse text = .ok vs) : Loads vs (loadText name text) := by
  rw [loadText, parse, h]
  exact loads_loadItems name vs

theorem exists_spells_of_addFile {before out : List Row} {file : Path}
    (h : addFile fs before file = .ok out) : ∃ vs, Spells fs file vs := by
  rw [addFile] at h
  cases hread : read fs file with
  | error e => rw [hread] at h; cases h
  | ok text =>
    rw [hread] at h
    dsimp only at h
    cases hparse : Literal.parse text with
    | ok vs => exact ⟨vs, text, hread, hparse⟩
    | error e =>
      rw [rows, parse, hparse] at h
      cases e <;> cases h

theorem exists_spells_of_addFiles {before out : List Row} {files : List Path}
    (h : addFiles fs before files = .ok out) : ∃ lists, List.Forall₂ (Spells fs) files lists := by
  induction files generalizing before with
  | nil => exact ⟨[], .nil⟩
  | cons file files ih =>
    rw [addFiles] at h
    cases ha : addFile fs before file with
    | error e => rw [ha] at h; cases h
    | ok rows =>
      rw [ha] at h
      obtain ⟨vs, hvs⟩ := exists_spells_of_addFile ha
      obtain ⟨lists, hlists⟩ := ih h
      exact ⟨vs :: lists, .cons hvs hlists⟩

theorem exists_spelled {p : Path} (h : loadDirectory fs p category = .ok t) :
    ∃ lists, Spelled fs p category lists := by
  rw [loadDirectory] at h
  split at h
  · cases h
  · rename_i hstatus
    split at h
    · cases h
    · rename_i files hne
      cases ha : addFiles fs [] (dataFiles fs p category) with
      | error e => rw [ha] at h; cases h
      | ok rows =>
        obtain ⟨lists, hlists⟩ := exists_spells_of_addFiles ha
        refine ⟨lists, hstatus, ?_, hlists⟩
        rintro rfl
        exact hne (List.forall₂_nil_right_iff.1 hlists)
  · cases h

theorem exists_spells {p : Path} (h : loadFile fs p = .ok t) : ∃ vs, Spells fs p vs := by
  rw [loadFile] at h
  split at h
  · cases h
  · split at h
    · rename_i text hread
      obtain ⟨vs, hparse⟩ := exists_of_loadText h
      exact ⟨vs, text, hread, hparse⟩
    · cases h
  · cases h

theorem exists_lists_of_path {p : Path} (hp : source.path? = some p)
    (h : loadPath fs p category = .ok t) : ∃ lists, source.Lists fs category lists := by
  rw [loadPath] at h
  split at h
  · cases h
  · obtain ⟨lists, hlists⟩ := exists_spelled h
    exact ⟨lists, .directory hp hlists⟩
  · obtain ⟨vs, hvs⟩ := exists_spells h
    exact ⟨[vs], .file hp hvs⟩

theorem exists_lists (h : load fs source category = .ok t) :
    ∃ lists, source.Lists fs category lists := by
  cases source with
  | items vs => exact ⟨[vs], .items vs⟩
  | path p => exact exists_lists_of_path rfl h
  | text t =>
    rw [load] at h
    split_ifs at h with hdata
    · obtain ⟨vs, hvs⟩ := exists_of_loadText h
      exact ⟨[vs], .text hdata hvs⟩
    · have hpath : (Source.text t).path? = some (.ofText t) := by rw [Source.path?, if_neg hdata]
      exact exists_lists_of_path hpath h
  | other => cases h

theorem exists_file_of_read {p : Path} {text : Text} (h : read fs p = .ok text) :
    ∃ bytes, fs.status p = .ok (some (.file bytes)) := by
  rw [read, Files.read] at h
  cases hstatus : fs.status p with
  | error e => rw [hstatus] at h; cases h
  | ok node =>
    rw [hstatus] at h
    rcases node with _ | bytes | _
    · cases h
    · exact ⟨bytes, rfl⟩
    · cases h

theorem load_of_read {p : Path} {text : Text} (hp : source.path? = some p)
    (h : read fs p = .ok text) : load fs source category = loadText p.toText text := by
  obtain ⟨bytes, hstatus⟩ := exists_file_of_read h
  rw [load_of_path hp, loadPath, hstatus]
  dsimp only
  rw [loadFile, hstatus]
  dsimp only
  rw [h]

theorem loads_load {lists : List (List Value)} (h : source.Lists fs category lists) :
    Loads lists.flatten (load fs source category) := by
  cases h with
  | items vs =>
    rw [List.flatten_singleton]
    exact loads_loadItems _ vs
  | text hdata hparse =>
    rw [List.flatten_singleton, load, if_pos hdata]
    exact loads_loadText _ hparse
  | file hp hspells =>
    obtain ⟨text, hread, hparse⟩ := hspells
    rw [List.flatten_singleton, load_of_read hp hread]
    exact loads_loadText _ hparse
  | directory hp hspelled =>
    rw [load_of_path hp, loadPath, hspelled.directory]
    exact hspelled.loads

theorem exists_accepted (h : load fs source category = .ok t) :
    ∃ lists rows, source.Lists fs category lists ∧ Accepted lists.flatten rows ∧
      t.rows.Perm rows := by
  obtain ⟨lists, hlists⟩ := exists_lists h
  have hloads := loads_load hlists
  rw [h] at hloads
  obtain ⟨rows, hrows, hperm⟩ := hloads
  exact ⟨lists, rows, hlists, hrows, hperm⟩

theorem exists_mem_of_forall₂ {α β : Type} {R : α → β → Prop} {l : List α} {m : List β} {b : β}
    (h : List.Forall₂ R l m) (hb : b ∈ m) : ∃ a ∈ l, R a b := by
  induction h with
  | nil => cases hb
  | cons hr _ ih =>
    rcases List.mem_cons.1 hb with rfl | hb
    · exact ⟨_, List.mem_cons_self, hr⟩
    · obtain ⟨a, ha, hab⟩ := ih hb
      exact ⟨a, List.mem_cons_of_mem _ ha, hab⟩

theorem exists_item {items : List Value} {rows : List Row} {token : Text}
    (h : Accepted items rows) (hperm : t.rows.Perm rows) (htoken : token ∈ t.tokens) :
    ∃ item ∈ items, ReadsItem item (token, t.lookup token) := by
  obtain ⟨⟨_, entries⟩, hrow, rfl⟩ := List.mem_map.1 htoken
  rw [Table.lookup_of_mem hrow]
  exact exists_mem_of_forall₂ h.reads (hperm.mem_iff.1 hrow)

/-- An item with this token and, as it is written, this label. -/
def Listed (items : List Value) (token label : Text) : Prop :=
  ∃ raws, .array [.text token, .array (.text label :: raws)] ∈ items

theorem exists_label {item : Value} {token : Text} {entries : List Entry}
    (h : ReadsItem item (token, entries)) :
    ∃ label raws, item = .array [.text token, .array (.text label :: raws)] ∧
      token ≠ [] ∧ label ≠ [] ∧ ∀ e ∈ entries,
        Reference.resolve label = .ok e.label ∧ e.locator ≠ [] := by
  obtain @⟨_, label, resolved, raws, _, htoken, hlabel, -, hr, hes⟩ := h
  refine ⟨label, raws, rfl, htoken, hlabel, ?_⟩
  intro e he
  obtain ⟨raw, -, hraw⟩ := exists_mem_of_forall₂ hes he
  obtain ⟨more, hlocator, -, -⟩ := hraw
  exact ⟨hr, hlocator⟩

/-- In a table that was loaded no token is empty, no locator is, and no label is as it was written.
The label of an entry is the written one with its references resolved, and that is empty exactly if
the written one holds nothing but references to dropped characters. -/
theorem label_empty_iff_vanishes (h : load fs source category = .ok t) :
    ∃ lists, source.Lists fs category lists ∧
      ∀ token ∈ t.tokens, token ≠ [] ∧ t.lookup token ≠ [] ∧
        ∃ label, Listed lists.flatten token label ∧ label ≠ [] ∧
          ∀ e ∈ t.lookup token, e.locator ≠ [] ∧ Reference.resolve label = .ok e.label ∧
            (e.label = [] ↔ Reference.Vanishes label) := by
  obtain ⟨lists, rows, hlists, hrows, hperm⟩ := exists_accepted h
  refine ⟨lists, hlists, fun token htoken => ?_⟩
  obtain ⟨item, hitem, hreads⟩ := exists_item hrows hperm htoken
  obtain ⟨label, raws, rfl, hne, hlabel, hentries⟩ := exists_label hreads
  refine ⟨hne, hreads.ne_nil, label, ⟨raws, hitem⟩, hlabel, fun e he => ?_⟩
  obtain ⟨hr, hlocator⟩ := hentries e he
  refine ⟨hlocator, hr, ?_⟩
  rw [← Reference.resolve_eq_nil_iff, hr, Except.ok.injEq]

/-- An item with one entry. -/
def oneEntry (token label locator scope : Text) : Value :=
  .array [.text token, .array [.text label, .array [.text locator, .int 1, .text scope]]]

theorem exists_load_oneEntry (fs : Files) (category : Text) {token label locator resolved : Text}
    (htoken : token ≠ []) (hlabel : label ≠ []) (hlocator : locator ≠ [])
    (hr : Reference.resolve label = .ok resolved) :
    ∃ t, load fs (.items [oneEntry token label locator []]) category = .ok t ∧
      t.rows = [(token, [⟨resolved, locator, [], true⟩])] := by
  have hscope : Reference.resolve [] = .ok [] := Reference.resolve_eq_nil_iff.2 .nil
  have hentry : Reads resolved (.array [.text locator, .int 1, .text []])
      ⟨resolved, locator, [], true⟩ := .mk [] hlocator (.int 1) hscope
  have hitem : ReadsItem (oneEntry token label locator [])
      (token, [⟨resolved, locator, [], true⟩]) :=
    .mk htoken hlabel (List.cons_ne_nil _ _) hr (.cons hentry .nil)
  have hrows : Accepted [oneEntry token label locator []]
      [(token, [⟨resolved, locator, [], true⟩])] := ⟨.cons hitem .nil, by simp⟩
  have hloads : Loads [oneEntry token label locator []] _ :=
    loads_loadItems Source.itemsName [oneEntry token label locator []]
  obtain ⟨t, ht⟩ := hloads.exists_ok_iff.2 ⟨_, hrows⟩
  rw [ht] at hloads
  obtain ⟨rows', hrows', hperm⟩ := hloads
  rw [hrows'.unique hrows] at hperm
  exact ⟨t, ht, List.perm_singleton.1 hperm⟩

theorem vanishes_control : Reference.Vanishes "&#1;" := by
  have hone : Reference.Numeral "1" (Text.convertDigits [1]) :=
    .decimal ⟨List.cons_ne_nil _ _, List.all_eq_true.1 (by decide)⟩
  rw [Text.convertDigits, if_neg (by decide)] at hone
  exact .reference hone (by decide) .semicolon .nil

theorem label_empty_iff_vanishes_control : ∃ t lists label,
    load (.empty []) (.items [oneEntry "a" "&#1;" "x.html" []]) "all" = .ok t ∧
      t.lookup "a" = [⟨[], "x.html", [], true⟩] ∧
      Source.Lists (.empty []) "all" (.items [oneEntry "a" "&#1;" "x.html" []]) lists ∧
      Listed lists.flatten "a" label ∧ label ≠ [] ∧ Reference.Vanishes label := by
  have htoken : Text.ofString "a" ≠ [] := List.cons_ne_nil _ _
  have hlabel : Text.ofString "&#1;" ≠ [] := List.cons_ne_nil _ _
  have hlocator : Text.ofString "x.html" ≠ [] := List.cons_ne_nil _ _
  obtain ⟨t, ht, hrows⟩ := exists_load_oneEntry (.empty []) "all" htoken hlabel hlocator
    (Reference.resolve_eq_nil_iff.2 vanishes_control)
  have hmem : (Text.ofString "a", [⟨[], "x.html", [], true⟩]) ∈ t.rows :=
    hrows ▸ List.mem_cons_self
  have hlookup := Table.lookup_of_mem hmem
  obtain ⟨lists, hlists, hfields⟩ := label_empty_iff_vanishes ht
  obtain ⟨-, -, label, hlisted, hne, hentries⟩ := hfields _ (List.mem_map_of_mem hmem)
  rw [hlookup] at hentries
  obtain ⟨-, -, hiff⟩ := hentries _ List.mem_cons_self
  exact ⟨t, lists, label, ht, hlookup, hlists, hlisted, hne, hiff.1 rfl⟩

end Load

end TokenIndex
