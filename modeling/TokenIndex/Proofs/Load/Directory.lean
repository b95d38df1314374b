import TokenIndex.Proofs.DataFile
import TokenIndex.Proofs.Load.Basic
import TokenIndex.Proofs.Writer.RoundTrip

namespace TokenIndex

open Shape (Accepted rowsFrom)

namespace Load

/-- A file is read, and its text spells these items. -/
def Spells (fs : Files) (file : Path) (items : List Value) : Prop :=
  ∃ text, read fs file = .ok text ∧ Literal.parse text = .ok items

section Files

variable {fs : Files} {before out : List Row}

theorem rows_eq_ok_iff {source text : Text} {items : List Value}
    (h : Literal.parse text = .ok items) :
    rows source text = .ok out ↔ rowsFrom [] items = .ok out := by
  rw [rows, parse, h]
  exact shape_eq_ok_iff

theorem find?_token_eq_none_iff {new : List Row} :
    (new.find? fun r => before.any (·.1 == r.1)) = none ↔
      (before.map (·.1)).Disjoint (new.map (·.1)) := by
  rw [List.find?_eq_none, List.disjoint_comm]
  constructor
  · intro h token hnew hold
    obtain ⟨r, hr, rfl⟩ := List.mem_map.1 hnew
    exact absurd hold (Shape.any_token_eq_false_iff.1 (Bool.not_eq_true _ ▸ h r hr))
  · intro h r hr
    rw [Bool.not_eq_true, Shape.any_token_eq_false_iff]
    exact h (List.mem_map_of_mem hr)

theorem addFile_eq_ok_iff {file : Path} {items : List Value} (h : Spells fs file items) :
    addFile fs before file = .ok out ↔ rowsFrom before items = .ok out := by
  obtain ⟨text, hread, hparse⟩ := h
  rw [addFile, hread, Shape.rowsFrom_eq_ok_iff]
  dsimp only
  constructor
  · intro h
    cases hrows : rows file.toText text with
    | error e => rw [hrows] at h; cases h
    | ok new =>
      rw [hrows] at h
      -- the file is checked by itself first, then against the rows before
      have hnew := Shape.rowsFrom_nil_eq_ok_iff.1 ((rows_eq_ok_iff hparse).1 hrows)
      dsimp only at h
      cases hfind : new.find? fun r => before.any (·.1 == r.1) with
      | some r => rw [hfind] at h; cases h
      | none =>
        rw [hfind] at h
        cases h
        exact ⟨new, rfl, hnew.reads, hnew.distinct, find?_token_eq_none_iff.1 hfind⟩
  · rintro ⟨new, rfl, hreads, hdistinct, hdisjoint⟩
    have hnew := Shape.rowsFrom_nil_eq_ok_iff.2 ⟨hreads, hdistinct⟩
    rw [(rows_eq_ok_iff hparse).2 hnew]
    dsimp only
    rw [find?_token_eq_none_iff.2 hdisjoint]

/-- What is added file by file is what the items of all files give, one list after the other. -/
theorem addFiles_eq_ok_iff {files : List Path} {lists : List (List Value)}
    (h : List.Forall₂ (Spells fs) files lists) :
    addFiles fs before files = .ok out ↔ rowsFrom before lists.flatten = .ok out := by
  induction h generalizing before with
  | nil => simp only [addFiles, List.flatten_nil, rowsFrom, Except.ok.injEq]
  | @cons file items files lists hfile _ ih =>
    rw [List.flatten_cons, Shape.rowsFrom_append_eq_ok_iff, addFiles]
    constructor
    · intro h
      cases ha : addFile fs before file with
      | error e => rw [ha] at h; cases h
      | ok rows =>
        rw [ha] at h
        exact ⟨rows, (addFile_eq_ok_iff hfile).1 ha, ih.1 h⟩
    · rintro ⟨rows, hrows, h⟩
      rw [(addFile_eq_ok_iff hfile).2 hrows]
      exact ih.2 h

end Files

/-- A directory with data files that spell these items, list by list in their order. -/
structure Spelled (fs : Files) (dir : Path) (category : Text) (lists : List (List Value)) :
    Prop where
  directory : fs.status dir = .ok (some .directory)
  nonempty : lists ≠ []
  spells : List.Forall₂ (Spells fs) (dataFiles fs dir category) lists

theorem loadDirectory_eq {fs : Files} {dir : Path} {category : Text}
    (hdir : fs.status dir = .ok (some .directory)) (hne : dataFiles fs dir category ≠ []) :
    loadDirectory fs dir category =
      match addFiles fs [] (dataFiles fs dir category) with
      | .error e => .error e
      | .ok rows => table dir.toText rows := by
  obtain ⟨file, files, hfiles⟩ := List.exists_cons_of_ne_nil hne
  rw [loadDirectory, hdir, hfiles]
  dsimp only
  cases addFiles fs [] (file :: files) <;> rfl

theorem Spelled.loads {fs : Files} {dir : Path} {category : Text} {lists : List (List Value)}
    (h : Spelled fs dir category lists) : Loads lists.flatten (loadDirectory fs dir category) := by
  have hspells := h.spells
  have hne : dataFiles fs dir category ≠ [] := by
    intro hnil
    rw [hnil] at hspells
    exact h.nonempty (List.forall₂_nil_left_iff.1 hspells)
  rw [loadDirectory_eq h.directory hne]
  cases ha : addFiles fs [] (dataFiles fs dir category) with
  | error e =>
    -- rows of all items would have been found file by file
    intro rows hrows
    rw [(addFiles_eq_ok_iff hspells).2 (Shape.rowsFrom_nil_eq_ok_iff.2 hrows)] at ha
    cases ha
  | ok rows =>
    have hrows := (addFiles_eq_ok_iff hspells).1 ha
    exact loads_table dir.toText (Shape.rowsFrom_nil_eq_ok_iff.1 hrows)

end Load

open Load (Spelled Alike) in
/-- Loading a directory is loading one list of all items of its files. Whoever distributes the same
items over other files, or numbers them anew, gets the same table, and it has a row for each. -/
theorem loadDirectory_alike_load_flatten {fs : Files} {dir : Path} {category : Text}
    {lists : List (List Value)} (h : Spelled fs dir category lists) :
    (∀ fs' category', Alike (loadDirectory fs dir category)
      (load fs' (.items lists.flatten) category')) ∧
    (∀ t, loadDirectory fs dir category = .ok t →
      t.size = lists.flatten.length ∧
      t.entryCount = (lists.flatten.map Shape.rawCount).sum ∧
      ∃ rows, Accepted lists.flatten rows ∧ t.rows.Perm rows) ∧
    ∀ fs' dir' category' lists', Spelled fs' dir' category' lists' →
      lists'.flatten.Perm lists.flatten →
      Alike (loadDirectory fs dir category) (loadDirectory fs' dir' category') := by
  have hloads := h.loads
  refine ⟨?_, ?_, ?_⟩
  · intro fs' category'
    exact hloads.alike_of_perm (Load.loads_loadItems _ lists.flatten) (List.Perm.refl _)
  · intro t ht
    rw [ht] at hloads
    exact ⟨hloads.size_eq, hloads.entryCount_eq, hloads⟩
  · intro fs' dir' category' lists' h' hp
    exact hloads.alike_of_perm h'.loads hp

/-- Two data files, the second with the greater number. -/
def twoFiles (first second : Bytes) : Files where
  here := []
  nodes := [([("d" : Text)], .directory), ([("d" : Text), "all_10.js"], .file second),
    ([("d" : Text), "all_9.js"], .file first)]

open Writer in
theorem loadDirectory_alike_load_samples : ∃ first second t u,
    Utf8.encode (render .spaced (sample "b" (by decide))) = .ok first ∧
    Utf8.encode (render .spaced (sample "a" (by decide))) = .ok second ∧
    loadDirectory (twoFiles first second) (.ofText "/d") "all" = .ok t ∧
    load (.empty []) (.items [(sampleTopic "b" (by decide)).raw,
      (sampleTopic "a" (by decide)).raw]) "all" = .ok u ∧
    (t == u) = true ∧ t.size = 2 := by
  obtain ⟨first, hfirst, hreadFirst⟩ :=
    @exists_bytes_render .spaced (sample "b" (by decide)) (by decide)
  obtain ⟨second, hsecond, hreadSecond⟩ :=
    @exists_bytes_render .spaced (sample "a" (by decide)) (by decide)
  have hfiles : Load.dataFiles (twoFiles first second) (.ofText "/d") "all" =
      [Path.child (.ofText "/d") "all_9.js", Path.child (.ofText "/d") "all_10.js"] := by
    have hlisting : (twoFiles first second).listing (.ofText "/d") =
        [("all_10.js" : Text), "all_9.js"] := rfl
    have hsorted : DataFile.inOrder "all" ["all_10.js", "all_9.js"] =
        [("all_9.js" : Text), "all_10.js"] :=
      DataFile.inOrder_eq_map [(9, "all_9.js"), (10, "all_10.js")] (.swap _ _ _) (by decide)
    rw [Load.dataFiles, hlisting, hsorted]
    rfl
  have hspelled : Load.Spelled (twoFiles first second) (.ofText "/d") "all"
      [[(sampleTopic "b" (by decide)).raw], [(sampleTopic "a" (by decide)).raw]] := by
    refine ⟨rfl, List.cons_ne_nil _ _, ?_⟩
    rw [hfiles]
    exact .cons ⟨_, hreadFirst _ _ rfl, parse_render _ _⟩
      (.cons ⟨_, hreadSecond _ _ rfl, parse_render _ _⟩ .nil)
  obtain ⟨halike, hcounts, -⟩ := loadDirectory_alike_load_flatten hspelled
  have hboth := Index.accepted
    ⟨[sampleTopic "b" (by decide), sampleTopic "a" (by decide)], by decide⟩
  obtain ⟨u, hu⟩ := (Load.loads_loadItems Source.itemsName _).exists_ok_iff.2 ⟨_, hboth⟩
  obtain ⟨t, ht⟩ := (halike (.empty []) "all").1.2 ⟨u, hu⟩
  exact ⟨first, second, t, u, hfirst, hsecond, ht, hu, (halike (.empty []) "all").2 t u ht hu,
    (hcounts t ht).1⟩

end TokenIndex
