import TokenIndex.Proofs.DataFile
import TokenIndex.Proofs.Files
import TokenIndex.Proofs.Load.Failure

namespace TokenIndex.Load

open Files (SameBeside)

variable {fs fs' : Files} {dir file : Path} {category source : Text} {files more : List Path}
  {rows out : List Row} {err : LoadError} {what : Malformed}

theorem addFiles_congr (h : ∀ file ∈ files, read fs' file = read fs file) (rows : List Row) :
    addFiles fs' rows files = addFiles fs rows files := by
  induction files generalizing rows with
  | nil => rfl
  | cons file files ih =>
    rw [List.forall_mem_cons] at h
    have hfile : addFile fs' rows file = addFile fs rows file := by
      rw [addFile, addFile, h.1]
    rw [addFiles, addFiles, hfile]
    cases addFile fs rows file with
    | error e => rfl
    | ok rows => exact ih h.2 rows

/-- Once a file cannot be added, nothing behind it is looked at. -/
theorem addFiles_append (rows : List Row) (files more : List Path) :
    addFiles fs rows (files ++ more) =
      match addFiles fs rows files with
      | .error e => .error e
      | .ok out => addFiles fs out more := by
  induction files generalizing rows with
  | nil => rfl
  | cons file files ih =>
    rw [List.cons_append, addFiles, addFiles]
    cases addFile fs rows file with
    | error e => rfl
    | ok rows => exact ih rows

theorem exists_first (h : addFiles fs rows files = .error err) :
    ∃ before file after out, files = before ++ file :: after ∧
      addFiles fs rows before = .ok out ∧ addFile fs out file = .error err := by
  induction files generalizing rows with
  | nil => cases h
  | cons file files ih =>
    rw [addFiles] at h
    cases hfile : addFile fs rows file with
    | error e =>
      rw [hfile] at h
      cases h
      exact ⟨[], file, files, rows, rfl, rfl, hfile⟩
    | ok rows' =>
      rw [hfile] at h
      obtain ⟨before, culprit, after, out, rfl, hbefore, hculprit⟩ := ih h
      refine ⟨file :: before, culprit, after, out, rfl, ?_, hculprit⟩
      rw [addFiles, hfile]
      exact hbefore

theorem source_of_addFile (h : addFile fs rows file = .error (.malformed source what)) :
    source = file.toText := by
  obtain ⟨_, heq⟩ | ⟨text, -, htext⟩ := fileFails_of_addFile h
  · cases heq
    rfl
  · cases htext
    rfl

theorem exists_loadDirectory (hdir : fs.status dir = .ok (some .directory))
    (hne : dataFiles fs dir category ≠ [])
    (h : addFiles fs [] (dataFiles fs dir category) = .ok out) :
    ∃ t, loadDirectory fs dir category = .ok t := by
  obtain ⟨t, ht⟩ := exists_table_of_addFiles dir.toText h
  rw [loadDirectory_eq hdir hne, h]
  exact ⟨t, ht⟩

theorem loadDirectory_eq_error_iff (hdir : fs.status dir = .ok (some .directory))
    (hne : dataFiles fs dir category ≠ []) : loadDirectory fs dir category = .error err ↔
      addFiles fs [] (dataFiles fs dir category) = .error err := by
  cases ha : addFiles fs [] (dataFiles fs dir category) with
  | ok rows =>
    obtain ⟨t, ht⟩ := exists_loadDirectory hdir hne ha
    rw [ht]
    exact ⟨nofun, nofun⟩
  | error e =>
    rw [loadDirectory_eq hdir hne, ha]
    simp only [Except.error.injEq]

/-- Where the data files of a directory are, but for some of them. -/
def otherPlaces (fs : Files) (dir : Path) (category : Text) (files : List Path) : List Place :=
  ((dataFiles fs dir category).filter (· ∉ files)).map fs.placeOf

/-- The names of the others. -/
def otherNames (fs : Files) (dir : Path) (category : Text) (files : List Path) : List Text :=
  (DataFile.inOrder category (fs.listing dir)).filter (dir.child · ∉ files)

theorem otherPlaces_eq (fs : Files) (dir : Path) (category : Text) (files : List Path) :
    otherPlaces fs dir category files =
      (otherNames fs dir category files).map (fs.placeOf dir ++ [·]) := by
  rw [otherPlaces, dataFiles, List.filter_map, List.map_map]
  refine List.map_congr_left fun name hname => ?_
  obtain ⟨-, n, hn⟩ := DataFile.mem_inOrder.1 (List.mem_of_mem_filter hname)
  exact Files.placeOf_child fs dir (DataFile.ne_dots_of_number? hn)

/-- Files that come first stay first, and stay as they are, whatever becomes of the others. -/
theorem kept_of_sameBeside (hfront : files <+: dataFiles fs dir category)
    (hdir : fs.status dir = .ok (some .directory)) (hdir' : fs'.status dir = .ok (some .directory))
    (h : SameBeside (otherPlaces fs dir category files) fs fs') :
    files <+: dataFiles fs' dir category ∧ ∀ file ∈ files, read fs' file = read fs file := by
  obtain ⟨rest, hrest⟩ := hfront
  obtain ⟨kept, others, hnames, rfl, -⟩ := List.map_eq_append_iff.1 hrest.symm
  rw [otherPlaces_eq] at h
  constructor
  · refine (DataFile.prefix_inOrder hnames ?_ (h.listing hdir hdir')).map _
    intro name hname
    obtain ⟨hmem, hchild⟩ := List.mem_filter.1 hname
    have hkept : name ∉ kept := fun hk => of_decide_eq_true hchild (List.mem_map_of_mem hk)
    rw [hnames, List.mem_append] at hmem
    exact ⟨hmem.resolve_left hkept, hkept⟩
  · intro file hfile
    obtain ⟨name, hname, rfl⟩ := List.mem_map.1 hfile
    have hbeside : name ∉ otherNames fs dir category (kept.map dir.child) :=
      fun hother => of_decide_eq_true (List.mem_filter.1 hother).2 hfile
    have hstatus := h.status_child hdir hdir' (Files.beside_child_iff.2 hbeside)
    rw [read, read, Files.read, Files.read, hstatus]

theorem filter_mem_of_front (hfront : files <+: more) (hnodup : more.Nodup) :
    more.filter (· ∈ files) = files := by
  obtain ⟨rest, rfl⟩ := hfront
  obtain ⟨-, -, hdisjoint⟩ := List.nodup_append.1 hnodup
  have hself : files.filter (· ∈ files) = files :=
    List.filter_eq_self.2 fun file hfile => decide_eq_true hfile
  have hrest : rest.filter (· ∈ files) = [] := by
    refine List.filter_eq_nil_iff.2 fun file hfile hmem => ?_
    exact hdisjoint file (of_decide_eq_true hmem) file hfile rfl
  rw [List.filter_append, hself, hrest, List.append_nil]

/-- A directory that is left with some of its data files, while nothing but the others differs. -/
structure Restricts (fs : Files) (dir : Path) (category : Text) (files : List Path) (fs' : Files) :
    Prop where
  directory : fs'.status dir = .ok (some .directory)
  left : dataFiles fs' dir category = files
  same : SameBeside (otherPlaces fs dir category files) fs fs'

/-- What is left when all data files of a directory but some are removed. -/
def restrict (fs : Files) (dir : Path) (category : Text) (files : List Path) : Files :=
  ((dataFiles fs dir category).filter (· ∉ files)).foldl Files.remove fs

theorem restricts_restrict (hfront : files <+: dataFiles fs dir category)
    (hnodup : (dataFiles fs dir category).Nodup) (hdir : fs.status dir = .ok (some .directory))
    (hplaces : ∀ place ∈ otherPlaces fs dir category files, fs.node? place ≠ some .directory) :
    Restricts fs dir category files (restrict fs dir category files) := by
  have hsame := Files.sameBeside_foldl_remove
    ((dataFiles fs dir category).filter (· ∉ files)) fs
  have hdir' := hsame.status_directory hplaces hdir
  refine ⟨hdir', ?_, hsame⟩
  have hothers : (DataFile.inOrder category (fs.listing dir)).filter
      (· ∉ otherNames fs dir category files) =
        (DataFile.inOrder category (fs.listing dir)).filter (dir.child · ∈ files) := by
    refine List.filter_congr fun name hname => decide_eq_decide.2 ?_
    simp [otherNames, hname]
  have hlisting :=
    Files.listing_foldl_remove (otherPlaces_eq fs dir category files) hdir hdir'
  rw [restrict, dataFiles, hlisting, DataFile.inOrder_filter, hothers]
  have hfilter := filter_mem_of_front hfront hnodup
  rwa [dataFiles, List.filter_map] at hfilter

/-- Of the data files of a directory that is not loaded, the first is blamed that cannot be added to
those before it. With none but those before it the directory is loaded. What becomes of those behind
it does not change the error, as long as the path leads to a directory; and that it does, unless one
of them is a directory itself. -/
theorem loadDirectory_blames_first (hdir : fs.status dir = .ok (some .directory))
    (hne : dataFiles fs dir category ≠ [])
    (h : loadDirectory fs dir category = .error (.malformed source what)) :
    ∃ before file after, dataFiles fs dir category = before ++ file :: after ∧
      source = file.toText ∧
      (before = [] ∨ ∀ fs', Restricts fs dir category before fs' →
        ∃ t, loadDirectory fs' dir category = .ok t) ∧
      ∀ fs', SameBeside (otherPlaces fs dir category (before ++ [file])) fs fs' →
        (fs'.status dir = .ok (some .directory) ∨
          ∀ place ∈ otherPlaces fs dir category (before ++ [file]),
            fs.node? place ≠ some .directory) →
        loadDirectory fs' dir category = .error (.malformed source what) := by
  have ha := (loadDirectory_eq_error_iff hdir hne).1 h
  obtain ⟨before, file, after, out, hfiles, hbefore, hfile⟩ := exists_first ha
  refine ⟨before, file, after, hfiles, source_of_addFile hfile, ?_, ?_⟩
  · by_cases hnil : before = []
    · exact .inl hnil
    refine .inr fun fs' hfs' => ?_
    obtain ⟨hdir', hleft, hsame⟩ := hfs'
    have hfront : before <+: dataFiles fs dir category := ⟨_, hfiles.symm⟩
    obtain ⟨-, hread⟩ := kept_of_sameBeside hfront hdir hdir' hsame
    have hadded : addFiles fs' [] (dataFiles fs' dir category) = .ok out := by
      rw [hleft, addFiles_congr hread, hbefore]
    exact exists_loadDirectory hdir' (hleft ▸ hnil) hadded
  · intro fs' hsame hleads
    have hdir' : fs'.status dir = .ok (some .directory) :=
      hleads.elim id fun hplaces => hsame.status_directory hplaces hdir
    have hfront : before ++ [file] <+: dataFiles fs dir category :=
      ⟨after, by rw [hfiles, List.append_assoc, List.singleton_append]⟩
    obtain ⟨⟨more, hmore⟩, hread⟩ := kept_of_sameBeside hfront hdir hdir' hsame
    have hne' : dataFiles fs' dir category ≠ [] := by
      rw [← hmore]
      simp
    have hblamed : addFiles fs [] (before ++ [file]) = .error (.malformed source what) := by
      rw [addFiles_append, hbefore]
      dsimp only
      rw [addFiles, hfile]
    rw [loadDirectory_eq_error_iff hdir' hne', ← hmore, addFiles_append, addFiles_congr hread,
      hblamed]

/-- A good data file, one with a bad text, and another behind it. -/
def threeFiles : Files where
  here := []
  nodes := [([("d" : Text)], .directory), ([("d" : Text), "all_10.js"], .file [0x79]),
    ([("d" : Text), "all_1.js"], .file [0x5B, 0x5D]), ([("d" : Text), "all_2.js"], .file [0x78])]

theorem dataFiles_threeFiles : dataFiles threeFiles (.ofText "/d") "all" =
    [.child (.ofText "/d") "all_1.js", .child (.ofText "/d") "all_2.js",
      .child (.ofText "/d") "all_10.js"] := by
  have hlisting : threeFiles.listing (.ofText "/d") =
      [("all_10.js" : Text), "all_1.js", "all_2.js"] := rfl
  have hsorted : DataFile.inOrder "all" ["all_10.js", "all_1.js", "all_2.js"] =
      [("all_1.js" : Text), "all_2.js", "all_10.js"] :=
    DataFile.inOrder_eq_map [(1, "all_1.js"), (2, "all_2.js"), (10, "all_10.js")]
      (@List.perm_append_comm _ [_] [_, _]) (by decide)
  rw [dataFiles, hlisting, hsorted]
  rfl

theorem status_threeFiles : threeFiles.status (.ofText "/d") = .ok (some .directory) := rfl

theorem restricts_threeFiles (files : List Path)
    (hfront : files <+: dataFiles threeFiles (.ofText "/d") "all") :
    Restricts threeFiles (.ofText "/d") "all" files
      (restrict threeFiles (.ofText "/d") "all" files) := by
  have hnodup : (dataFiles threeFiles (.ofText "/d") "all").Nodup := by
    rw [dataFiles_threeFiles]
    decide
  have hnodes : ∀ file ∈ dataFiles threeFiles (.ofText "/d") "all",
      threeFiles.node? (threeFiles.placeOf file) ≠ some .directory := by
    rw [dataFiles_threeFiles]
    decide
  refine restricts_restrict hfront hnodup status_threeFiles fun place hplace => ?_
  obtain ⟨file, hfile, rfl⟩ := List.mem_map.1 hplace
  exact hnodes file (List.mem_of_mem_filter hfile)

theorem loadDirectory_blames_first_second :
    (∃ t, loadDirectory (restrict threeFiles (.ofText "/d") "all"
      [.child (.ofText "/d") "all_1.js"]) (.ofText "/d") "all" = .ok t) ∧
    loadDirectory (restrict threeFiles (.ofText "/d") "all"
      [.child (.ofText "/d") "all_1.js", .child (.ofText "/d") "all_2.js"]) (.ofText "/d") "all" =
        .error (.malformed "/d/all_2.js" (.literal .expectedBracket 0)) := by
  have hfiles := dataFiles_threeFiles
  have hgood : addFile threeFiles [] (.child (.ofText "/d") "all_1.js") = .ok [] := by
    rw [addFile, read_of_encoded (t := "[]") (Utf8.encode_eq_ok (by decide)) rfl]
    cbv
  have hbad : addFile threeFiles [] (.child (.ofText "/d") "all_2.js") =
      .error (.malformed "/d/all_2.js" (.literal .expectedBracket 0)) := by
    rw [addFile, read_of_encoded (t := "x") (Utf8.encode_eq_ok (by decide)) rfl]
    cbv
  have hload : loadDirectory threeFiles (.ofText "/d") "all" =
      .error (.malformed "/d/all_2.js" (.literal .expectedBracket 0)) := by
    rw [loadDirectory, status_threeFiles]
    dsimp only
    rw [dataFiles_threeFiles]
    dsimp only
    rw [addFiles, hgood]
    dsimp only
    rw [addFiles, hbad]
  have hne : dataFiles threeFiles (.ofText "/d") "all" ≠ [] := by
    rw [hfiles]
    exact List.cons_ne_nil _ _
  obtain ⟨before, file, after, hsplit, hsource, hbefore, hchange⟩ :=
    loadDirectory_blames_first status_threeFiles hne hload
  rw [hfiles] at hsplit
  obtain ⟨rfl, rfl⟩ : before = [.child (.ofText "/d") "all_1.js"] ∧
      file = .child (.ofText "/d") "all_2.js" := by
    rcases before with _ | ⟨a, _ | ⟨b, _ | ⟨c, before⟩⟩⟩
    · obtain ⟨rfl, -⟩ := List.cons.inj hsplit
      exact absurd hsource (by decide)
    · obtain ⟨rfl, hrest⟩ := List.cons.inj hsplit
      exact ⟨rfl, (List.cons.inj hrest).1.symm⟩
    · obtain ⟨-, hrest⟩ := List.cons.inj hsplit
      obtain ⟨rfl, -⟩ := List.cons.inj (List.cons.inj hrest).2
      exact absurd hsource (by decide)
    · simp at hsplit
  have hone : [.child (.ofText "/d") "all_1.js"] <+: dataFiles threeFiles (.ofText "/d") "all" := by
    rw [hfiles]
    exact ⟨_, rfl⟩
  have htwo : [.child (.ofText "/d") "all_1.js", .child (.ofText "/d") "all_2.js"] <+:
      dataFiles threeFiles (.ofText "/d") "all" := by
    rw [hfiles]
    exact ⟨_, rfl⟩
  have hthird := restricts_threeFiles _ htwo
  exact ⟨hbefore.resolve_left (List.cons_ne_nil _ _) _ (restricts_threeFiles _ hone),
    hchange _ hthird.same (.inl hthird.directory)⟩

/-- A directory that is reached through one of its own data files, which is a directory too. -/
def throughFiles : Files where
  here := []
  nodes := [([("d" : Text)], .directory), ([("d" : Text), "all_1.js"], .file [0x78]),
    ([("d" : Text), "all_5.js"], .directory)]

/-- Without the second file there is no way to the directory, and the error is another one. -/
theorem loadDirectory_blames_lost :
    throughFiles.status (.ofText "d/all_5.js/..") = .ok (some .directory) ∧
    loadDirectory throughFiles (.ofText "d/all_5.js/..") "all" =
      .error (.malformed "d/all_5.js/../all_1.js" (.literal .expectedBracket 0)) ∧
    ¬∃ before file after,
      dataFiles throughFiles (.ofText "d/all_5.js/..") "all" = before ++ file :: after ∧
      file.toText = Text.ofString "d/all_5.js/../all_1.js" ∧
      ∀ later ∈ after,
        loadDirectory (throughFiles.remove later) (.ofText "d/all_5.js/..") "all" =
          .error (.malformed "d/all_5.js/../all_1.js" (.literal .expectedBracket 0)) := by
  have hfiles : dataFiles throughFiles (.ofText "d/all_5.js/..") "all" =
      [.child (.ofText "d/all_5.js/..") "all_1.js",
        .child (.ofText "d/all_5.js/..") "all_5.js"] := by
    have hlisting : throughFiles.listing (.ofText "d/all_5.js/..") =
        [("all_1.js" : Text), "all_5.js"] := rfl
    have hsorted : DataFile.inOrder "all" ["all_1.js", "all_5.js"] =
        [("all_1.js" : Text), "all_5.js"] :=
      DataFile.inOrder_eq_map [(1, "all_1.js"), (5, "all_5.js")] (.refl _) (by decide)
    rw [dataFiles, hlisting, hsorted]
    rfl
  have hstatus : throughFiles.status (.ofText "d/all_5.js/..") = .ok (some .directory) := rfl
  have hbad : addFile throughFiles [] (.child (.ofText "d/all_5.js/..") "all_1.js") =
      .error (.malformed "d/all_5.js/../all_1.js" (.literal .expectedBracket 0)) := by
    rw [addFile, read_of_encoded (t := "x") (Utf8.encode_eq_ok (by decide)) rfl]
    cbv
  have hload : loadDirectory throughFiles (.ofText "d/all_5.js/..") "all" =
      .error (.malformed "d/all_5.js/../all_1.js" (.literal .expectedBracket 0)) := by
    rw [loadDirectory, hstatus]
    dsimp only
    rw [hfiles]
    dsimp only
    rw [addFiles, hbad]
  have hlost : loadDirectory (throughFiles.remove (.child (.ofText "d/all_5.js/..") "all_5.js"))
      (.ofText "d/all_5.js/..") "all" =
        .error (.malformed "d/all_5.js/.." .directoryNotFound) := rfl
  refine ⟨hstatus, hload, ?_⟩
  rintro ⟨before, file, after, hsplit, hsource, hlater⟩
  rw [hfiles] at hsplit
  rcases before with _ | ⟨a, _ | ⟨b, before⟩⟩
  · obtain ⟨-, rfl⟩ := List.cons.inj hsplit
    have hsame := hlater _ List.mem_cons_self
    rw [hlost] at hsame
    simp at hsame
  · obtain ⟨rfl, -⟩ := List.cons.inj (List.cons.inj hsplit).2
    exact absurd hsource (by decide)
  · simp at hsplit

end TokenIndex.Load
