import TokenIndex.Proofs.Exchange.Basic
import TokenIndex.Proofs.Literal.Stretch
import TokenIndex.Proofs.Table.Views

namespace TokenIndex

open Environment (IsArgument)
open Literal.Grammar (Blanks Assignment)

namespace Source

/-- A text that begins like search data: with a bracket, or with an assignment. -/
inductive Opens : Text → Prop
  | bracket {w r : Text} : Blanks w → Opens (w ++ ('[' : CodePoint) :: r)
  | assignment {a r : Text} : Assignment a → Opens (a ++ r)

theorem isData_iff {t : Text} : isData t = true ↔ Opens t := by
  rw [isData, Bool.or_eq_true, Option.isSome_iff_exists, Text.startsWith_iff]
  constructor
  · rintro (⟨rest, ha⟩ | ⟨r, hr⟩)
    · obtain ⟨a, rfl, has⟩ := Literal.afterAssignment?_sound ha
      exact .assignment has
    · obtain ⟨w, ht, hw⟩ := Literal.exists_blanks t
      rw [ht, ← hr]
      exact .bracket hw
  · rintro (@⟨w, r, hw⟩ | ⟨ha⟩)
    · have hb : Text.Ends CodePoint.isBlank (('[' : CodePoint) :: r) :=
        Text.ends_cons.2 (by decide)
      rw [Literal.dropBlank_blanks hw hb]
      exact .inr ⟨r, rfl⟩
    · exact .inl ⟨_, Literal.afterAssignment?_complete ha _⟩

theorem Opens.head {t : Text} (h : Opens t) :
    ∃ c r, t = c :: r ∧ (c.isBlank = true ∨ c = '[' ∨ c = 'v') := by
  have hlead {w s : Text} {c : CodePoint} (hw : Blanks w) (hc : c = '[' ∨ c = 'v') :
      ∃ d r, w ++ c :: s = d :: r ∧ (d.isBlank = true ∨ d = '[' ∨ d = 'v') := by
    cases w with
    | nil => exact ⟨c, s, rfl, .inr hc⟩
    | cons d w => exact ⟨d, w ++ c :: s, rfl, .inl (hw d List.mem_cons_self)⟩
  cases h with
  | bracket hw => exact hlead hw (.inl rfl)
  | assignment ha =>
    obtain ⟨hw⟩ := ha
    simp only [List.append_assoc]
    exact hlead hw (.inr rfl)

end Source

section Source

variable {fs : Files} {name text category : Text} {t : Table} {p : Path}

theorem source_of_table {rows : List Row} (h : Load.table name rows = .ok t) : t.source = name := by
  rw [Load.table] at h
  split at h
  · rename_i hrows
    cases h
    exact (Table.rows_of_ofRows hrows).1
  · cases h

theorem source_of_loadText (h : loadText name text = .ok t) : t.source = name := by
  rw [loadText] at h
  split at h
  · rw [loadItems] at h
    split at h
    · exact source_of_table h
    · cases h
  · cases h

theorem source_of_loadFile (h : loadFile fs p = .ok t) : t.source = p.toText := by
  rw [loadFile] at h
  split at h
  · cases h
  · split at h
    · exact source_of_loadText h
    · cases h
  · cases h

theorem source_of_loadDirectory (h : loadDirectory fs p category = .ok t) :
    t.source = p.toText := by
  rw [loadDirectory] at h
  split at h
  · cases h
  · split at h
    · cases h
    · split at h
      · exact source_of_table h
      · cases h
  · cases h

theorem source_of_loadPath (h : loadPath fs p category = .ok t) : t.source = p.toText := by
  rw [loadPath] at h
  split at h
  · cases h
  · exact source_of_loadDirectory h
  · exact source_of_loadFile h

end Source

section Opens

variable {fs : Files} {category t : Text} {node : Node}

theorem exists_cons_of_names {c : CodePoint} {part name : Text} {parts : List Text}
    (h : (Source.path ⟨.relative, (c :: part) :: parts⟩).Names fs category name) :
    ∃ rest, name = c :: rest := by
  cases h with
  | path hp =>
    cases hp
    exact Path.exists_toText_cons c part parts
  | dataFile hp _ hfile =>
    cases hp
    obtain ⟨below, -, rfl⟩ := List.mem_map.1 hfile
    exact Path.exists_toText_cons c part (parts ++ [below])

theorem exists_malformed_of_loadText {name : Text} {err : LoadError}
    (h : fs.status (.ofText t) = .ok (some node)) (herr : loadText name t = .error err) :
    ∃ what, err = .malformed name what := by
  have hshort {n : Nat} (hlong : TooManyDigits.limit < n) (hn : t.Unbroken n) : False := by
    have hle := Files.unbroken_le h hn
    have hbounds : longestPath ≤ TooManyDigits.limit := by decide
    omega
  cases Load.textFails_of_loadText herr with
  | malformed what => exact ⟨what, rfl⟩
  | number hrun => exact (hshort hrun.long hrun.unbroken).elim
  | reference hparse he =>
    obtain ⟨text, run, htext, hrun, -⟩ := he
    exact (hshort hrun.long (Literal.unbroken_of_parse hparse htext hrun.unbroken)).elim

theorem load_text_ne_load_path (h : fs.status (.ofText t) = .ok (some node))
    (hopens : Source.Opens t) :
    load fs (.text t) category ≠ load fs (.path (.ofText t)) category := by
  have hload : load fs (.text t) category = loadText Source.textName t := by
    rw [load, if_pos (Source.isData_iff.2 hopens)]
  obtain ⟨c, r, rfl, hc⟩ := hopens.head
  have hfirst : c ≠ '/' ∧ c ≠ '.' ∧ c ≠ '<' := by
    refine ⟨?_, ?_, ?_⟩ <;> (rintro rfl; revert hc; decide)
  obtain ⟨part, parts, hpath⟩ := Path.exists_ofText_cons hfirst.1 hfirst.2.1 r
  -- the one goes by the name of a string, the other by names that begin as the text does
  have hname {rest : Text} (hrest : Source.textName = c :: rest) : False :=
    hfirst.2.2 (List.cons.inj hrest).1.symm
  rw [hload]
  intro heq
  cases hl : loadText Source.textName (c :: r) with
  | ok u =>
    obtain ⟨rest, hrest⟩ := Path.exists_toText_cons c part parts
    have hsource := source_of_loadPath (heq.symm.trans hl)
    rw [hpath, source_of_loadText hl, hrest] at hsource
    exact hname hsource
  | error err =>
    obtain ⟨what, rfl⟩ := exists_malformed_of_loadText h hl
    have hfails := Load.fails_of_load (heq.symm.trans hl)
    rw [hpath] at hfails
    cases hfails with
    | malformed _ hnames =>
      obtain ⟨rest, hrest⟩ := exists_cons_of_names hnames
      exact hname hrest

end Opens

theorem not_opens_led (t : Text) : ¬Source.Opens (Path.led t) := by
  intro h
  obtain ⟨c, r, hr, hc⟩ := h.head
  obtain ⟨s, hs⟩ | hs := Path.led_cases t
  · cases hr.symm.trans hs
    revert hc
    decide
  · obtain ⟨rfl, -⟩ := List.cons.inj (hr.symm.trans hs)
    revert hc
    decide

theorem load_led (fs : Files) (t category : Text) :
    load fs (.text (Path.led t)) category = load fs (.path (.ofText t)) category := by
  rw [load, if_neg (mt Source.isData_iff.1 (not_opens_led t)), Path.ofText_led]
  rfl

theorem isArgument_led {t : Text} (h : IsArgument t) : IsArgument (Path.led t) := by
  rw [Path.led]
  split_ifs
  · exact h
  · exact (h.cons (by decide) (by decide)).cons (by decide) (by decide)

theorem led_ne_nil (t : Text) : Path.led t ≠ [] := by
  obtain ⟨s, hs⟩ | hs := Path.led_cases t
  · rw [hs]
    exact List.cons_ne_nil _ _
  · rw [hs]
    exact List.cons_ne_nil _ _

/-- The text of a path that leads to something loads the same as the path exactly if it does not
begin like search data. Whatever path it is, the text behind a dot and a slash, or the text itself
where it begins with a slash, loads the same as the path; and it can be given for the index, on the
command line and in the environment. -/
theorem load_text_eq_load_path_iff {fs : Files} {t : Text} {node : Node}
    (h : fs.status (.ofText t) = .ok (some node)) :
    (∀ category, load fs (.text t) category = load fs (.path (.ofText t)) category ↔
      ¬Source.Opens t) ∧
    (∀ category,
      load fs (.text (Path.led t)) category = load fs (.path (.ofText t)) category) ∧
    Command.given? (some (Path.led t)) = some (Path.led t) ∧
    (IsArgument t → ∀ env : Environment, ∃ env',
      env.assign Environment.indexName (Path.led t) = .ok env' ∧
        env'.index = .ok (Path.led t) ∧ env'.category = env.category) := by
  refine ⟨fun category => ⟨?_, ?_⟩, load_led fs t, Command.given?_of_ne_nil (led_ne_nil t), ?_⟩
  · intro heq hopens
    exact load_text_ne_load_path h hopens heq
  · intro hopens
    rw [load, if_neg (mt Source.isData_iff.1 hopens)]
    rfl
  · intro ht env
    have hled := isArgument_led ht
    refine ⟨_, Environment.assign_of_isArgument env _ hled, ?_, Environment.category_set_index ..⟩
    rw [Environment.index_set, Environment.stored_of_isArgument hled]

/-- Two files without items, one of them named like an array. -/
def bracketFiles : Files :=
  ⟨[], [(["[].js"], .file [0x5B, 0x5D]), (["x.js"], .file [0x5B, 0x5D])]⟩

theorem load_text_eq_load_path_iff_samples :
    load bracketFiles (.text "x.js") "all" = load bracketFiles (.path (.ofText "x.js")) "all" ∧
    load bracketFiles (.text "[].js") "all" ≠
      load bracketFiles (.path (.ofText "[].js")) "all" ∧
    load bracketFiles (.text "./[].js") "all" =
      load bracketFiles (.path (.ofText "[].js")) "all" ∧
    ∃ env, Environment.assign [] Environment.indexName "./[].js" = .ok env ∧
      env.index = .ok "./[].js" := by
  have hplain : bracketFiles.status (.ofText "x.js") = .ok (some (.file [0x5B, 0x5D])) := rfl
  have hbracket : bracketFiles.status (.ofText "[].js") = .ok (some (.file [0x5B, 0x5D])) :=
    rfl
  have hargument : IsArgument "[].js" :=
    Environment.isArgument_of_plain (by decide) (by decide)
  obtain ⟨hiff, hled, -, hset⟩ := load_text_eq_load_path_iff hbracket
  obtain ⟨env, henv, hindex, -⟩ := hset hargument []
  refine ⟨?_, ?_, hled "all", env, henv, hindex⟩
  · refine ((load_text_eq_load_path_iff hplain).1 "all").2 ?_
    rw [← Source.isData_iff]
    decide
  · rw [Ne, hiff, not_not]
    exact Source.isData_iff.1 (by decide)

theorem load_text_ne_load_path_bracket :
    bracketFiles.status (.ofText "[].js") = .ok (some (.file [0x5B, 0x5D])) ∧
    load bracketFiles (.text "[].js") "all" =
      .error (.malformed "<string>" (.literal .trailingData 2)) ∧
    ∃ u, load bracketFiles (.path (.ofText "[].js")) "all" = .ok u ∧ u.source = "[].js" := by
  have hstatus : bracketFiles.status (.ofText "[].js") = .ok (some (.file [0x5B, 0x5D])) := rfl
  have hload : load bracketFiles (.path (.ofText "[].js")) "all" =
      .ok ⟨"[].js", [], .nil, nofun⟩ := by
    rw [Load.load_of_read rfl
      (Load.read_of_encoded (t := "[]") (Utf8.encode_eq_ok (by decide)) hstatus)]
    cbv
  exact ⟨hstatus, by cbv, _, hload, rfl⟩

end TokenIndex
