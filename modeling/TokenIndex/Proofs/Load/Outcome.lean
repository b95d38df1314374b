import TokenIndex.Proofs.Load.Machine

namespace TokenIndex

open Reference (Oversized)

namespace Load

variable {m : Machine} {category : Text} {source : Source}

theorem load_nameTooLong_iff {path : Text} :
    m.load source category = .error (.told (.nameTooLong path)) ↔
      ∃ p, source.path? = some p ∧ m.unasked? p = none ∧ m.files.status p = .error path := by
  constructor
  · intro h
    cases fails_of_load (Machine.load_eq_error_of_told h) with
    | @nameTooLong p hp hstatus =>
      refine ⟨p, hp, ?_, hstatus⟩
      rw [Option.eq_none_iff_forall_ne_some]
      intro message hunasked
      rw [Machine.load_of_stops (.refused hp (.status hunasked))] at h
      cases h
  · rintro ⟨p, hp, hasked, hstatus⟩
    rw [Machine.load_of_path hp, Machine.loadPath, Machine.status_of_asked hasked, hstatus]
    rfl

theorem walk_of_long {part : Text} {n : Nat} (hlength : Path.byteLength? part = some n)
    (hlong : longestName < n) (fs : Files) : fs.walk fs.here [part] = .error .nameTooLong := by
  have hhere : fs.node? fs.here = some .directory := by
    rw [Files.node?, if_pos (by simp)]
  have hup : part ≠ ".." := by
    rintro rfl
    have htwo : Path.byteLength? ".." = some 2 := rfl
    rw [htwo] at hlength
    cases hlength
    exact absurd hlong (by decide)
  rw [Files.walk, Files.step, hhere]
  dsimp only
  rw [if_neg hup, hlength, Option.getD_some, if_pos hlong]

theorem status_of_long {part : Text} {n : Nat} (hlength : Path.byteLength? part = some n)
    (hlong : longestName < n) (fs : Files) : fs.status ⟨.relative, [part]⟩ = .error part := by
  have htext : Path.toText ⟨.relative, [part]⟩ = part := rfl
  have hresolve : fs.resolve ⟨.relative, [part]⟩ = .error .nameTooLong := by
    have hwalk := walk_of_long hlength hlong fs
    rw [Files.resolve, htext, hlength]
    dsimp only
    split_ifs
    · rfl
    · exact hwalk
  rw [Files.status, hresolve, htext]

theorem isData_bracket (rest : Text) : Source.isData (('[' : CodePoint) :: rest) = true := by
  have hstarts : Text.startsWith (Text.dropBlank (('[' : CodePoint) :: rest)) "[" = true := rfl
  rw [Source.isData, hstarts, Bool.or_true]

theorem load_overflow {n : Nat} (hroom : m.mostRoom < n) (rest : Text) :
    m.load (.text (Text.fill n '[' ++ rest)) category = .error .overflow := by
  cases n with
  | zero => cases hroom
  | succ n =>
    apply Machine.load_of_stops
    have hnesting := Literal.le_nesting_fill (n + 1) rest
    exact .text (isData_bracket _) (m.overflows_of_lt _ (Nat.lt_of_lt_of_le hroom hnesting))

theorem load_tooLong {run rest : Text} (hdigits : ∀ c ∈ run, c.isDigit = true)
    (hlong : TooManyDigits.limit < run.length) (hrest : Text.Ends CodePoint.isDigit rest)
    (hroom : m.overflows (('[' : CodePoint) :: (run ++ rest)) = false) :
    m.load (.text (('[' : CodePoint) :: (run ++ rest))) category =
      .error (.told (.tooManyDigits ⟨run.length⟩)) := by
  rw [Machine.load, if_pos (isData_bracket _), Machine.loadText, hroom,
    if_neg Bool.false_ne_true, loadText, parse, Literal.parse_tooLong hdigits hlong hrest]
  rfl

/-- A label, or a scope, with a decimal reference that has too many digits. -/
inductive Overlong (run : Text) : (label scope : Text) → Prop
  | label {label scope : Text} : label ≠ [] → Oversized label run → Overlong run label scope
  | scope {label scope resolved : Text} : label ≠ [] → Reference.resolve label = .ok resolved →
      Oversized scope run → Overlong run label scope

theorem exists_resolve_eq_error {text run : Text} (h : Oversized text run) :
    ∃ e, Shape.resolve text = .error (.tooManyDigits e) := by
  obtain ⟨e, he⟩ := h.fails
  exact ⟨e, by rw [Shape.resolve, he]⟩

theorem entry_scope (label : Text) (fail : Shape.EntryDefect → Shape.Defect) (c : CodePoint)
    (locator scope : Text) :
    Shape.entry label fail (.array [.text (c :: locator), .int 1, .text scope]) =
      (Shape.resolve scope).map fun scope => ⟨label, c :: locator, scope, true⟩ :=
  rfl

theorem exists_row_eq_error {token label locator scope run : Text} (htoken : token ≠ [])
    (hlocator : locator ≠ []) (h : Overlong run label scope) :
    ∃ e, Shape.row [] (oneEntry token label locator scope) = .error (.tooManyDigits e) := by
  obtain ⟨c, rest, rfl⟩ := List.exists_cons_of_ne_nil htoken
  obtain ⟨d, more, rfl⟩ := List.exists_cons_of_ne_nil hlocator
  cases h with
  | label hlabel hrun =>
    obtain ⟨e, he⟩ := exists_resolve_eq_error hrun
    obtain ⟨f, label, rfl⟩ := List.exists_cons_of_ne_nil hlabel
    refine ⟨e, ?_⟩
    rw [oneEntry, Shape.row, List.any_nil, if_neg Bool.false_ne_true, he]
  | scope hlabel hr hrun =>
    obtain ⟨e, he⟩ := exists_resolve_eq_error hrun
    obtain ⟨f, label, rfl⟩ := List.exists_cons_of_ne_nil hlabel
    refine ⟨e, ?_⟩
    rw [oneEntry, Shape.row, List.any_nil, if_neg Bool.false_ne_true,
      Shape.resolve_eq_ok_iff.2 hr]
    dsimp only
    rw [Shape.entries, entry_scope, he]
    rfl

theorem exists_load_eq_error {token label locator scope run : Text} (more : List Value)
    (htoken : token ≠ []) (hlocator : locator ≠ []) (h : Overlong run label scope) :
    ∃ e, m.load (.items (oneEntry token label locator scope :: more)) category =
      .error (.told (.tooManyDigits e)) := by
  obtain ⟨e, he⟩ := exists_row_eq_error htoken hlocator h
  refine ⟨e, ?_⟩
  rw [Machine.load, loadItems, shape, Shape.rows, Shape.rowsFrom, he]
  rfl

/-- How a load ends. It is stopped, whatever the source, where the system refuses to tell what is
at its path, or to list or to read what is there, and where a text that is come to has arrays in
each other for which there is no room. Otherwise it ends as the files have it, and if that is no
table then in one of the ways listed: the source of the defect is told, except where a number of
the text, or a decimal reference in a label or a scope, has more digits than are converted, or a
path has a name too long to look for. Each of these happens: on any machine some texts have too
many brackets, and some numbers, references and names are too long. -/
theorem load_outcome (m : Machine) (category : Text) :
    (∀ source e, m.Stops category source e → m.load source category = .error e) ∧
    (∀ source, (∀ e, ¬m.Stops category source e) →
      m.load source category = (load m.files source category).mapError .told) ∧
    (∀ source err, load m.files source category = .error err →
      source.Fails m.files category err) ∧
    (∀ source path, m.load source category = .error (.told (.nameTooLong path)) ↔
      ∃ p : Path, source.path? = some p ∧ m.unasked? p = none ∧ m.files.status p = .error path) ∧
    (∀ part n, Path.byteLength? part = some n → longestName < n →
      m.unasked? ⟨.relative, [part]⟩ = none →
      m.load (.path ⟨.relative, [part]⟩) category = .error (.told (.nameTooLong part))) ∧
    (∀ n rest, m.mostRoom < n →
      m.load (.text (Text.fill n '[' ++ rest)) category = .error .overflow) ∧
    (∀ run rest : Text, (∀ c ∈ run, c.isDigit = true) → TooManyDigits.limit < run.length →
      Text.Ends CodePoint.isDigit rest →
      m.overflows (('[' : CodePoint) :: (run ++ rest)) = false →
      m.load (.text (('[' : CodePoint) :: (run ++ rest))) category =
        .error (.told (.tooManyDigits ⟨run.length⟩))) ∧
    ∀ token label locator scope run more, token ≠ [] → locator ≠ [] → Overlong run label scope →
      ∃ e, m.load (.items (oneEntry token label locator scope :: more)) category =
        .error (.told (.tooManyDigits e)) := by
  refine ⟨?_, ?_, ?_, ?_, ?_, ?_, ?_, ?_⟩
  · intro source e h
    exact Machine.load_of_stops h
  · intro source h
    exact Machine.load_of_not_stops h
  · intro source err h
    exact fails_of_load h
  · intro source path
    exact load_nameTooLong_iff
  · intro part n hlength hlong hasked
    exact load_nameTooLong_iff.2 ⟨_, rfl, hasked, status_of_long hlength hlong m.files⟩
  · intro n rest hroom
    exact load_overflow hroom rest
  · intro run rest hdigits hlong hrest hroom
    exact load_tooLong hdigits hlong hrest hroom
  · intro token label locator scope run more htoken hlocator h
    exact exists_load_eq_error more htoken hlocator h

/-- A machine on which one path may not be searched. -/
def sampleMachine : Machine :=
  { Machine.plain (.empty []) 490 with
    unasked? := fun p => if p = .ofText "d/f" then some "[Errno 13] Permission denied: 'd/f'"
      else none }

theorem overflows_nines (n : Nat) :
    sampleMachine.overflows (('[' : CodePoint) :: (Text.fill n '9' ++ "]")) = false := by
  have hcount :
      List.count ('[' : CodePoint) (('[' : CodePoint) :: (Text.fill n '9' ++ "]")) = 1 := by
    rw [List.count_cons_self, List.count_append, Text.fill, List.count_replicate]
    rfl
  have hnesting := Literal.nesting_le_count (('[' : CodePoint) :: (Text.fill n '9' ++ "]"))
  rw [hcount] at hnesting
  exact decide_eq_false (by omega)

theorem load_outcome_nines :
    sampleMachine.load (.text (('[' : CodePoint) :: (Text.fill 4301 '9' ++ "]"))) "all" =
        .error (.told (.tooManyDigits ⟨4301⟩)) ∧
      sampleMachine.load (.text (Text.fill 1000 '[')) "all" = .error .overflow ∧
      sampleMachine.load (.path (.ofText "d/f")) "all" =
        .error (.refused "[Errno 13] Permission denied: 'd/f'") := by
  obtain ⟨hstops, -, -, -, -, hoverflow, hnumber, -⟩ := load_outcome sampleMachine "all"
  have hdigits : ∀ c ∈ Text.fill 4301 '9', c.isDigit = true := by
    intro c hc
    rw [List.eq_of_mem_replicate hc]
    decide
  have hlength : (Text.fill 4301 '9').length = 4301 := List.length_replicate
  refine ⟨?_, ?_, ?_⟩
  · have hnines := hnumber (Text.fill 4301 '9') "]" hdigits (by rw [hlength]; decide)
      (Text.ends_cons.2 (by decide)) (overflows_nines 4301)
    rwa [hlength] at hnines
  · have hbrackets := hoverflow 1000 [] (by decide)
    rwa [List.append_nil] at hbrackets
  · exact hstops _ _ (.refused rfl (.status rfl))

end Load

end TokenIndex
