import TokenIndex.Session
import TokenIndex.Proofs.Settings
import TokenIndex.Proofs.Writer.RoundTrip
import Mathlib.Tactic.SplitIfs

namespace TokenIndex

namespace Service

/-- The route and the query of a request that is answered from the table. -/
def asked? (r : Request) : Option (Route × Text) :=
  match Origin.permission? r, Route.ofPath? (splitTarget r.target).1 with
  | none, some route =>
    if route = .root then none
    else if r.method = "GET" then some (route, (splitTarget r.target).2)
    else none
  | _, _ => none

/-- Requests that are not answered from the table: a browser that asks for permission, any method
but one, paths that lead nowhere, and the root. -/
def Aside (r : Request) : Prop :=
  (Origin.permission? r).isSome ∨ r.method ≠ "GET" ∨
    Route.ofPath? (splitTarget r.target).1 = none ∨
    Route.ofPath? (splitTarget r.target).1 = some .root

theorem asked?_eq_none_iff {r : Request} : asked? r = none ↔ Aside r := by
  unfold asked? Aside
  cases Origin.permission? r with
  | some response => simp
  | none =>
    cases Route.ofPath? (splitTarget r.target).1 with
    | none => simp
    | some route =>
      dsimp only
      split_ifs with hroot hget
      · simp [hroot]
      · simp [hroot, hget]
      · simp [hget]

/-- The answer to a request that is answered from a table. -/
def answerWith (r : Request) (route : Route) (query : Text) :
    Except ServeError Table → Except AnswerError Response
  | .ok t => (answerFrom t query route).map (Origin.complete r)
  | .error e => .error (.serve e)

section Answer

variable {w : World} {r : Request} {route : Route} {query : Text}

theorem answer_of_asked (h : asked? r = some (route, query)) :
    answer w r = (answerWith r route query w.table.1, w.table.2) := by
  unfold asked? at h
  split at h
  · rename_i route' hp hroute
    split_ifs at h with hroot hget
    cases h
    rw [answer, hp, Service.route]
    dsimp only
    rw [hroute]
    dsimp only
    rw [if_pos hget, answerRoute, if_neg hroot]
    rcases w.table with ⟨_ | _, v⟩ <;> rfl
  · cases h

theorem answer_of_not_asked (h : asked? r = none) : (answer w r).2 = w := by
  unfold asked? at h
  rw [answer]
  cases hp : Origin.permission? r with
  | some response => rfl
  | none =>
    rw [hp] at h
    dsimp only at h ⊢
    rw [Service.route]
    dsimp only
    cases hroute : Route.ofPath? (splitTarget r.target).1 with
    | none => rfl
    | some route =>
      rw [hroute] at h
      dsimp only at h ⊢
      by_cases hget : r.method = "GET"
      · rw [if_pos hget] at h ⊢
        split_ifs at h with hroot
        rw [answerRoute, if_pos hroot]
      · rw [if_neg hget]

end Answer

theorem start_eq (w : World) : start w = (w.table.1.map greeting, w.table.2) := by
  rw [start]
  rcases w.table with ⟨_ | _, v⟩ <;> rfl

end Service

/-- Whether a step needs the table. -/
def Step.asks : Step → Bool
  | .start => true
  | .request r => (Service.asked? r).isSome
  | _ => false

def Step.forgets : Step → Bool
  | .forget => true
  | _ => false

namespace World

/-- The table that a load gives in this world. -/
def loaded? (w : World) : Option Table := w.loadServed.toOption

theorem table_eq (w : World) :
    w.table = (w.served.elim w.loadServed .ok, { w with served := w.served.or w.loaded? }) := by
  rw [table, loaded?]
  rcases w with ⟨files, env, _ | t⟩
  · dsimp only [Option.elim_none, Option.none_or]
    cases loadServed ⟨files, env, none⟩ <;> rfl
  · rfl

theorem table_fst_eq_ok_iff {w : World} {t : Table} :
    w.table.1 = .ok t ↔ w.served.or w.loaded? = some t := by
  rw [table_eq, loaded?]
  cases w.served with
  | some u => simp
  | none => cases w.loadServed <;> simp [Except.toOption]

theorem table_fst_eq_error_iff {w : World} {e : ServeError} :
    w.table.1 = .error e ↔ w.served = none ∧ w.loadServed = .error e := by
  rw [table_eq]
  cases w.served <;> simp

theorem commands_keep (w : World) (reply : Reply) (texts : List Text) :
    (runTexts w reply texts).2.files = w.files ∧ (runTexts w reply texts).2.served = w.served := by
  rw [runTexts]
  split
  · exact ⟨rfl, rfl⟩
  · exact ⟨rfl, rfl⟩
  · rename_i c operand a _
    cases c with
    | serve =>
      rw [Command.run, Command.runServe]
      split
      · exact ⟨rfl, rfl⟩
      · split <;> exact ⟨rfl, rfl⟩
    | _ => exact ⟨rfl, rfl⟩

section Step

variable {s : Step}

theorem next_of_asks (w : World) (h : s.asks = true) : w.next s = w.table.2 := by
  cases s with
  | start => rw [next, Service.start_eq]
  | request r =>
    rw [Step.asks, Option.isSome_iff_exists] at h
    obtain ⟨⟨route, query⟩, hr⟩ := h
    rw [next, Service.answer_of_asked hr]
  | _ => cases h

theorem served_next_of_not_asks (w : World) (h : s.asks = false) (hf : s.forgets = false) :
    (w.next s).served = w.served := by
  cases s with
  | start => cases h
  | request r =>
    rw [Step.asks, Option.isSome_eq_false_iff, Option.isNone_iff_eq_none] at h
    rw [next, Service.answer_of_not_asked h]
  | forget => cases hf
  | command texts reply => exact (commands_keep w reply texts).2
  | assign name value =>
    rw [next]
    split <;> rfl
  | _ => rfl

end Step

/-- One step, and with it the worlds in which the table was asked for since it was last
forgotten. -/
def track (past : World × List World) (s : Step) : World × List World :=
  (past.1.next s,
    if s.forgets then [] else if s.asks then past.2 ++ [past.1] else past.2)

/-- The worlds in which the table was asked for since it was last forgotten, in order. -/
def askedIn (w : World) (steps : List Step) : List World := (steps.foldl track (w, [])).2

theorem served_next (past : World × List World) (s : Step)
    (h : past.1.served = past.2.findSome? loaded?) :
    (track past s).1.served = (track past s).2.findSome? loaded? := by
  rw [track]
  dsimp only
  cases hf : s.forgets with
  | true =>
    cases s with
    | forget => rfl
    | _ => cases hf
  | false =>
    cases ha : s.asks with
    | true =>
      rw [next_of_asks _ ha, table_eq, if_neg Bool.false_ne_true, if_pos rfl,
        List.findSome?_append, ← h]
      simp
    | false =>
      rw [served_next_of_not_asks _ ha hf, if_neg Bool.false_ne_true, if_neg Bool.false_ne_true, h]

theorem track_fst (w : World) (before : List World) (steps : List Step) :
    (steps.foldl track (w, before)).1 = w.run steps := by
  induction steps generalizing w before with
  | nil => rfl
  | cons s steps ih => exact ih _ _

theorem served_run {w : World} (h : w.served = none) (steps : List Step) :
    (w.run steps).served = (w.askedIn steps).findSome? loaded? := by
  suffices hpast : ∀ past : World × List World, past.1.served = past.2.findSome? loaded? →
      (steps.foldl track past).1.served = (steps.foldl track past).2.findSome? loaded? by
    have hrun := hpast (w, []) h
    rwa [track_fst] at hrun
  induction steps with
  | nil => exact fun _ hpast => hpast
  | cons s steps ih => exact fun past hpast => ih _ (served_next past s hpast)

theorem served_next_of_served {w : World} {t : Table} {s : Step} (h : w.served = some t)
    (hf : s.forgets = false) : (w.next s).served = some t := by
  cases ha : s.asks with
  | true => rw [next_of_asks w ha, table_of_served h, h]
  | false => rw [served_next_of_not_asks w ha hf, h]

theorem served_run_of_served {w : World} {t : Table} {steps : List Step} (h : w.served = some t)
    (hf : ∀ s ∈ steps, s.forgets = false) : (w.run steps).served = some t := by
  induction steps generalizing w with
  | nil => exact h
  | cons s steps ih =>
    rw [List.forall_mem_cons] at hf
    exact ih (served_next_of_served h hf.1) hf.2

theorem served_run_of_not_asks {w : World} {steps : List Step} (h : w.served = none)
    (ha : ∀ s ∈ steps, s.asks = false) : (w.run steps).served = none := by
  induction steps generalizing w with
  | nil => exact h
  | cons s steps ih =>
    rw [List.forall_mem_cons] at ha
    apply ih _ ha.2
    cases hf : s.forgets with
    | false => rw [served_next_of_not_asks w ha.1 hf, h]
    | true =>
      cases s with
      | forget => rfl
      | _ => cases hf

/-- The service answers from this table, and asking it changes nothing. -/
structure Serves (w : World) (t : Table) : Prop where
  table : w.table = (.ok t, w)
  start : Service.start w = (.ok (Service.greeting t), w)
  answer : ∀ r route query, Service.asked? r = some (route, query) →
    Service.answer w r = (Service.answerWith r route query (.ok t), w)

theorem serves_of_served {w : World} {t : Table} (h : w.served = some t) : w.Serves t := by
  have htable := table_of_served h
  refine ⟨htable, ?_, ?_⟩
  · rw [Service.start_eq, htable]
    rfl
  · intro r route query hr
    rw [Service.answer_of_asked hr, htable]

/-- The same files and variables, and the same table if there was one. -/
structure Keeps (w v : World) : Prop where
  files : v.files = w.files
  env : v.env = w.env
  served : ∀ t, w.served = some t → v.served = some t

theorem keeps_table (w : World) : w.Keeps w.table.2 := by
  rw [table_eq]
  refine ⟨rfl, rfl, ?_⟩
  intro t ht
  rw [ht]
  rfl

theorem keeps_answer (w : World) (r : Service.Request) : w.Keeps (Service.answer w r).2 := by
  cases hr : Service.asked? r with
  | none =>
    rw [Service.answer_of_not_asked hr]
    exact ⟨rfl, rfl, fun _ h => h⟩
  | some asked =>
    rw [Service.answer_of_asked hr]
    exact keeps_table w

/-- What loading now gives, by the variables and the files as they are: an error where no index is
named, and what the load of that index in that category gives otherwise. -/
inductive Gives (w : World) : Except ServeError Table → Prop
  | unset {e : SettingError} : w.env.index = .error e → Gives w (.error (.setting e))
  | failed {source : Text} {e : LoadError} : w.env.index = .ok source →
      load w.files (.text source) w.env.category = .error e → Gives w (.error (.load e))
  | loaded {source : Text} {t : Table} : w.env.index = .ok source →
      load w.files (.text source) w.env.category = .ok t → Gives w (.ok t)

theorem gives_loadServed (w : World) : w.Gives w.loadServed := by
  rw [loadServed]
  split
  · rename_i hindex
    exact .unset hindex
  · rename_i source hindex
    split
    · rename_i hload
      exact .loaded hindex hload
    · rename_i hload
      exact .failed hindex hload

theorem gives_iff {w : World} {r : Except ServeError Table} : w.Gives r ↔ w.loadServed = r := by
  constructor
  · rintro (hindex | ⟨hindex, hload⟩ | ⟨hindex, hload⟩)
    · rw [loadServed, hindex]
    · rw [loadServed, hindex]
      dsimp only
      rw [hload]
    · rw [loadServed, hindex]
      dsimp only
      rw [hload]
  · rintro rfl
    exact gives_loadServed w

theorem loaded?_eq_some_iff {w : World} {t : Table} : w.loaded? = some t ↔ w.Gives (.ok t) := by
  rw [gives_iff, loaded?]
  cases w.loadServed <;> simp [Except.toOption]

theorem loaded?_eq_none_iff {w : World} : w.loaded? = none ↔ ∃ e, w.Gives (.error e) := by
  simp only [gives_iff, loaded?]
  cases w.loadServed <;> simp [Except.toOption]

theorem served_run_eq_some_iff {w : World} (h : w.served = none) {steps : List Step} {t : Table} :
    (w.run steps).served = some t ↔ ∃ before v after, w.askedIn steps = before ++ v :: after ∧
      (∀ u ∈ before, ∃ e, u.Gives (.error e)) ∧ v.Gives (.ok t) := by
  rw [served_run h, List.findSome?_eq_some_iff]
  simp only [loaded?_eq_some_iff, loaded?_eq_none_iff]
  constructor
  · rintro ⟨before, v, after, hasked, hv, hbefore⟩
    exact ⟨before, v, after, hasked, hbefore, hv⟩
  · rintro ⟨before, v, after, hasked, hbefore, hv⟩
    exact ⟨before, v, after, hasked, hv, hbefore⟩

theorem served_run_eq_none_iff {w : World} (h : w.served = none) {steps : List Step} :
    (w.run steps).served = none ↔ ∀ v ∈ w.askedIn steps, ∃ e, v.Gives (.error e) := by
  rw [served_run h, List.findSome?_eq_none_iff]
  simp only [loaded?_eq_none_iff]

/-- After any steps from a world without files, variables and table: what is served is what the
first load gave that succeeded since the service last forgot its table, each load being of the
files and variables at the time the table was asked for. A table that a step was given is the one
that every later step is given, until it is forgotten. A load that fails changes nothing, and the
next step that asks loads anew, from the files and variables there are then. Starting the service
and asking it never change files, variables or a table that is served, and requests that are not
answered from the table change nothing. -/
theorem table_run_fixed (here : Place) (steps : List Step) :
    let w := (empty here).run steps
    (∀ t, w.served = some t ↔ ∃ before v after,
      (empty here).askedIn steps = before ++ v :: after ∧
      (∀ u ∈ before, ∃ e, u.Gives (.error e)) ∧ v.Gives (.ok t)) ∧
    (w.served = none ↔ ∀ v ∈ (empty here).askedIn steps, ∃ e, v.Gives (.error e)) ∧
    (∀ s t, s.asks = true → w.table.1 = .ok t →
      ∀ later, (∀ x ∈ later, x.forgets = false) → ((w.next s).run later).Serves t) ∧
    (∀ s e, s.asks = true → w.table.1 = .error e →
      w.next s = w ∧ w.served = none ∧ w.Gives (.error e) ∧
      ∀ later, (∀ x ∈ later, x.asks = false) →
        ((w.next s).run later).Gives ((w.next s).run later).table.1) ∧
    w.Keeps (Service.start w).2 ∧
    (∀ r, w.Keeps (Service.answer w r).2) ∧
    ∀ r, Service.Aside r → (Service.answer w r).2 = w := by
  intro w
  refine ⟨?_, ?_, ?_, ?_, ?_, keeps_answer w, ?_⟩
  · intro t
    exact served_run_eq_some_iff rfl
  · exact served_run_eq_none_iff rfl
  · intro s t ha ht later hlater
    apply serves_of_served
    apply served_run_of_served _ hlater
    rw [next_of_asks w ha, table_eq]
    exact table_fst_eq_ok_iff.1 ht
  · intro s e ha he
    have hnext : w.next s = w := by rw [next_of_asks w ha, table_error he]
    obtain ⟨hnone, hload⟩ := table_fst_eq_error_iff.1 he
    refine ⟨hnext, hnone, gives_iff.2 hload, ?_⟩
    intro later hlater
    rw [hnext, table_eq, served_run_of_not_asks hnone hlater]
    exact gives_loadServed _
  · rw [Service.start_eq]
    exact keeps_table w
  · intro r hr
    exact Service.answer_of_not_asked (Service.asked?_eq_none_iff.2 hr)

/-- A file is written, and a variable names it. -/
def sampleSteps : List Step :=
  [.write (.ofText "/f") (.file Writer.sampleBytes), .assign Environment.indexName "/f"]

theorem index_run_sampleSteps (w : World) : (w.run sampleSteps).env.index = .ok "/f" := by
  have hargument : Environment.IsArgument "/f" :=
    Environment.isArgument_of_plain (by decide) (by decide)
  rw [sampleSteps, run, List.foldl_cons, List.foldl_cons, List.foldl_nil, next, next,
    Environment.assign_of_isArgument _ _ hargument]
  dsimp only
  rw [Environment.index_set, Environment.stored_of_isArgument hargument]

/-- The service is started too early, and again when the file is written. Then the file is removed
and the variable is unset, and the table of the file is still served. -/
theorem table_run_fixed_sample : ∃ t,
    t.rows = [(("a" : Text), [⟨"a&lt;\\", "x.html#'", "<B>", true⟩])] ∧
    (empty []).Gives (.error (.setting (.missing Environment.indexName))) ∧
    ((empty []).run [.start]) = empty [] ∧
    (((empty []).run [.start]).run sampleSteps).Gives (.ok t) ∧
    (((empty []).run sampleSteps).next .start).Serves t ∧
    (((empty []).run sampleSteps).run
      [.start, .remove (.ofText "/f"), .unset Environment.indexName]).Serves t := by
  have hfile : ((empty []).run sampleSteps).files.status (.ofText "/f") =
      .ok (some (.file Writer.sampleBytes)) := rfl
  obtain ⟨t, ht, hrows⟩ := Writer.exists_load_sample ((empty []).run sampleSteps).env.category
    (by decide) hfile
  have hgives : ((empty []).run sampleSteps).Gives (.ok t) :=
    .loaded (index_run_sampleSteps (empty [])) ht
  have htable : ((empty []).run sampleSteps).table.1 = .ok t :=
    table_fst_eq_ok_iff.2 (loaded?_eq_some_iff.2 hgives)
  have hfixed := (table_run_fixed [] sampleSteps).2.2.1 .start t rfl htable
  obtain ⟨hnext, -, hunset, hanew⟩ := (table_run_fixed [] []).2.2.2.1 .start
    (.setting (.missing Environment.indexName)) rfl rfl
  have hlater := hanew sampleSteps (by decide)
  rw [hnext] at hlater
  refine ⟨t, hrows, hunset, hnext, ?_, ?_, ?_⟩
  · rw [← htable]
    exact hlater
  · exact hfixed [] nofun
  · exact hfixed [.remove (.ofText "/f"), .unset Environment.indexName] (by decide)

end World

end TokenIndex
