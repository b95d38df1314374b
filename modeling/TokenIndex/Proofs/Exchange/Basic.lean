import TokenIndex.Proofs.Answer
import TokenIndex.Proofs.Report
import TokenIndex.Proofs.Session

namespace TokenIndex

open Environment (defaultApiUrl IsArgument)

namespace Command

/-- What holds of a world in which an index can be asked and served. -/
structure Ready (w : World) (index : Text) (category : Option Text) (t : Table) : Prop where
  fresh : w.served = none
  address : w.env.apiUrl = defaultApiUrl
  indexText : IsArgument index
  categoryText : ∀ c ∈ category, IsArgument c
  loads : load w.files (.text index) ((given? category).getD w.env.category) = .ok t
  plain : t.Plain

section Serving

variable {w : World} {index : Text} {category : Option Text} {t : Table}

theorem given?_of_ne_nil (h : index ≠ []) : given? (some index) = some index := by
  rw [given?, Option.filter_some, List.isEmpty_eq_false_iff.2 h]
  rfl

theorem exists_runServe (h : Ready w index category t) (hne : index ≠ []) {a : Arguments}
    (hindex : a.index = some index) (hcategory : a.category = category) :
    ∃ env, (runServe w a).2 = { w with env := env } ∧ env.index = .ok index ∧
      env.category = (given? category).getD w.env.category := by
  have hassign : assignGiven w.env Environment.indexName a.index =
      .ok (w.env.set Environment.indexName index) := by
    rw [hindex, assignGiven, given?_of_ne_nil hne]
    exact Environment.assign_of_isArgument _ _ h.indexText
  rw [runServe, hassign, hcategory]
  dsimp only
  cases hgiven : given? category with
  | none =>
    refine ⟨w.env.set Environment.indexName index, ?_, ?_, ?_⟩
    · rw [assignGiven, hgiven]
    · rw [Environment.index_set, Environment.stored_of_isArgument h.indexText]
    · rw [Environment.category_set_index]
      rfl
  | some c =>
    have hc : IsArgument c := h.categoryText c (Option.filter_eq_some_iff.1 hgiven).1
    refine ⟨(w.env.set Environment.indexName index).set Environment.categoryName c, ?_, ?_, ?_⟩
    · rw [assignGiven, hgiven]
      dsimp only
      rw [Environment.assign_of_isArgument _ _ hc]
    · rw [Environment.index_set_category, Environment.stored_of_isArgument h.indexText]
    · rw [Environment.category_set, Environment.stored_of_isArgument hc]
      rfl

theorem served_serving (h : Ready w index category t) (hne : index ≠ []) {serve : List Text}
    {other : Text} {a : Arguments} (hserve : Task.ofTexts serve = .ok (.run .serve other a))
    (hindex : a.index = some index) (hcategory : a.category = category) :
    (w.serving serve).served = some t := by
  obtain ⟨env, henv, hset, hcat⟩ := exists_runServe h hne hindex hcategory
  have hnext : w.next (.command serve (.failed [])) = { w with env := env } := by
    rw [World.next, runTexts, hserve]
    exact henv
  have hload : World.loadServed { w with env := env } = .ok t := by
    rw [World.loadServed]
    dsimp only
    rw [hset, hcat]
    dsimp only
    rw [h.loads]
  have hserving : w.serving serve = (World.table { w with env := env }).2 := by
    rw [World.serving, World.run, List.foldl_cons, List.foldl_cons, List.foldl_nil, hnext,
      World.next, Service.start_eq]
  rw [hserving, World.table_eq, World.loaded?, hload]
  dsimp only
  rw [h.fresh]
  rfl

end Serving

/-- A command line for an index, the same one for a service, and one that starts the service. -/
structure Lines (c : Command) (operand : Text) (a : Arguments) (index : Text)
    (category : Option Text) (near far serve : List Text) : Prop where
  near : Task.ofTexts near =
    .ok (.run c operand { a with index := some index, category := category })
  far : Task.ofTexts far = .ok (.run c operand { a with index := none, category := none })
  serve : ∃ other b, Task.ofTexts serve = .ok (.run .serve other b) ∧ b.index = some index ∧
    b.category = category

/-- A command line whose command is to put a question. -/
def Asks (texts : List Text) (a : Arguments) (q : Question) (report : Value → List Line) : Prop :=
  ∀ w reply, (runTexts w reply texts).1 = ask w a reply q report

/-- Two outcomes that a user cannot tell apart by what is printed and by the exit code. -/
def Alike (o p : Outcome) : Prop := o.output = p.output ∧ o.exit = p.exit

theorem Alike.symm {o p : Outcome} (h : Alike o p) : Alike p o := ⟨h.1.symm, h.2.symm⟩

theorem Alike.trans {o p r : Outcome} (h : Alike o p) (h' : Alike p r) : Alike o r :=
  ⟨h.1.trans h'.1, h.2.trans h'.2⟩

/-- An outcome that tells of an error and nothing else. -/
def Refused (o : Outcome) : Prop := ∃ message, Alike o (.failed message)

theorem Refused.exit {o : Outcome} (h : Refused o) : o.exit = 1 := by
  obtain ⟨message, hmessage⟩ := h
  exact hmessage.2

section Ask

variable {w : World} (service : World) {texts : List Text} {a : Arguments} {q : Question}
  {report : Value → List Line}

theorem calls_ofLines (lines : List Line) : (Outcome.ofLines lines).calls = [] := by
  rw [Outcome.ofLines]
  split <;> rfl

theorem Asks.near {index : Text} (h : Asks texts a q report) (hindex : given? a.index = some index)
    (reply : Reply) : (runTexts w reply texts).1 = askTable w a index q report := by
  rw [h w reply, ask, hindex]

theorem Asks.far (h : Asks texts a q report) (hindex : given? a.index = none) (reply : Reply) :
    (runTexts w reply texts).1 = askService w reply q report := by
  rw [h w reply, ask, hindex]

theorem exists_askTable (q : Question) (report : Value → List Line) {index : Text} {t : Table}
    (hload : load w.files (.text index) (categoryFor w a) = .ok t) :
    ∃ log, askTable w a index q report =
      { (match q.ofTable t with
        | .ok v => Outcome.ofLines (report v)
        | .error e => Outcome.failed e.message) with errors := log } := by
  rw [askTable, hload]
  exact ⟨_, rfl⟩

theorem consult_near {index : Text} {t : Table} {v : Value} (h : Asks texts a q report)
    (hindex : given? a.index = some index)
    (hload : load w.files (.text index) (categoryFor w a) = .ok t) (hv : q.ofTable t = .ok v) :
    Alike (w.consult service texts) (.ofLines (report v)) := by
  obtain ⟨log, halone⟩ : ∃ log, (runTexts w (.failed []) texts).1 =
      { Outcome.ofLines (report v) with errors := log } := by
    obtain ⟨log, hlog⟩ := exists_askTable q report hload
    rw [hv] at hlog
    exact ⟨log, (h.near hindex _).trans hlog⟩
  rw [World.consult, halone]
  dsimp only
  rw [calls_ofLines]
  exact ⟨rfl, rfl⟩

/-- What a question comes to with a reply. -/
def answerOf (q : Question) (inquiry : Inquiry) (reply : Reply) : Except ClientError Value :=
  match q.field with
  | none => reply.value inquiry
  | some name => reply.field inquiry name

/-- The outcome of a question that a service was asked. -/
def told (report : Value → List Line) : Except ClientError Value → Outcome
  | .ok v => .ofLines (report v)
  | .error e => .failed e.message

theorem consult_far {inquiry : Inquiry} (h : Asks texts a q report)
    (hindex : given? a.index = none) (hinquiry : q.inquiry w.env.apiUrl = .ok inquiry) :
    Alike (w.consult service texts) (told report (answerOf q inquiry (service.reply inquiry))) := by
  have hask : ∀ reply, (runTexts w reply texts).1 =
      { told report (answerOf q inquiry reply) with calls := [.get inquiry] } := by
    intro reply
    rw [h.far hindex, askService, hinquiry]
    rfl
  rw [World.consult, hask]
  dsimp only
  rw [hask]
  exact ⟨rfl, rfl⟩

variable {service}

theorem consult_answered {inquiry : Inquiry} (h : Asks texts a q report)
    (hindex : given? a.index = none) (hinquiry : q.inquiry w.env.apiUrl = .ok inquiry) {v : Value}
    (hv : answerOf q inquiry (service.reply inquiry) = .ok v) :
    Alike (w.consult service texts) (.ofLines (report v)) := by
  have hfar := consult_far service h hindex hinquiry
  rwa [hv] at hfar

theorem consult_refused {inquiry : Inquiry} (h : Asks texts a q report)
    (hindex : given? a.index = none) (hinquiry : q.inquiry w.env.apiUrl = .ok inquiry)
    (herror : ∃ e, answerOf q inquiry (service.reply inquiry) = .error e) :
    Refused (w.consult service texts) := by
  obtain ⟨e, he⟩ := herror
  have hfar := consult_far service h hindex hinquiry
  rw [he] at hfar
  exact ⟨e.message, hfar⟩

end Ask

section Reply

variable {service : World} {q : Inquiry}

theorem reply_of_address {url : Url} (hq : q.address = .ok url) :
    service.reply q = .ofAnswer (Service.answer service url.request).1 := by
  rw [World.reply, hq]

theorem field_of_sent {url : Url} (hq : q.address = .ok url) {f : Text × Value}
    {fs : List (Text × Value)} (hv : Json.Faithful (.object (f :: fs)))
    (hanswer : (Service.answer service url.request).1 = .ok (.json 200 (.object (f :: fs))))
    (name : Text) :
    (service.reply q).field q name = ((Value.object (f :: fs)).get name).mapError .use := by
  have hreply : Reply.ofAnswer (.ok (.json 200 (.object (f :: fs)))) =
      .json 200 (.object (f :: fs)) := rfl
  rw [reply_of_address hq, hanswer, hreply, Reply.field, Reply.value_success hq hv]

theorem exists_field_eq_error {url : Url} (hq : q.address = .ok url)
    (h : ∀ r, (Service.answer service url.request).1 = .ok r → Status.isSuccess r.status = false)
    (name : Text) : ∃ e, (service.reply q).field q name = .error e := by
  have hvalue : ∃ e, (service.reply q).value q = .error e := by
    rw [reply_of_address hq]
    cases hr : (Service.answer service url.request).1 with
    | ok r => exact Reply.exists_value_eq_error q (h r hr)
    | error e =>
      let internal : Service.Response := ⟨500, [], .text "Internal Server Error"⟩
      have hinternal : Status.isSuccess internal.status = false := by decide
      exact Reply.exists_value_eq_error q hinternal
  obtain ⟨e, he⟩ := hvalue
  exact ⟨e, by rw [Reply.field, he]⟩

theorem exists_field_of_not_fits (hfits : ¬ q.Fits) (name : Text) :
    ∃ e, (service.reply q).field q name = .error e := by
  cases hq : q.address with
  | ok url => exact absurd (Inquiry.fits_of_address hq) hfits
  | error e =>
    refine ⟨.failed e.message, ?_⟩
    rw [World.reply, hq]
    rfl

end Reply

theorem exit_ofLines {lines : List Line} (h : ∀ l ∈ lines, Report.Written l) :
    (Outcome.ofLines lines).exit = 0 := by
  have hprint := Report.print_snd_eq_none_iff.2 h
  rw [Outcome.ofLines]
  split
  · rfl
  · rename_i heq
    rw [heq] at hprint
    cases hprint

section Lines

variable {w : World} {index : Text} {category : Option Text} {t : Table} {a : Arguments}
  {near far serve : List Text}

theorem served_of_lines {c : Command} {operand : Text} (hw : Ready w index category t)
    (hl : Lines c operand a index category near far serve) (hindex : index ≠ []) :
    (w.serving serve).served = some t := by
  obtain ⟨other, b, hserve, hbindex, hbcategory⟩ := hl.serve
  exact served_serving hw hindex hserve hbindex hbcategory

end Lines

def sampleWorld : World :=
  (World.empty []).next (.write (.ofText "/f") (.file Writer.sampleBytes))

theorem exists_ready_sample : ∃ t, Ready sampleWorld "/f" none t := by
  have hfile : sampleWorld.files.status (.ofText "/f") =
      .ok (some (.file Writer.sampleBytes)) := rfl
  obtain ⟨t, ht, hrows⟩ := Writer.exists_load_sample sampleWorld.env.category (by decide) hfile
  have hplain : t.Plain := by
    intro r hr
    rw [hrows, List.mem_singleton] at hr
    rw [hr]
    exact ⟨rfl, List.forall_mem_singleton.2 ⟨rfl, rfl, rfl⟩⟩
  exact ⟨t, rfl, rfl, Environment.isArgument_of_plain (by decide) (by decide), nofun, ht, hplain⟩

def serveSample : List Text := ["serve", "--index", "/f"]

theorem runs_serve_sample : Task.ofTexts serveSample =
    .ok (.run .serve [] { Arguments.default with index := some "/f" }) := rfl

end Command

end TokenIndex
