import TokenIndex.Proofs.Exchange.Basic
import TokenIndex.Proofs.Report
import TokenIndex.Proofs.Search

namespace TokenIndex

/-- How a command should end: with what was asked for, or with a word about an error. -/
def Outcome.Orderly (o : Outcome) : Prop :=
  o.escaped = none ∧
    (o.exit = 0 ∨ o.exit = 1 ∧ ∃ message, o.output = "✗ Error: " ++ message ++ "\n")

namespace Command

/-- The text that a command asks about, which may be given by its name. -/
def subject (a : Arguments) (operand : Text) : Command → Except Utf8.EncodeFault Text
  | lookup => if a.byName then Token.encode operand else .ok operand
  | _ => .ok operand

def question (a : Arguments) (text : Text) : Command → Question
  | lookup => .lookup text
  | search => .search text a.limit
  | tokens => .tokens
  | info | serve => .info

def report (a : Arguments) (text : Text) : Command → Value → List Line
  | lookup => Report.lookup text a.json
  | search => Report.search text a.json a.showEntries
  | tokens => Report.tokens a.json
  | info | serve => Report.info a.json

/-- What a command can print of an answer, line by line. -/
def Printable (a : Arguments) : Command → Value → Prop
  | lookup, v => v.isVoid = true ∨ v.Listing Value.EntryLike
  | search, v => v.isVoid = true ∨ v.Listing (Value.ResultLike a.showEntries)
  | tokens, v => v.Sized
  | info, v | serve, v => v.InfoLike

section Run

variable {w : World} {reply : Reply} {c : Command} {operand text : Text} {a : Arguments}

theorem run_eq (hc : c ≠ serve) : (c.run w reply operand a).1 = match subject a operand c with
    | .error e => .escape (.unencodable e)
    | .ok text => ask w a reply (question a text c) (report a text c) := by
  cases c with
  | serve => exact absurd rfl hc
  | _ => rfl

theorem exists_subject_error_iff : (∃ e, subject a operand c = .error e) ↔
    c = lookup ∧ a.byName = true ∧ operand.hasSurrogate = true := by
  cases c with
  | lookup =>
    rw [subject, and_iff_right rfl]
    split_ifs with hname
    · rw [and_iff_right hname]
      cases hencode : Token.encode operand with
      | ok token =>
        rw [Token.hasSurrogate_eq_false_of_encode hencode]
        exact iff_of_false (by rintro ⟨_, ⟨⟩⟩) Bool.false_ne_true
      | error e =>
        refine iff_of_true ⟨e, rfl⟩ ?_
        rw [← Bool.not_eq_false]
        intro hplain
        cases hencode.symm.trans (Token.encode_eq_ok hplain)
    · exact iff_of_false (by rintro ⟨_, ⟨⟩⟩) fun h => hname h.1
  | _ =>
    refine iff_of_false ?_ ?_
    · rintro ⟨_, ⟨⟩⟩
    · rintro ⟨⟨⟩, -⟩

theorem written_report_iff {v : Value} :
    (∀ l ∈ report a text c v, Report.Written l) ↔ a.json = true ∨ Printable a c v := by
  cases c with
  | lookup => exact Report.written_lookup_iff
  | search => exact Report.written_search_iff
  | tokens => exact Report.written_tokens_iff
  | info => exact Report.written_info_iff
  | serve => exact Report.written_info_iff

theorem printable_of_table {t : Table} {v : Value} (hc : c ≠ serve)
    (h : (question a text c).ofTable t = .ok v) : Printable a c v := by
  cases c with
  | lookup =>
    cases h
    exact .inr (Value.listing_entriesValue _)
  | search =>
    obtain ⟨rows, -, rfl⟩ := map_eq_ok_iff.1 h
    exact .inr (List.forall_mem_map.2 fun r _ => Value.resultLike_rowValue a.showEntries r)
  | tokens =>
    cases h
    trivial
  | info =>
    cases h
    exact ⟨⟨_, _, rfl, rfl, trivial⟩, ⟨_, _, rfl, rfl, trivial⟩, ⟨_, _, rfl, rfl, trivial⟩⟩
  | serve => exact absurd rfl hc

theorem escaped_ofLines_iff {lines : List Line} :
    (Outcome.ofLines lines).escaped = none ↔ ∀ l ∈ lines, Report.Written l := by
  rw [← Report.print_snd_eq_none_iff, Outcome.ofLines]
  rcases Report.print lines with ⟨text, _ | e⟩
  · exact iff_of_true rfl rfl
  · exact iff_of_false (Option.some_ne_none _) (Option.some_ne_none _)

theorem orderly_ofLines_iff {lines : List Line} :
    (Outcome.ofLines lines).Orderly ↔ ∀ l ∈ lines, Report.Written l :=
  ⟨fun h => escaped_ofLines_iff.1 h.1, fun h => ⟨escaped_ofLines_iff.2 h, .inl (exit_ofLines h)⟩⟩

theorem orderly_ofLines_of_escaped {lines : List Line}
    (h : (Outcome.ofLines lines).escaped = none) : (Outcome.ofLines lines).Orderly :=
  orderly_ofLines_iff.2 (escaped_ofLines_iff.1 h)

theorem orderly_failed (message : Text) : (Outcome.failed message).Orderly :=
  ⟨rfl, .inr ⟨rfl, message, rfl⟩⟩

theorem orderly_ask_of_escaped {q : Question} {report : Value → List Line}
    (h : (ask w a reply q report).escaped = none) : (ask w a reply q report).Orderly := by
  rw [ask] at h ⊢
  split at h
  · rw [askTable] at h ⊢
    dsimp only at h ⊢
    split at h
    · exact orderly_failed _
    · split at h
      · exact orderly_ofLines_of_escaped h
      · exact orderly_failed _
  · rw [askService] at h ⊢
    split at h
    · exact orderly_failed _
    · dsimp only at h ⊢
      split at h
      · exact orderly_ofLines_of_escaped h
      · exact orderly_failed _

theorem orderly_askTable (index : Text) (hc : c ≠ serve) :
    (askTable w a index (question a text c) (report a text c)).Orderly := by
  cases hload : load w.files (.text index) (categoryFor w a) with
  | error e =>
    rw [askTable, hload]
    exact orderly_failed e.message
  | ok t =>
    obtain ⟨log, hlog⟩ := exists_askTable (question a text c) (report a text c) hload
    rw [hlog]
    cases hv : (question a text c).ofTable t with
    | error e => exact orderly_failed e.message
    | ok v =>
      have hwritten : ∀ l ∈ report a text c v, Report.Written l :=
        written_report_iff.2 (.inr (printable_of_table hc hv))
      exact orderly_ofLines_iff.2 hwritten

/-- The service is asked, for want of an index, and this is what it answers. -/
structure Answered (w : World) (reply : Reply) (c : Command) (operand : Text) (a : Arguments)
    (v : Value) : Prop where
  index : given? a.index = none
  answer : ∃ text inquiry, subject a operand c = .ok text ∧
    (question a text c).inquiry w.env.apiUrl = .ok inquiry ∧
    answerOf (question a text c) inquiry reply = .ok v

theorem orderly_askService_iff (hindex : given? a.index = none)
    (hsubject : subject a operand c = .ok text) :
    (askService w reply (question a text c) (report a text c)).Orderly ↔
      a.json = true ∨ ∀ v, Answered w reply c operand a v → Printable a c v := by
  have hanswered (v : Value) : Answered w reply c operand a v ↔
      ∃ inquiry, (question a text c).inquiry w.env.apiUrl = .ok inquiry ∧
        answerOf (question a text c) inquiry reply = .ok v := by
    constructor
    · rintro ⟨-, text, inquiry, hsubject', h⟩
      cases hsubject.symm.trans hsubject'
      exact ⟨inquiry, h⟩
    · rintro ⟨inquiry, h⟩
      exact ⟨hindex, text, inquiry, hsubject, h⟩
  simp only [hanswered]
  cases hinquiry : (question a text c).inquiry w.env.apiUrl with
  | error e =>
    rw [askService, hinquiry]
    refine iff_of_true (orderly_failed e.message) (.inr ?_)
    rintro v ⟨_, ⟨⟩, -⟩
  | ok inquiry =>
    have hask : askService w reply (question a text c) (report a text c) =
        { told (report a text c) (answerOf (question a text c) inquiry reply) with
          calls := [.get inquiry] } := by
      rw [askService, hinquiry]
      rfl
    rw [hask]
    simp only [Except.ok.injEq, exists_eq_left']
    cases answerOf (question a text c) inquiry reply with
    | error e => exact iff_of_true (orderly_failed e.message) (.inr (by rintro _ ⟨⟩))
    | ok v =>
      simp only [Except.ok.injEq, forall_eq']
      exact orderly_ofLines_iff.trans written_report_iff

end Run

theorem address_index : (Inquiry.index Environment.defaultApiUrl).address =
    .ok (Inquiry.localUrl "/api/index" none) := by
  have hpath : Url.InPath ("/api" ++ "/index") := Url.inPath_of_all (by decide)
  have hurl := Url.ofText_local none hpath hpath rfl (by decide) nofun
  have hbase : (Inquiry.index Environment.defaultApiUrl).url =
      Environment.defaultApiUrl ++ "/index" := rfl
  rw [Inquiry.address, hbase]
  dsimp only [Inquiry.index, Inquiry.plain]
  rw [hurl, Except.bind, Url.requestable_local]
  rfl

theorem value_empty_object :
    Reply.value (Inquiry.index Environment.defaultApiUrl) (.json 200 (.object [])) =
      .ok (.object []) := by
  have hbytes : (Reply.content (.object [])).bind Reply.bytes = .ok [0x7B, 0x7D] := by
    with_unfolding_all rfl
  have hparse : Reply.parse [0x7B, 0x7D] = .ok (.object []) := by cbv
  rw [Reply.value, Reply.checked, address_index, hbytes]
  dsimp only
  rw [if_pos (by decide), hparse]

end Command

end TokenIndex
