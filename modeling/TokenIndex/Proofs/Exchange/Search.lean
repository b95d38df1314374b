import TokenIndex.Proofs.Arguments
import TokenIndex.Proofs.Exchange.Basic

namespace TokenIndex

open Environment (defaultApiUrl)

namespace Command

section Answer

variable {service : World} {t : Table} {start : Text} {q : Inquiry}

theorem answer_search (hserved : service.served = some t) (query : Text) :
    (Service.answer service (Inquiry.localUrl "/api/search" (some query)).request).1 =
      Service.answerFrom t query .search := by
  have hpath : Url.InPath "/api/search" := Url.inPath_of_all (by decide)
  have hroute : Service.Route.ofPath? (Percent.decode "/api/search") = some .search := by
    rw [Percent.decode_of_not_mem (by decide) rfl]
    rfl
  exact Service.answer_asked hpath (List.cons_ne_nil _ _) hroute nofun hserved

theorem field_results (hserved : service.served = some t) (ht : t.Plain)
    (hstart : start.hasSurrogate = false) {bound : Option Nat} {query : Text}
    (hq : q.address = .ok (Inquiry.localUrl "/api/search" (some query)))
    (hquery : Service.Query.search query = .ok (start, bound)) :
    (service.reply q).field q "results" =
      .ok (.array ((t.search start (bound.map Int.ofNat)).map rowValue)) := by
  have hv := Json.Faithful.searchValue (ht.search start (bound.map Int.ofNat)) hstart
  have hanswer : (Service.answer service
      (Inquiry.localUrl "/api/search" (some query)).request).1 =
        .ok (.json 200 (Service.searchValue start (t.search start (bound.map Int.ofNat)))) := by
    rw [answer_search hserved, Service.answerFrom, hquery]
    exact hv.send
  exact field_of_sent hq hv hanswer "results"

theorem exists_results_eq_error (hserved : service.served = some t) {query : Text}
    (hq : q.address = .ok (Inquiry.localUrl "/api/search" (some query)))
    {ds : List Service.Query.Defect} (hquery : Service.Query.search query = .error ds) :
    ∃ e, (service.reply q).field q "results" = .error e := by
  apply exists_field_eq_error hq
  intro r hr
  rw [answer_search hserved, Service.answerFrom, hquery] at hr
  cases hr
  exact (by decide : Status.isSuccess 422 = false)

end Answer

section Search

variable {w : World} {index : Text} {category : Option Text} {t : Table} {a : Arguments}
  {near far serve texts : List Text} {start : Text}

theorem asks_search (h : Task.ofTexts texts = .ok (.run .search start a)) :
    Asks texts a (.search start a.limit) (Report.search start a.json a.showEntries) := by
  intro w reply
  rw [runTexts, h]
  rfl

theorem ok_search (start : Text) (asJson showEntries : Bool) (rows : List Row) :
    ∀ l ∈ Report.search start asJson showEntries (.array (rows.map rowValue)), Report.Written l := by
  refine Report.written_search_iff.2 (.inr (.inr (List.forall_mem_map.2 fun r _ => ?_)))
  exact Value.resultLike_rowValue showEntries r

/-- No limit, or one that a service takes. -/
def Taken (limit : Option (Given Int)) : Prop := ∀ g ∈ limit, ∃ n, 1 ≤ n ∧ g = .value n

theorem exists_query_search {limit : Option (Given Int)} (htaken : Taken limit)
    (hshort : ∀ n, limit = some (.value n) → n.natAbs < 10 ^ TooManyDigits.limit)
    (hstart : start.hasSurrogate = false) :
    ∃ bound, Service.Query.search (Inquiry.searchQuery start (limit.bind Given.value?)) =
        .ok (start, bound) ∧
      Question.rows start t limit = .ok (t.search start (bound.map Int.ofNat)) := by
  cases limit with
  | none => exact ⟨none, Inquiry.query_search_none hstart, rfl⟩
  | some given =>
    obtain ⟨n, hn, rfl⟩ := htaken given rfl
    refine ⟨some n.toNat, ?_, ?_⟩
    · have hread := Inquiry.query_search_some start (show n ≠ 0 by omega) hstart
      rw [Service.Query.limit_eq_ok hn (hshort n rfl)] at hread
      exact hread
    · have hbound : (n.toNat : Int) = n := Int.toNat_of_nonneg (by omega)
      rw [Option.map_some, Question.rows]
      exact congrArg (fun m => Except.ok (t.search start (some m))) hbound.symm

theorem inquiry_search (hw : Ready w index category t) (start : Text)
    (limit : Option (Given Int)) :
    (Question.search start limit).inquiry w.env.apiUrl =
      .ok (Inquiry.search defaultApiUrl start (limit.bind Given.value?)) := by
  rw [hw.address]
  rfl

theorem consult_search_near (hw : Ready w index category t)
    (hl : Lines .search start a index category near far serve) (hindex : index ≠ [])
    {rows : List Row} (hrows : Question.rows start t a.limit = .ok rows) (service : World) :
    Alike (w.consult service near)
        (.ofLines (Report.search start a.json a.showEntries (.array (rows.map rowValue)))) ∧
      (w.consult service near).exit = 0 := by
  have hv : (Question.search start a.limit).ofTable t = .ok (.array (rows.map rowValue)) :=
    congrArg (Except.map _) hrows
  have hnear := consult_near service (asks_search hl.near) (given?_of_ne_nil hindex)
    hw.loads hv
  exact ⟨hnear, hnear.2.trans (exit_ofLines (ok_search start a.json a.showEntries rows))⟩

theorem search_alike_of_taken (hw : Ready w index category t)
    (hl : Lines .search start a index category near far serve) (hindex : index ≠ [])
    (hstart : start.hasSurrogate = false) (htaken : Taken a.limit)
    (hfits : (Inquiry.search defaultApiUrl start (a.limit.bind Given.value?)).Fits) :
    Alike (w.consult (w.serving serve) far) (w.consult (w.serving serve) near) := by
  obtain ⟨bound, hquery, hrows⟩ := exists_query_search (t := t) htaken
    (fun n hn => natAbs_limit_lt hl.near hn) hstart
  have hfield := field_results (served_of_lines hw hl hindex) hw.plain hstart
    (Inquiry.address_search hstart hfits) hquery
  have hfar := consult_answered (asks_search hl.far) rfl (inquiry_search hw start a.limit) hfield
  exact hfar.trans (consult_search_near hw hl hindex hrows _).1.symm

theorem search_of_neg (hw : Ready w index category t)
    (hl : Lines .search start a index category near far serve) (hindex : index ≠ [])
    (hstart : start.hasSurrogate = false) {n : Int} (hn : n < 0)
    (hlimit : a.limit = some (.value n)) :
    Alike (w.consult (w.serving serve) near)
        (.ofLines (Report.search start a.json a.showEntries (.array []))) ∧
      (w.consult (w.serving serve) near).exit = 0 ∧ Refused (w.consult (w.serving serve) far) := by
  have hrows : Question.rows start t a.limit = .ok [] := by
    rw [hlimit, Question.rows, Table.search]
    split
    · rfl
    · dsimp only
      rw [Int.toNat_of_nonpos (by omega), List.take_zero]
  obtain ⟨hnear, hexit⟩ := consult_search_near hw hl hindex hrows (w.serving serve)
  refine ⟨hnear, hexit, consult_refused (asks_search hl.far) rfl (inquiry_search hw start _) ?_⟩
  by_cases hfits : (Inquiry.search defaultApiUrl start (a.limit.bind Given.value?)).Fits
  · obtain ⟨d, hd⟩ := Service.Query.exists_limit_eq_error hn
    have hquery : Service.Query.search (Inquiry.searchQuery start (a.limit.bind Given.value?)) =
        .error [d] := by
      have hread := Inquiry.query_search_some start (show n ≠ 0 by omega) hstart
      rw [hd] at hread
      rw [hlimit]
      exact hread
    exact exists_results_eq_error (served_of_lines hw hl hindex)
      (Inquiry.address_search hstart hfits) hquery
  · exact exists_field_of_not_fits hfits "results"

/-- A search finds the same in a table and in a service that was started for it, if it has no limit
or one of at least one, and is not too long for a URL. If it is too long, only the table answers.
A limit below zero finds nothing in the table, and the service refuses it. -/
theorem search_alike_unless_refused (hw : Ready w index category t)
    (hl : Lines .search start a index category near far serve)
    (hstart : start.hasSurrogate = false) :
    let service := w.serving serve
    let q := Inquiry.search defaultApiUrl start (a.limit.bind Given.value?)
    (index = [] → Alike (w.consult service far) (w.consult service near)) ∧
    (index ≠ [] →
      (Taken a.limit → q.Fits → Alike (w.consult service far) (w.consult service near)) ∧
      (Taken a.limit → ¬ q.Fits →
        (w.consult service near).exit = 0 ∧ Refused (w.consult service far)) ∧
      ∀ n < 0, a.limit = some (.value n) →
        Alike (w.consult service near)
          (.ofLines (Report.search start a.json a.showEntries (.array []))) ∧
        (w.consult service near).exit = 0 ∧ Refused (w.consult service far)) := by
  intro service q
  have hinquiry := inquiry_search hw start a.limit
  refine ⟨?_, fun hindex => ⟨search_alike_of_taken hw hl hindex hstart, ?_, ?_⟩⟩
  · intro hindex
    exact (consult_far service (asks_search hl.far) rfl hinquiry).trans
      (consult_far service (asks_search hl.near) (hindex ▸ rfl) hinquiry).symm
  · intro htaken hfits
    obtain ⟨_, -, hrows⟩ := exists_query_search (t := t) htaken
      (fun n hn => natAbs_limit_lt hl.near hn) hstart
    exact ⟨(consult_search_near hw hl hindex hrows service).2,
      consult_refused (asks_search hl.far) rfl hinquiry (exists_field_of_not_fits hfits "results")⟩
  · intro n hn hlimit
    exact search_of_neg hw hl hindex hstart hn hlimit

end Search

/-- The lines of a search for `a` in the file and in the service, with a limit. -/
def searchLines (limit : Text) : List Text × List Text :=
  (["search", "a", "--limit", limit, "--index", "/f"], ["search", "a", "--limit", limit])

theorem lines_search_sample :
    Lines .search "a" { Arguments.default with limit := some (.value 1) } "/f" none
      (searchLines "1").1 (searchLines "1").2 serveSample ∧
    Lines .search "a" { Arguments.default with limit := some (.value (-1)) } "/f" none
      (searchLines "-1").1 (searchLines "-1").2 serveSample :=
  ⟨⟨by with_unfolding_all rfl, by with_unfolding_all rfl, _, _, runs_serve_sample, rfl, rfl⟩,
    ⟨by with_unfolding_all rfl, by with_unfolding_all rfl, _, _, runs_serve_sample, rfl, rfl⟩⟩

theorem fits_search_sample : (Inquiry.search defaultApiUrl "a" (some 1)).Fits := by
  rw [Inquiry.fits_search_iff rfl]
  decide

theorem search_alike_unless_refused_sample :
    let service := sampleWorld.serving serveSample
    Alike (sampleWorld.consult service (searchLines "1").2)
      (sampleWorld.consult service (searchLines "1").1) ∧
    (sampleWorld.consult service (searchLines "-1").1).exit = 0 ∧
    Refused (sampleWorld.consult service (searchLines "-1").2) := by
  obtain ⟨t, hw⟩ := exists_ready_sample
  have hindex : ("/f" : Text) ≠ [] := List.cons_ne_nil _ _
  have htaken : Taken (some (.value 1)) := by
    intro g hg
    exact ⟨1, le_rfl, (Option.some.inj hg).symm⟩
  have hone := (search_alike_unless_refused hw lines_search_sample.1 rfl).2 hindex
  have hneg := (search_alike_unless_refused hw lines_search_sample.2 rfl).2 hindex
  exact ⟨hone.1 htaken fits_search_sample, (hneg.2.2 (-1) (by decide) rfl).2⟩

/-- With a limit below zero the two lines of a search do not end alike. -/
theorem search_not_alike_below_zero : ∃ t, Ready sampleWorld "/f" none t ∧
    let service := sampleWorld.serving serveSample
    ¬ Alike (sampleWorld.consult service (searchLines "-1").2)
      (sampleWorld.consult service (searchLines "-1").1) := by
  obtain ⟨t, hw⟩ := exists_ready_sample
  obtain ⟨-, hexit, hrefused⟩ :=
    search_of_neg hw lines_search_sample.2 (List.cons_ne_nil _ _) rfl (by decide) rfl
  refine ⟨t, hw, fun halike => ?_⟩
  exact absurd (hrefused.exit.symm.trans (halike.2.trans hexit)) (by decide)

end Command

end TokenIndex
