import TokenIndex.Exchange
import TokenIndex.Proofs.Json.RoundTrip
import TokenIndex.Proofs.Query

namespace TokenIndex

open Environment (defaultApiUrl)

namespace Inquiry

/-- A question that is no longer than a client sends. -/
def Fits (q : Inquiry) : Prop :=
  q.url.length ≤ Url.greatestLength ∧ ∀ fields parts, q.fields = some fields →
    query fields = .ok parts → (Text.join "&" parts).length ≤ Url.greatestLength

theorem fits_of_address {q : Inquiry} {url : Url} (h : q.address = .ok url) : q.Fits := by
  have hread {given : Option Text}
      (h : ((Url.ofText q.url given).bind Url.requestable).mapError ClientError.badUrl = .ok url) :
      q.url.length ≤ Url.greatestLength ∧ ∀ t ∈ given, t.length ≤ Url.greatestLength := by
    cases hu : Url.ofText q.url given with
    | ok u => exact Url.short_of_ofText hu
    | error e =>
      rw [hu] at h
      cases h
  rw [address] at h
  cases hfields : q.fields with
  | none =>
    rw [hfields] at h
    exact ⟨(hread h).1, fun fields _ hsome => absurd (hfields.symm.trans hsome) nofun⟩
  | some fields =>
    rw [hfields] at h
    dsimp only at h
    split at h
    · cases h
    · rename_i given hgiven
      obtain ⟨hlength, hquery⟩ := hread h
      refine ⟨hlength, fun fields' parts hfields' hparts => hquery _ ?_⟩
      cases hfields.symm.trans hfields'
      rw [hparts] at hgiven
      exact (Except.ok.inj hgiven).symm

/-- The URL at the default site with this path and query. -/
def localUrl (path : Text) (query : Option Text) : Url :=
  ⟨"http", [], "localhost", some 8000, path, query, none⟩

section Lookup

variable {token : Text}

theorem lookup_eq_ok (h : token.hasSurrogate = false) :
    lookup defaultApiUrl token =
      .ok (plain defaultApiUrl ("/lookup/" ++ Percent.spelled Percent.isUnreserved token)) := by
  rw [lookup, Percent.encode_eq_ok h]
  rfl

/-- The path that a token is asked for at. Dots alone are taken for parts that go nowhere or up. -/
def lookupPath (token : Text) : Text :=
  if token = "." then "/api/lookup"
  else if token = ".." then "/api"
  else "/api/lookup/" ++ Percent.spelled Percent.isUnreserved token

theorem spelled_eq_iff (part : Text) (hsame : Percent.spelled Percent.isUnreserved part = part)
    (hplain : part.hasSurrogate = false) (h : token.hasSurrogate = false) :
    Percent.spelled Percent.isUnreserved token = part ↔ token = part := by
  have hkept : Percent.isUnreserved '%' = false := by decide
  refine ⟨fun heq => ?_, fun heq => heq ▸ hsame⟩
  have hback := Percent.decode_spelled hkept hplain
  rwa [hsame, ← heq, Percent.decode_spelled hkept h, heq] at hback

theorem slash_not_mem_spelled (t : Text) :
    ('/' : CodePoint) ∉ Percent.spelled Percent.isUnreserved t := by
  intro h
  have hclass := Percent.forall_mem_spelled Percent.isUnreserved
    (p := fun c => c != ('/' : CodePoint)) (by decide +kernel) t
  exact absurd (hclass _ h).2 (by decide)

theorem join_dropDots_lookup (h : token.hasSurrogate = false) :
    Text.join "/" (Url.dropDots (Text.splitOn '/'
      ("/api" ++ ("/lookup/" ++ Percent.spelled Percent.isUnreserved token)))) =
      lookupPath token := by
  have hparts : Text.splitOn '/'
      ("/api" ++ ("/lookup/" ++ Percent.spelled Percent.isUnreserved token)) =
      [[], "api", "lookup", Percent.spelled Percent.isUnreserved token] := by
    refine @Text.splitOn_join '/' [[], "api", "lookup", _] ?_ (List.cons_ne_nil _ _)
    have hnot := slash_not_mem_spelled token
    simp only [List.forall_mem_cons]
    exact ⟨by decide, by decide, by decide, hnot, nofun⟩
  rw [hparts, lookupPath]
  split_ifs with hdot hdots
  · rw [(spelled_eq_iff "." rfl rfl h).2 hdot]
    rfl
  · rw [(spelled_eq_iff ".." rfl rfl h).2 hdots]
    rfl
  · have hdot' := mt (spelled_eq_iff "." rfl rfl h).1 hdot
    have hdots' := mt (spelled_eq_iff ".." rfl rfl h).1 hdots
    let parts : List Text := [[], "api", "lookup"]
    have hfold (part : Text) : Url.dropDots [[], "api", "lookup", part] =
        if part = "." then parts
        else if part = ".." then if parts = [[]] then parts else parts.dropLast
        else parts ++ [part] := rfl
    rw [hfold, if_neg hdot', if_neg hdots']
    rfl

theorem inPath_lookupPath (token : Text) : Url.InPath (lookupPath token) := by
  rw [lookupPath]
  split_ifs
  · exact Url.inPath_of_all (by decide)
  · exact Url.inPath_of_all (by decide)
  · have hlead : Url.InPath "/api/lookup/" := Url.inPath_of_all (by decide)
    exact List.forall_mem_append.2 ⟨hlead, Url.inPath_spelled token⟩

theorem address_lookup {q : Inquiry} (h : token.hasSurrogate = false)
    (hq : lookup defaultApiUrl token = .ok q) (hfits : q.Fits) :
    q.address = .ok (localUrl (lookupPath token) none) := by
  rw [lookup_eq_ok h] at hq
  cases hq
  have hpath : Url.InPath
      ("/api" ++ ("/lookup/" ++ Percent.spelled Percent.isUnreserved token)) := by
    have hlead : Url.InPath ("/api" ++ "/lookup/") := Url.inPath_of_all (by decide)
    rw [← List.append_assoc]
    exact List.forall_mem_append.2 ⟨hlead, Url.inPath_spelled token⟩
  have hurl := Url.ofText_local none hpath (inPath_lookupPath token)
    (join_dropDots_lookup h) hfits.1 nofun
  rw [address]
  dsimp only [plain]
  rw [hurl, Except.bind, Url.requestable_local]
  rfl

end Lookup

section Search

variable {start : Text} {limit : Option Int}

/-- The fields of a search as they are written: a limit of zero is left out. -/
def searchTexts (start : Text) (limit : Option Int) : List (Text × Text) :=
  ("prefix", start) :: match limit with
    | some n => if n = 0 then [] else [("limit", Text.decimalInt n)]
    | none => []

theorem texts_search (start : Text) (limit : Option Int) (base : Text) :
    ∃ fields, (search base start limit).fields = some fields ∧
      texts fields = searchTexts start limit := by
  refine ⟨_, rfl, ?_⟩
  unfold searchTexts
  cases limit with
  | none => rfl
  | some n =>
    dsimp only
    split_ifs <;> rfl

theorem forall_mem_searchTexts (h : start.hasSurrogate = false) :
    ∀ f ∈ searchTexts start limit, isName f.1 = true ∧ f.2.hasSurrogate = false := by
  unfold searchTexts
  refine List.forall_mem_cons.2 ⟨⟨rfl, h⟩, ?_⟩
  cases limit with
  | none => exact nofun
  | some n =>
    dsimp only
    split_ifs
    · exact nofun
    · rw [List.forall_mem_singleton]
      exact ⟨rfl, Text.decimalInt_plain n⟩

/-- The query of a search. -/
def searchQuery (start : Text) (limit : Option Int) : Text :=
  Text.join "&" ((searchTexts start limit).map writtenField)

theorem query_fields_search (h : start.hasSurrogate = false) {base : Text}
    {fields : List (Text × Value)} (hfields : (search base start limit).fields = some fields) :
    query fields = .ok ((searchTexts start limit).map writtenField) := by
  obtain ⟨fields', hfields', htexts⟩ := texts_search start limit base
  cases hfields.symm.trans hfields'
  rw [query_eq_ok (htexts ▸ fun f hf => (forall_mem_searchTexts h f hf).2), htexts]

theorem fits_search_iff (h : start.hasSurrogate = false) :
    (search defaultApiUrl start limit).Fits ↔
      (searchQuery start limit).length ≤ Url.greatestLength := by
  have hurl : (defaultApiUrl ++ "/search").length ≤ Url.greatestLength := by decide
  constructor
  · intro hfits
    exact hfits.2 _ _ rfl (@query_fields_search _ _ h defaultApiUrl _ rfl)
  · intro hshort
    refine ⟨hurl, fun fields parts hfields hparts => ?_⟩
    cases (query_fields_search h hfields).symm.trans hparts
    exact hshort

theorem address_search (h : start.hasSurrogate = false)
    (hfits : (search defaultApiUrl start limit).Fits) :
    (search defaultApiUrl start limit).address =
      .ok (localUrl "/api/search" (some (searchQuery start limit))) := by
  obtain ⟨fields, hfields, -⟩ := texts_search start limit defaultApiUrl
  have hquery := query_fields_search h hfields
  have hshort := (fits_search_iff h).1 hfits
  have hplain : Url.InQuery (searchQuery start limit) := by
    refine Url.inQuery_join (List.forall_mem_map.2 fun f hf => ?_)
    exact inQuery_writtenField (forall_mem_searchTexts h f hf).1
  have hpath : Url.InPath ("/api" ++ "/search") := Url.inPath_of_all (by decide)
  have hurl := Url.ofText_local (some (searchQuery start limit)) hpath hpath rfl (by decide)
    (fun q hq => Option.some.inj hq ▸ ⟨hshort, hplain⟩)
  have hbase : (search defaultApiUrl start limit).url = defaultApiUrl ++ "/search" := rfl
  rw [address, hfields, hbase]
  dsimp only
  rw [hquery]
  dsimp only
  rw [← searchQuery, hurl, Except.bind, Url.requestable_local]
  rfl

theorem fields_searchQuery (limit : Option Int) (h : start.hasSurrogate = false) :
    Service.Query.fields (searchQuery start limit) = searchTexts start limit :=
  fields_join (fun f hf => (forall_mem_searchTexts h f hf).1)
    (fun f hf => (forall_mem_searchTexts h f hf).2) (by unfold searchTexts; exact nofun)

theorem query_search_none (h : start.hasSurrogate = false) :
    Service.Query.search (searchQuery start none) = .ok (start, none) := by
  have hprefix : Service.Query.value? (searchQuery start none) Service.Query.prefixName =
      some start := by
    rw [Service.Query.value?, fields_searchQuery none h]
    rfl
  have hlimit : Service.Query.value? (searchQuery start none) Service.Query.limitName = none := by
    rw [Service.Query.value?, fields_searchQuery none h]
    rfl
  rw [Service.Query.search, hprefix, hlimit]

theorem query_search_some (start : Text) {n : Int} (hn : n ≠ 0)
    (h : start.hasSurrogate = false) :
    Service.Query.search (searchQuery start (some n)) =
      ((Service.Query.limit (Text.decimalInt n)).map fun m => (start, some m)).mapError ([·]) := by
  have hfields : Service.Query.fields (searchQuery start (some n)) =
      [(Service.Query.prefixName, start), (Service.Query.limitName, Text.decimalInt n)] := by
    rw [fields_searchQuery _ h]
    unfold searchTexts
    dsimp only
    rw [if_neg hn]
    rfl
  have hprefix : Service.Query.value? (searchQuery start (some n)) Service.Query.prefixName =
      some start := by
    rw [Service.Query.value?, hfields]
    rfl
  have hlimit : Service.Query.value? (searchQuery start (some n)) Service.Query.limitName =
      some (Text.decimalInt n) := by
    rw [Service.Query.value?, hfields]
    rfl
  rw [Service.Query.search, hprefix, hlimit]
  dsimp only
  cases Service.Query.limit (Text.decimalInt n) <;> rfl

end Search

end Inquiry

namespace Json

theorem Faithful.parse_bytes {f : Text × Value} {fs : List (Text × Value)}
    (h : Faithful (.object (f :: fs))) :
    Reply.parse ((compact (.object (f :: fs))).flatMap Utf8.encodeOne) =
      .ok (.object (f :: fs)) := by
  obtain ⟨t, ht⟩ := exists_join_fields f fs "\x7d"
  have hstart : compact (.object (f :: fs)) = ('\x7b' : CodePoint) :: ('"' : CodePoint) :: t := by
    rw [compact_object, ht]
  have hdecode := @decode_encode '\x7b' '"' t (hstart ▸ h.plain) (by decide) (by decide)
  rw [← hstart] at hdecode
  rw [Reply.parse, hdecode]
  dsimp only
  rw [h.parse_compact]
  rfl

end Json

namespace Reply

theorem value_success {q : Inquiry} {url : Url} (hq : q.address = .ok url) {f : Text × Value}
    {fs : List (Text × Value)} (h : Json.Faithful (.object (f :: fs))) :
    Reply.value q (.json 200 (.object (f :: fs))) = .ok (.object (f :: fs)) := by
  have hcontent : content (.object (f :: fs)) = .ok (Json.compact (.object (f :: fs))) := by
    rw [content]
    · rw [h.finite, if_pos rfl]
    · exact nofun
  have hbytes : (content (.object (f :: fs))).bind bytes =
      .ok ((Json.compact (.object (f :: fs))).flatMap Utf8.encodeOne) := by
    rw [hcontent, Except.bind, bytes, Utf8.encode_eq_ok h.plain]
    rfl
  rw [value, checked, hq, hbytes]
  dsimp only
  rw [if_pos (by decide), h.parse_bytes]

theorem exists_value_eq_error (q : Inquiry) {r : Service.Response}
    (h : Status.isSuccess r.status = false) : ∃ e, (ofResponse r).value q = .error e := by
  have hchecked (t : Except ClientError Text) : ∃ e, checked q r.status t = .error e := by
    rw [checked]
    split
    · exact ⟨_, rfl⟩
    · exact ⟨_, rfl⟩
    · rw [h, if_neg Bool.false_ne_true]
      exact ⟨_, rfl⟩
  rw [ofResponse]
  split
  · exact hchecked _
  · exact hchecked _

end Reply

end TokenIndex
