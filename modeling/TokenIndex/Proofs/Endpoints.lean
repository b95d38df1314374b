import TokenIndex.Proofs.Answer
import TokenIndex.Proofs.Load.Source
import TokenIndex.Proofs.Session

namespace TokenIndex

section Plain

variable {fs : Files} {category : Text} {source : Source} {t : Table}

theorem Shape.Reads.plain {label : Text} {raw : Value} {e : Entry} (h : Reads label raw e)
    (hlabel : label.hasSurrogate = false)
    (htexts : ∀ text, raw.Has text → text.hasSurrogate = false) : e.Plain := by
  obtain @⟨locator, scope, resolved, flag, link, more, -, -, hr⟩ := h
  have hlocator := htexts locator (.array List.mem_cons_self .text)
  have hscope := htexts scope (.array (by simp) .text)
  exact ⟨hlabel, hlocator, Reference.resolve_plain hr hscope⟩

theorem Shape.ReadsItem.plain {item : Value} {r : Row} (h : ReadsItem item r)
    (htexts : ∀ text, item.Has text → text.hasSurrogate = false) : Row.Plain r := by
  obtain @⟨token, label, resolved, raws, entries, -, -, -, hr, hes⟩ := h
  have hbody (text : Text) (htext : (Value.array (.text label :: raws)).Has text) :
      text.hasSurrogate = false := htexts text (.array (by simp) htext)
  have hlabel := Reference.resolve_plain hr (hbody label (.array List.mem_cons_self .text))
  refine ⟨htexts token (.array List.mem_cons_self .text), fun e he => ?_⟩
  obtain ⟨raw, hraw, hreads⟩ := Load.exists_mem_of_forall₂ hes he
  exact hreads.plain hlabel fun text htext => hbody text (.array (List.mem_cons_of_mem _ hraw) htext)

theorem Load.plain_of_load (h : load fs source category = .ok t)
    (hplain : source.Plain fs category) : t.Plain := by
  obtain ⟨lists, rows, hlists, hrows, hperm⟩ := exists_accepted h
  intro r hr
  obtain ⟨item, hitem, hreads⟩ := exists_mem_of_forall₂ hrows.reads (hperm.mem_iff.1 hr)
  exact hreads.plain fun text htext => hplain lists hlists text (.array hitem htext)

theorem Load.token_ne_nil (h : load fs source category = .ok t) : ∀ token ∈ t.tokens, token ≠ [] := by
  obtain ⟨lists, rows, hlists, hrows, hperm⟩ := exists_accepted h
  intro token htoken
  obtain ⟨item, -, hreads⟩ := exists_item hrows hperm htoken
  obtain ⟨-, -, -, hne, -⟩ := exists_label hreads
  exact hne

end Plain

namespace Json.Faithful

theorem tokensValue {t : Table} (h : t.Plain) : Faithful (Service.tokensValue t) := by
  have htokens : ∀ v ∈ t.tokens.map Value.text, Faithful v := by
    refine List.forall_mem_map.2 fun token htoken => .text ?_
    obtain ⟨r, hr, rfl⟩ := List.mem_map.1 htoken
    exact (h r hr).token
  apply Faithful.object
  · rw [List.forall_mem_singleton]
    exact .array htokens
  · rw [List.forall_mem_singleton]
    rfl
  · exact List.nodup_singleton _

end Json.Faithful

theorem Json.ofNat_plain (n : Nat) : (compact (.ofNat n)).hasSurrogate = false := by
  rw [Value.ofNat, compact, write]
  exact Text.decimalInt_plain n

theorem Table.summary_plain_iff {t : Table} :
    (Json.compact t.summary).hasSurrogate = false ↔ t.source.hasSurrogate = false := by
  constructor
  · intro h
    exact Json.plain_of_string
      (Json.plain_of_object h ("source", .text t.source) List.mem_cons_self)
  · intro h
    apply Json.object_plain
    · simp only [List.forall_mem_cons]
      exact ⟨rfl, rfl, rfl, nofun⟩
    · simp only [List.forall_mem_cons]
      exact ⟨Json.string_plain h, Json.ofNat_plain t.size, Json.ofNat_plain t.entryCount, nofun⟩

namespace Service

def get (target : Text) (headers : Headers) : Request := ⟨"GET", target, headers⟩

/-- A request for this target is answered with this status and value, whatever headers it has. -/
def Responds (w : World) (target : Text) (status : Nat) (v : Value) : Prop :=
  ∀ headers, ∃ added, (answer w (get target headers)).1 = .ok ⟨status, added, .json v⟩

theorem splitTarget_of_plain {path : Text} (hmark : ('?' : CodePoint) ∉ path)
    (hsign : ('%' : CodePoint) ∉ path) (hplain : path.hasSurrogate = false) (query : Option Text) :
    splitTarget (path ++ Url.led "?" query) = (path, query.getD []) := by
  rw [splitTarget_led hmark, Percent.decode_of_not_mem hsign hplain]

theorem permission?_get (target : Text) (headers : Headers) :
    Origin.permission? (get target headers) = none := by
  have hget : (get target headers).method ≠ "OPTIONS" := (by decide : Text.ofString "GET" ≠ "OPTIONS")
  simp only [Origin.permission?, if_neg hget, bind, Option.bind_eq_none_iff, implies_true]

theorem complete_json (r : Request) (status : Nat) (v : Value) :
    ∃ added, Origin.complete r (.json status v) = ⟨status, added, .json v⟩ := by
  rw [Origin.complete]
  cases r.headers.value? Origin.originName with
  | none => exact ⟨[], rfl⟩
  | some origin => exact ⟨_, rfl⟩

theorem answer_get {w : World} {t : Table} (ht : w.table.1 = .ok t) {target path query : Text}
    {route : Route} (htarget : splitTarget target = (path, query))
    (hroute : Route.ofPath? path = some route) (hne : route ≠ .root) (headers : Headers) :
    (answer w (get target headers)).1 =
      (answerFrom t query route).map (Origin.complete (get target headers)) := by
  have hmethod : (get target headers).method = "GET" := rfl
  have hasked : asked? (get target headers) = some (route, query) := by
    have hget : (get target headers).target = target := rfl
    rw [asked?, permission?_get, hget, htarget]
    dsimp only
    rw [hroute]
    dsimp only
    rw [if_neg hne, if_pos hmethod]
  rw [answer_of_asked hasked, ht]
  rfl

theorem responds_of_answerFrom {w : World} {t : Table} (ht : w.table.1 = .ok t) {target path : Text}
    {query : Text} {route : Route} (htarget : splitTarget target = (path, query))
    (hroute : Route.ofPath? path = some route) (hne : route ≠ .root) {status : Nat} {v : Value}
    (h : answerFrom t query route = .ok (.json status v)) : Responds w target status v := by
  intro headers
  obtain ⟨added, hadded⟩ := complete_json (get target headers) status v
  refine ⟨added, ?_⟩
  rw [answer_get ht htarget hroute hne, h, Except.map, hadded]

theorem Responds.unique {w : World} {target : Text} {status status' : Nat} {v v' : Value}
    (h : Responds w target status v) (h' : Responds w target status' v') :
    status = status' ∧ v = v' := by
  obtain ⟨added, hadded⟩ := h []
  obtain ⟨added', hadded'⟩ := h' []
  cases hadded.symm.trans hadded'
  exact ⟨rfl, rfl⟩

namespace Query

theorem decodePart_plain (t : Text) : (decodePart t).hasSurrogate = false :=
  Utf8.decodeLenient_plain _

theorem plain_of_value? {query name t : Text} (h : value? query name = some t) :
    t.hasSurrogate = false := by
  obtain ⟨before, after, hfields, -⟩ := List.lookup_eq_some_iff.1 h
  have hmem : (name, t) ∈ (fields query).reverse :=
    hfields ▸ List.mem_append_right _ List.mem_cons_self
  obtain ⟨part, -, hpart⟩ := List.mem_map.1 (List.mem_reverse.1 hmem)
  have ht : decodePart _ = t := congrArg Prod.snd hpart
  rw [← ht]
  exact decodePart_plain _

theorem plain_of_search {query start : Text} {bound : Option Nat}
    (h : search query = .ok (start, bound)) : start.hasSurrogate = false := by
  rw [search] at h
  split at h
  · rename_i hstart _
    cases h
    split at hstart
    · rename_i hvalue
      cases hstart
      exact plain_of_value? hvalue
    · cases hstart
  all_goals cases h

theorem decimalInt_natCast (n : Nat) : Text.decimalInt n = Text.decimal n := by
  rw [Text.decimalInt, if_neg (by omega), Int.natAbs_natCast]

theorem search_limit_ok {start : Text} {n : Nat} (hstart : start.hasSurrogate = false)
    (hpos : 1 ≤ n) (h : n < 10 ^ TooManyDigits.limit) :
    search (Inquiry.searchQuery start (some n)) = .ok (start, some n) := by
  have hlimit : limit (Text.decimalInt n) = .ok (n : Int).toNat := limit_eq_ok (by omega) h
  rw [Inquiry.query_search_some start (by omega) hstart, hlimit]
  rfl

theorem search_limit_error {start : Text} {n : Nat} (hstart : start.hasSurrogate = false)
    (h : 10 ^ TooManyDigits.limit ≤ n) : search (Inquiry.searchQuery start (some n)) =
      .error [.tooManyDigits limitName (Text.decimal n)] := by
  have hpos : 0 < n := Nat.lt_of_lt_of_le (Nat.pow_pos (by decide)) h
  rw [Inquiry.query_search_some start (by omega) hstart, decimalInt_natCast, limit_eq_error h]
  rfl

end Query

end Service

namespace Table

def cut {α : Type} (bound : Option Nat) (l : List α) : List α := bound.elim l l.take

variable (t : Table) {start : Text}

theorem search_eq_cut (start : Text) (bound : Option Nat) :
    t.search start (bound.map Int.ofNat) = cut bound (t.search start none) := by
  cases bound with
  | none => rfl
  | some n => exact t.search_some start n

theorem search_eq_map (bound : Option Nat) (h : start ≠ []) :
    t.search start (bound.map Int.ofNat) =
      (cut bound (t.tokens.filter (·.startsWith start))).map
        fun token => (token, t.lookup token) := by
  have hall : t.search start none =
      (t.tokens.filter (·.startsWith start)).map fun token => (token, t.lookup token) := by
    rw [search_eq_filter t h, rows_eq_map, List.filter_map]
    rfl
  rw [search_eq_cut, hall]
  cases bound with
  | none => rfl
  | some n => exact List.map_take.symm

end Table

namespace Service

open Table (cut)

/-- A world that serves a table loaded from data without surrogates. -/
structure Serves (w : World) (t : Table) : Prop where
  table : w.table.1 = .ok t
  loaded : ∃ fs source category, load fs source category = .ok t ∧ source.Plain fs category

namespace Serves

variable {w : World} {t : Table}

theorem plain (h : Serves w t) : t.Plain := by
  obtain ⟨fs, source, category, hload, hplain⟩ := h.loaded
  exact Load.plain_of_load hload hplain

theorem token_ne_nil (h : Serves w t) : ∀ token ∈ t.tokens, token ≠ [] := by
  obtain ⟨fs, source, category, hload, -⟩ := h.loaded
  exact Load.token_ne_nil hload

theorem responds_tokens (h : Serves w t) : Responds w "/api/tokens" 200 (tokensValue t) := by
  have hroute : Route.ofPath? "/api/tokens" = some .tokens := rfl
  have htarget : splitTarget "/api/tokens" = (Text.ofString "/api/tokens", []) :=
    @splitTarget_of_plain "/api/tokens" (by decide) (by decide) rfl none
  exact responds_of_answerFrom h.table htarget hroute nofun
    (Json.Faithful.tokensValue h.plain).send

theorem responds_index_iff (h : Serves w t) :
    Responds w "/api/index" 200 t.summary ↔ t.source.hasSurrogate = false := by
  have hroute : Route.ofPath? "/api/index" = some .index := rfl
  have htarget : splitTarget "/api/index" = (Text.ofString "/api/index", []) :=
    @splitTarget_of_plain "/api/index" (by decide) (by decide) rfl none
  rw [← Table.summary_plain_iff]
  constructor
  · intro hresponds
    obtain ⟨added, hadded⟩ := hresponds []
    rw [answer_get h.table htarget hroute nofun] at hadded
    obtain ⟨r, hr, -⟩ := map_eq_ok_iff.1 hadded
    exact plain_of_send hr
  · intro hplain
    exact responds_of_answerFrom h.table htarget hroute nofun (send_eq_ok hplain)

theorem responds_search (h : Serves w t) {query : Text} {status : Nat} {v : Value}
    (hanswer : answerFrom t query .search = .ok (.json status v)) :
    Responds w ("/api/search?" ++ query) status v := by
  have hroute : Route.ofPath? "/api/search" = some .search := rfl
  have htarget : splitTarget ("/api/search?" ++ query) = (Text.ofString "/api/search", query) :=
    @splitTarget_of_plain "/api/search" (by decide) (by decide) rfl (some query)
  exact responds_of_answerFrom h.table htarget hroute nofun hanswer

theorem responds_results (h : Serves w t) {query start : Text} {bound : Option Nat}
    (hquery : Query.search query = .ok (start, bound)) :
    Responds w ("/api/search?" ++ query) 200
      (searchValue start (t.search start (bound.map Int.ofNat))) := by
  apply h.responds_search
  rw [answerFrom, hquery]
  exact (Json.Faithful.searchValue (h.plain.search start _) (Query.plain_of_search hquery)).send

theorem responds_defects (h : Serves w t) {query : Text} {ds : List Query.Defect}
    (hquery : Query.search query = .error ds) :
    Responds w ("/api/search?" ++ query) 422 (defectsValue ds) := by
  apply h.responds_search
  rw [answerFrom, hquery]

theorem token_plain (h : Serves w t) {token : Text} (htoken : token ∈ t.tokens) :
    token.hasSurrogate = false := by
  obtain ⟨r, hr, rfl⟩ := List.mem_map.1 htoken
  exact (h.plain r hr).token

theorem responds_lookup (h : Serves w t) {token : Text} (htoken : token ∈ t.tokens)
    (hslash : ('/' : CodePoint) ∉ token) :
    ∃ encoded, Percent.encode token = .ok encoded ∧
      Responds w ("/api/lookup/" ++ encoded) 200 (lookupValue t token) := by
  have hplain := h.token_plain htoken
  have hmark : ('?' : CodePoint) ∉ Text.ofString "/api/lookup/" ++
      Percent.spelled Percent.isUnreserved token := by
    rw [List.mem_append, not_or]
    refine ⟨by decide, fun hmem => ?_⟩
    have hclass := Percent.forall_mem_spelled Percent.isUnreserved
      (p := fun c => c != ('?' : CodePoint)) (by decide +kernel) token
    exact absurd (hclass _ hmem).2 (by decide)
  have htarget : splitTarget ("/api/lookup/" ++ Percent.spelled Percent.isUnreserved token) =
      (Route.lookupLead ++ token, []) := by
    have hsplit := splitTarget_led hmark none
    rw [Percent.decode_append_spelled rfl _ (by decide) rfl hplain] at hsplit
    simpa [Url.led, Route.lookupLead] using hsplit
  have hroute : Route.ofPath? (Route.lookupLead ++ token) = some (.lookup token) := by
    rw [Route.ofPath?_lookup (h.token_ne_nil token htoken), if_neg]
    simpa using hslash
  exact ⟨_, Percent.encode_eq_ok hplain, responds_of_answerFrom h.table htarget hroute nofun
    (Json.Faithful.lookupValue h.plain hplain).send⟩

end Serves

/-- A world that serves a table and has nothing else. -/
def offering (t : Table) : World := { World.empty [] with served := some t }

theorem serves_offering {fs : Files} {source : Source} {category : Text} {t : Table}
    (h : load fs source category = .ok t) (hplain : source.Plain fs category) :
    Serves (offering t) t :=
  ⟨rfl, fs, source, category, h, hplain⟩

theorem plain_oneEntry (fs : Files) (category : Text) :
    (Source.items [Load.oneEntry "a" "A" "x.html" []]).Plain fs category := by
  intro lists hlists text htext
  cases hlists with
  | items =>
    simp only [Load.oneEntry, List.flatten_singleton, Value.has_array_iff, Value.has_text_iff,
      Value.not_has_int, List.mem_cons, List.not_mem_nil, exists_eq_or_imp, exists_eq_left,
      or_false, false_or] at htext
    obtain rfl | rfl | rfl | rfl := htext <;> rfl
  | file hp => cases hp
  | directory hp => cases hp

theorem exists_serves_oneEntry : ∃ t, Serves (offering t) t ∧
    t.rows = [(Text.ofString "a", [⟨"A", "x.html", [], true⟩])] := by
  have hlabel : Reference.resolve "A" = .ok "A" := by with_unfolding_all rfl
  have ha : Text.ofString "a" ≠ [] := List.cons_ne_nil _ _
  have hA : Text.ofString "A" ≠ [] := List.cons_ne_nil _ _
  have hx : Text.ofString "x.html" ≠ [] := List.cons_ne_nil _ _
  obtain ⟨t, ht, hrows⟩ := Load.exists_load_oneEntry (.empty []) "all" ha hA hx hlabel
  exact ⟨t, serves_offering ht (plain_oneEntry _ _), hrows⟩

/-- A file without items, named by one byte that is no character. -/
def rawName : Path := ⟨.relative, [[0xDCFF]]⟩

def rawFiles : Files := ⟨[], [([[0xDCFF]], .file [0x5B, 0x5D])]⟩

theorem status_rawName : rawFiles.status rawName = .ok (some (.file [0x5B, 0x5D])) := rfl

theorem read_rawName : Load.read rawFiles rawName = .ok "[]" :=
  Load.read_of_encoded (t := "[]") (Utf8.encode_eq_ok (by decide)) status_rawName

theorem plain_rawName (category : Text) : (Source.path rawName).Plain rawFiles category := by
  have hparse : Literal.parse "[]" = .ok [] := by with_unfolding_all rfl
  intro lists hlists text htext
  cases hlists with
  | file hp hspells =>
    cases hp
    obtain ⟨text, hread', hparse'⟩ := hspells
    cases read_rawName.symm.trans hread'
    cases hparse.symm.trans hparse'
    rw [Value.has_array_iff] at htext
    obtain ⟨v, hv, -⟩ := htext
    cases hv
  | directory hp hspelled =>
    cases hp
    cases status_rawName.symm.trans hspelled.directory

theorem exists_serves_rawName : ∃ t, Serves (offering t) t ∧ t.source.hasSurrogate = true := by
  have hload : load rawFiles (.path rawName) "all" = .ok ⟨[0xDCFF], [], .nil, nofun⟩ := by
    rw [Load.load_of_read rfl read_rawName]
    with_unfolding_all rfl
  exact ⟨_, serves_offering hload (plain_rawName _), rfl⟩

/-- What the routes tell: all tokens and, whatever is looked for, the entries of each. -/
structure Story (w : World) (source : Text) (tokens : List Text) (entries : Text → List Entry) :
    Prop where
  all : Responds w "/api/tokens" 200 (.object [("tokens", .array (tokens.map .text))])
  found : ∀ query start bound, Query.search query = .ok (start, bound) → start ≠ [] →
    Responds w ("/api/search?" ++ query) 200 (searchValue start
      ((cut bound (tokens.filter (·.startsWith start))).map fun token => (token, entries token)))
  looked : ∀ token ∈ tokens, ('/' : CodePoint) ∉ token → ∃ encoded,
    Percent.encode token = .ok encoded ∧ Responds w ("/api/lookup/" ++ encoded) 200
      (.object [("token", .text token), ("entries", entriesValue (entries token))])
  counted : Responds w "/api/index" 200
    (.object [("source", .text source), ("token_count", .ofNat tokens.length),
      ("entry_count", .ofNat (tokens.map fun token => (entries token).length).sum)]) ↔
    source.hasSurrogate = false

theorem Serves.story {w : World} {t : Table} (h : Serves w t) :
    Story w t.source t.tokens t.lookup where
  all := h.responds_tokens
  found query start bound hquery hstart := by
    rw [← Table.search_eq_map t bound hstart]
    exact h.responds_results hquery
  looked token htoken hslash := h.responds_lookup htoken hslash
  counted := by
    have hsize : t.tokens.length = t.size := List.length_map _
    rw [hsize, ← Table.entryCount_eq_sum]
    exact h.responds_index_iff

/-- Of a table that was loaded from data without surrogates all routes tell the same: a search finds
the tokens that begin with a text, in the order of all tokens and each with the entries that a
look-up gives, and the counts are those of the tokens and their entries, which are told unless the
name of the source cannot be sent. Every text that begins a search can be asked for, and any limit
from one on but those with more digits than are converted: these are refused. -/
theorem routes_agree {w : World} {t : Table} (h : Serves w t) :
    Story w t.source t.tokens t.lookup ∧
      ∀ start : Text, start.hasSurrogate = false →
        Query.search (Inquiry.searchQuery start none) = .ok (start, none) ∧
        ∀ n : Nat, 1 ≤ n →
          (n < 10 ^ TooManyDigits.limit →
            Query.search (Inquiry.searchQuery start (some n)) = .ok (start, some n)) ∧
          (10 ^ TooManyDigits.limit ≤ n →
            Responds w ("/api/search?" ++ Inquiry.searchQuery start (some n)) 422
              (defectsValue [.tooManyDigits Query.limitName (Text.decimal n)])) := by
  refine ⟨h.story, fun start hstart => ⟨Inquiry.query_search_none hstart, fun n hn => ⟨?_, ?_⟩⟩⟩
  · exact Query.search_limit_ok hstart hn
  · intro hlong
    exact h.responds_defects (Query.search_limit_error hstart hlong)

theorem routes_agree_oneEntry : ∃ t, Serves (offering t) t ∧
    Responds (offering t) "/api/tokens" 200 (.object [("tokens", .array [.text "a"])]) ∧
    Responds (offering t) "/api/search?prefix=a&limit=1" 200
      (searchValue "a" [("a", [⟨"A", "x.html", [], true⟩])]) ∧
    Responds (offering t) "/api/lookup/a" 200
      (.object [("token", .text "a"), ("entries", entriesValue [⟨"A", "x.html", [], true⟩])]) ∧
    Query.search (Inquiry.searchQuery "a" (some (1 : Nat))) = .ok ("a", some 1) := by
  obtain ⟨t, ht, hrows⟩ := exists_serves_oneEntry
  obtain ⟨hstory, hqueries⟩ := routes_agree ht
  have htokens : t.tokens = ["a"] := by rw [Table.tokens, hrows]; rfl
  have hlookup : t.lookup "a" = [⟨"A", "x.html", [], true⟩] :=
    Table.lookup_of_mem (hrows ▸ List.mem_cons_self)
  have hquery : Query.search "prefix=a&limit=1" = .ok ("a", some 1) := by
    with_unfolding_all rfl
  rw [htokens] at hstory
  have hfound := hstory.found _ _ _ hquery (List.cons_ne_nil _ _)
  obtain ⟨encoded, hencoded, hlooked⟩ := hstory.looked "a" List.mem_cons_self (by decide)
  have hself : Percent.encode "a" = .ok "a" := rfl
  cases hself.symm.trans hencoded
  rw [hlookup] at hlooked
  refine ⟨t, ht, hstory.all, ?_, hlooked, (hqueries "a" rfl).2 1 le_rfl |>.1 ?_⟩
  · rw [← hlookup]
    exact hfound
  · exact Nat.one_lt_pow (by decide) (by decide)

def tooHigh : Nat := 10 ^ TooManyDigits.limit

/-- Not every limit is taken, and not every table is told about. -/
theorem limit_refused_index_unsent :
    (∃ t, Serves (offering t) t ∧ t.rows = [(Text.ofString "a", [⟨"A", "x.html", [], true⟩])] ∧
      ¬ Responds (offering t) ("/api/search?" ++ Inquiry.searchQuery "a" (some tooHigh)) 200
        (searchValue "a" ((t.search "a" none).take tooHigh))) ∧
    ∃ t, Serves (offering t) t ∧ ¬ Responds (offering t) "/api/index" 200 t.summary := by
  constructor
  · obtain ⟨t, ht, hrows⟩ := exists_serves_oneEntry
    refine ⟨t, ht, hrows, fun hresponds => ?_⟩
    have hrefused := ht.responds_defects (@Query.search_limit_error "a" tooHigh rfl le_rfl)
    exact absurd (hresponds.unique hrefused).1 (by decide)
  · obtain ⟨t, ht, hsource⟩ := exists_serves_rawName
    refine ⟨t, ht, fun hresponds => ?_⟩
    rw [ht.responds_index_iff.1 hresponds] at hsource
    cases hsource

end Service

end TokenIndex
