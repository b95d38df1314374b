import TokenIndex.Proofs.Client
import TokenIndex.Proofs.Table

namespace TokenIndex

namespace Service

namespace Route

theorem fixed_lookup (token : Text) :
    (fixed.find? fun f => lookupLead ++ token == f.1 || lookupLead ++ token == f.1 ++ "\n") =
      none :=
  rfl

theorem ofPath?_lookup {token : Text} (hne : token ≠ []) :
    ofPath? (lookupLead ++ token) =
      if token.contains ('/' : CodePoint) then none else some (lookup token) := by
  rw [ofPath?, fixed_lookup]
  dsimp only
  rw [Text.after?_append]
  dsimp only
  rw [List.isEmpty_eq_false_iff.2 hne, Bool.false_or]

end Route

theorem elsewhere_not_success {path query : Text} {r : Response}
    (h : elsewhere path query = .ok r) :
    Status.isSuccess r.status = false := by
  rw [elsewhere] at h
  split at h
  · cases h
    decide
  · split at h
    · cases h
      exact (by decide : Status.isSuccess 307 = false)
    · cases h

section Request

variable {w : World} {u : Url}

theorem answer_request (w : World) (u : Url) : answer w u.request = route w u.request := by
  have hpermission : Origin.permission? u.request = none := rfl
  have hcomplete : Origin.complete u.request = id := rfl
  rw [answer, hpermission]
  dsimp only
  rw [hcomplete, Except.map_id]
  rfl

theorem splitTarget_led {path : Text} (h : ('?' : CodePoint) ∉ path) (query : Option Text) :
    splitTarget (path ++ Url.led "?" query) = (Percent.decode path, query.getD []) := by
  have hrun : ∀ c ∈ path, decide (c ≠ ('?' : CodePoint)) = true := by
    intro c hc
    exact decide_eq_true (ne_of_mem_of_not_mem hc h)
  have hends : Text.Ends (fun c => decide (c ≠ ('?' : CodePoint))) (Url.led "?" query) := by
    cases query with
    | none => exact Text.ends_nil _
    | some q => exact Text.ends_cons.2 rfl
  rw [splitTarget, Text.takeWhile_run hrun hends, Text.dropWhile_run hrun hends]
  cases query <;> rfl

theorem splitTarget_request (hpath : Url.InPath u.path) (hne : u.path ≠ []) :
    splitTarget u.request.target = (Percent.decode u.path, u.query.getD []) := by
  have htarget : u.request.target = u.path ++ Url.led "?" u.query := by
    rw [Url.request]
    dsimp only
    rw [if_neg hne]
  have hmark : ('?' : CodePoint) ∉ u.path := fun hmem => absurd (hpath _ hmem).2 (by decide)
  rw [htarget, splitTarget_led hmark]

theorem answer_elsewhere (hpath : Url.InPath u.path) (hne : u.path ≠ [])
    (hroute : Route.ofPath? (Percent.decode u.path) = none) {r : Response}
    (hr : (answer w u.request).1 = .ok r) : Status.isSuccess r.status = false := by
  rw [answer_request, route, splitTarget_request hpath hne] at hr
  dsimp only at hr
  rw [hroute] at hr
  exact elsewhere_not_success hr

theorem answer_asked {t : Table} {r : Route} (hpath : Url.InPath u.path) (hne : u.path ≠ [])
    (hroute : Route.ofPath? (Percent.decode u.path) = some r) (hr : r ≠ .root)
    (hserved : w.served = some t) :
    (answer w u.request).1 = answerFrom t (u.query.getD []) r := by
  rw [answer_request, route, splitTarget_request hpath hne]
  dsimp only
  rw [hroute]
  dsimp only
  have hget : u.request.method = "GET" := rfl
  rw [if_pos hget, answerRoute, if_neg hr, World.table_of_served hserved]

end Request

end Service

theorem Service.send_eq_ok {v : Value} (h : (Json.compact v).hasSurrogate = false) :
    send v = .ok (.json 200 v) := by
  rw [send, Response.ofValue, Utf8.encode_eq_ok h]

theorem Service.plain_of_send {v : Value} {r : Response} (h : send v = .ok r) :
    (Json.compact v).hasSurrogate = false := by
  rw [send, Response.ofValue] at h
  cases hbytes : Utf8.encode (Json.compact v) with
  | ok bytes => exact Utf8.plain_of_encode hbytes
  | error e =>
    rw [hbytes] at h
    cases h

/-- An entry whose texts can be sent. -/
structure Entry.Plain (e : Entry) : Prop where
  label : e.label.hasSurrogate = false
  locator : e.locator.hasSurrogate = false
  scope : e.scope.hasSurrogate = false

structure Row.Plain (r : Row) : Prop where
  token : r.1.hasSurrogate = false
  entries : ∀ e ∈ r.2, e.Plain

/-- A table without surrogates. -/
def Table.Plain (t : Table) : Prop := ∀ r ∈ t.rows, Row.Plain r

theorem Table.Plain.lookup {t : Table} (h : t.Plain) (token : Text) :
    ∀ e ∈ t.lookup token, e.Plain := by
  by_cases htoken : token ∈ t.tokens
  · obtain ⟨r, hr, rfl⟩ := List.mem_map.1 htoken
    rw [Table.lookup_of_mem hr]
    exact (h r hr).entries
  · rw [Table.lookup_of_not_mem htoken]
    exact nofun

theorem Table.Plain.search {t : Table} (h : t.Plain) (start : Text) (limit : Option Int) :
    ∀ r ∈ t.search start limit, Row.Plain r :=
  fun r hr => h r (t.search_subset start limit hr)

namespace Json.Faithful

theorem entry {e : Entry} (h : e.Plain) : Faithful e.toValue := by
  apply Faithful.object
  · simp only [List.forall_mem_cons]
    exact ⟨.text h.label, .text h.locator, .text h.scope, .bool _, nofun⟩
  · simp only [List.forall_mem_cons]
    exact ⟨rfl, rfl, rfl, rfl, nofun⟩
  · exact (by decide : ([("label" : Text), "locator", "scope", "parent_frame"] : List Text).Nodup)

theorem entries {es : List Entry} (h : ∀ e ∈ es, e.Plain) : Faithful (entriesValue es) :=
  .array (List.forall_mem_map.2 fun e he => entry (h e he))

theorem label {r : Row} (h : Row.Plain r) :
    Text.hasSurrogate ((r.2.head?.map Entry.label).getD []) = false := by
  cases hr : r.2 with
  | nil => rfl
  | cons e es => exact (h.entries e (hr ▸ List.mem_cons_self)).label

theorem row {r : Row} (h : Row.Plain r) : Faithful (rowValue r) := by
  apply Faithful.object
  · simp only [List.forall_mem_cons]
    exact ⟨.text h.token, .text (label h), entries h.entries, nofun⟩
  · simp only [List.forall_mem_cons]
    exact ⟨rfl, rfl, rfl, nofun⟩
  · exact (by decide : ([("token" : Text), "label", "entries"] : List Text).Nodup)

theorem lookupValue {t : Table} (h : t.Plain) {token : Text} (htoken : token.hasSurrogate = false) :
    Faithful (Service.lookupValue t token) := by
  apply Faithful.object
  · simp only [List.forall_mem_cons]
    exact ⟨.text htoken, entries (h.lookup token), nofun⟩
  · simp only [List.forall_mem_cons]
    exact ⟨rfl, rfl, nofun⟩
  · exact (by decide : ([("token" : Text), "entries"] : List Text).Nodup)

theorem searchValue {start : Text} {rows : List Row} (h : ∀ r ∈ rows, Row.Plain r)
    (hstart : start.hasSurrogate = false) : Faithful (Service.searchValue start rows) := by
  apply Faithful.object
  · simp only [List.forall_mem_cons]
    exact ⟨.text hstart, .array (List.forall_mem_map.2 fun r hr => row (h r hr)), nofun⟩
  · simp only [List.forall_mem_cons]
    exact ⟨rfl, rfl, nofun⟩
  · exact (by decide : ([("prefix" : Text), "results"] : List Text).Nodup)

theorem send {v : Value} (h : Faithful v) : Service.send v = .ok (.json 200 v) :=
  Service.send_eq_ok h.plain

end Json.Faithful

end TokenIndex
