import TokenIndex.Proofs.Exchange.Basic

namespace TokenIndex

open Environment (defaultApiUrl)

namespace Command

section Answer

variable {service : World} {t : Table} {token : Text} {q : Inquiry}

/-- A token that reaches the lookup as it is: no dot part of a path, and without a slash. -/
structure Reachable (token : Text) : Prop where
  dot : token ≠ "."
  dots : token ≠ ".."
  slash : ('/' : CodePoint) ∉ token

theorem decode_lookupPath (htoken : token.hasSurrogate = false) (hdot : token ≠ ".")
    (hdots : token ≠ "..") :
    Percent.decode (Inquiry.lookupPath token) = Service.Route.lookupLead ++ token := by
  rw [Inquiry.lookupPath, if_neg hdot, if_neg hdots]
  exact Percent.decode_append_spelled (by decide) _ (by decide) rfl htoken

theorem ofPath?_of_reachable (htoken : token.hasSurrogate = false) (hne : token ≠ [])
    (hreach : Reachable token) :
    Service.Route.ofPath? (Percent.decode (Inquiry.lookupPath token)) = some (.lookup token) := by
  rw [decode_lookupPath htoken hreach.dot hreach.dots, Service.Route.ofPath?_lookup hne, if_neg]
  rw [List.contains_iff_mem]
  exact hreach.slash

theorem ofPath?_of_not_reachable (htoken : token.hasSurrogate = false) (hne : token ≠ [])
    (hreach : ¬ Reachable token) :
    Service.Route.ofPath? (Percent.decode (Inquiry.lookupPath token)) = none := by
  by_cases hdot : token = "."
  · rw [Inquiry.lookupPath, if_pos hdot, Percent.decode_of_not_mem (by decide) rfl]
    rfl
  by_cases hdots : token = ".."
  · rw [Inquiry.lookupPath, if_neg hdot, if_pos hdots, Percent.decode_of_not_mem (by decide) rfl]
    rfl
  have hslash : ('/' : CodePoint) ∈ token := by
    by_contra hslash
    exact hreach ⟨hdot, hdots, hslash⟩
  rw [decode_lookupPath htoken hdot hdots, Service.Route.ofPath?_lookup hne, if_pos]
  exact List.contains_iff_mem.2 hslash

theorem lookupPath_ne_nil (token : Text) : Inquiry.lookupPath token ≠ [] := by
  rw [Inquiry.lookupPath]
  split_ifs <;> exact List.cons_ne_nil _ _

theorem field_entries (hserved : service.served = some t) (ht : t.Plain)
    (htoken : token.hasSurrogate = false) (hne : token ≠ []) (hreach : Reachable token)
    (hq : q.address = .ok (Inquiry.localUrl (Inquiry.lookupPath token) none)) :
    (service.reply q).field q "entries" = .ok (entriesValue (t.lookup token)) := by
  have hroute := ofPath?_of_reachable htoken hne hreach
  have hv := Json.Faithful.lookupValue ht htoken
  have hroot : Service.Route.lookup token ≠ .root := nofun
  have hanswer : (Service.answer service
      (Inquiry.localUrl (Inquiry.lookupPath token) none).request).1 =
        .ok (.json 200 (Service.lookupValue t token)) := by
    rw [Service.answer_asked (Inquiry.inPath_lookupPath token) (lookupPath_ne_nil token) hroute
      hroot hserved]
    exact hv.send
  exact field_of_sent hq hv hanswer "entries"

theorem exists_entries_eq_error (htoken : token.hasSurrogate = false) (hne : token ≠ [])
    (hreach : ¬ Reachable token)
    (hq : q.address = .ok (Inquiry.localUrl (Inquiry.lookupPath token) none)) :
    ∃ e, (service.reply q).field q "entries" = .error e :=
  exists_field_eq_error hq (fun _ hr => Service.answer_elsewhere (Inquiry.inPath_lookupPath token)
    (lookupPath_ne_nil token) (ofPath?_of_not_reachable htoken hne hreach) hr) _

end Answer

section Lookup

variable {w : World} {index : Text} {category : Option Text} {t : Table} {a : Arguments}
  {near far serve texts : List Text} {token : Text}

theorem asks_lookup (h : Task.ofTexts texts = .ok (.run .lookup token a))
    (hname : a.byName = false) :
    Asks texts a (.lookup token) (Report.lookup token a.json) := by
  intro w reply
  rw [runTexts, h]
  dsimp only [run]
  rw [runLookup, hname, if_neg Bool.false_ne_true]

theorem ok_lookup (token : Text) (asJson : Bool) (es : List Entry) :
    ∀ l ∈ Report.lookup token asJson (entriesValue es), Report.Written l :=
  Report.written_lookup_iff.2 (.inr (.inr (Value.listing_entriesValue es)))

/-- A service that was started for an index answers a lookup as the index does exactly if the token
reaches it: it must be no dot part of a path, hold no slash, and not be too long for a URL. Any
other token is refused, and the index itself has an answer to it. -/
theorem lookup_alike_iff_reachable (hw : Ready w index category t)
    (hl : Lines .lookup token a index category near far serve) (hname : a.byName = false)
    (htoken : token.hasSurrogate = false) (hne : token ≠ []) :
    let service := w.serving serve
    let Reaches := Reachable token ∧ ∀ q, Inquiry.lookup defaultApiUrl token = .ok q → q.Fits
    (index = [] → Alike (w.consult service far) (w.consult service near)) ∧
    (index ≠ [] →
      Alike (w.consult service near)
        (.ofLines (Report.lookup token a.json (entriesValue (t.lookup token)))) ∧
      (w.consult service near).exit = 0 ∧
      (Alike (w.consult service far) (w.consult service near) ↔ Reaches) ∧
      (¬ Reaches → Refused (w.consult service far))) := by
  intro service Reaches
  have hasks := asks_lookup hl.near hname
  have hasks' := asks_lookup hl.far hname
  obtain ⟨q, hq⟩ : ∃ q, Inquiry.lookup defaultApiUrl token = .ok q :=
    ⟨_, Inquiry.lookup_eq_ok htoken⟩
  have hinquiry : (Question.lookup token).inquiry w.env.apiUrl = .ok q := by
    rw [hw.address]
    exact hq
  refine ⟨fun hindex => ?_, fun hindex => ?_⟩
  · -- an empty index is as good as none, so both lines ask the service
    exact (consult_far service hasks' rfl hinquiry).trans
      (consult_far service hasks (hindex ▸ rfl) hinquiry).symm
  have hserved : service.served = some t := served_of_lines hw hl hindex
  have hnear : Alike (w.consult service near)
      (.ofLines (Report.lookup token a.json (entriesValue (t.lookup token)))) :=
    consult_near service hasks (given?_of_ne_nil hindex) hw.loads rfl
  have hexit : (w.consult service near).exit = 0 :=
    hnear.2.trans (exit_ofLines (ok_lookup token a.json _))
  have hrefused : ¬ Reaches → Refused (w.consult service far) := by
    intro hnot
    refine consult_refused hasks' rfl hinquiry ?_
    by_cases hfits : q.Fits
    · have hreach : ¬ Reachable token :=
        fun h => hnot ⟨h, fun r hr => Except.ok.inj (hq.symm.trans hr) ▸ hfits⟩
      exact exists_entries_eq_error htoken hne hreach (Inquiry.address_lookup htoken hq hfits)
    · exact exists_field_of_not_fits hfits "entries"
  refine ⟨hnear, hexit, ⟨fun halike => ?_, fun hreaches => ?_⟩, hrefused⟩
  · by_contra hnot
    exact absurd ((hrefused hnot).exit.symm.trans (halike.2.trans hexit)) (by decide)
  · have hfield := field_entries hserved hw.plain htoken hne hreaches.1
      (Inquiry.address_lookup htoken hq (hreaches.2 q hq))
    exact (consult_answered hasks' rfl hinquiry hfield).trans hnear.symm

end Lookup

/-- The lines of a lookup in the file and in the service. -/
def lookupLines (token : Text) : List Text × List Text :=
  (["lookup", token, "--index", "/f"], ["lookup", token])

theorem lines_lookup_sample :
    Lines .lookup "a" Arguments.default "/f" none (lookupLines "a").1 (lookupLines "a").2
      serveSample ∧
    Lines .lookup "a/b" Arguments.default "/f" none (lookupLines "a/b").1 (lookupLines "a/b").2
      serveSample :=
  ⟨⟨rfl, rfl, _, _, runs_serve_sample, rfl, rfl⟩,
    ⟨rfl, rfl, _, _, runs_serve_sample, rfl, rfl⟩⟩

theorem lookup_alike_iff_reachable_samples :
    let service := sampleWorld.serving serveSample
    Alike (sampleWorld.consult service (lookupLines "a").2)
      (sampleWorld.consult service (lookupLines "a").1) ∧
    (sampleWorld.consult service (lookupLines "a/b").1).exit = 0 ∧
    Refused (sampleWorld.consult service (lookupLines "a/b").2) := by
  obtain ⟨t, hw⟩ := exists_ready_sample
  have hindex : ("/f" : Text) ≠ [] := List.cons_ne_nil _ _
  have hplain := (lookup_alike_iff_reachable hw lines_lookup_sample.1 rfl rfl
    (List.cons_ne_nil _ _)).2 hindex
  have hslash := (lookup_alike_iff_reachable hw lines_lookup_sample.2 rfl rfl
    (List.cons_ne_nil _ _)).2 hindex
  refine ⟨hplain.2.2.1.2 ⟨⟨by decide, by decide, by decide⟩, ?_⟩, hslash.2.1, hslash.2.2.2 ?_⟩
  · intro q hq
    rw [Inquiry.lookup_eq_ok rfl] at hq
    cases hq
    exact ⟨by decide, nofun⟩
  · exact fun hreaches => hreaches.1.slash (by decide)

end Command

end TokenIndex
