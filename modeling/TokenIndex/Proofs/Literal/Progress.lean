import TokenIndex.Proofs.Literal.Offset
import TokenIndex.Proofs.Literal.Stretch

namespace TokenIndex.Literal

/-- Reads a value behind blanks. -/
def value (s : Text) : Except Fault (Value × Text) := item s.dropBlank

/-- A reader at position `p` of a text goes on to a later position if it returns, and fails at no
earlier one. It does not leave the text. -/
structure Advances {α : Type} (text : Text) (p : Nat) (outcome : Except Fault (α × Text)) :
    Prop where
  returns : ∀ v rest, outcome = .ok (v, rest) → ∃ q, p < q ∧ q ≤ text.length ∧ rest = text.drop q
  fails : ∀ cause left, outcome = .error (.defect cause left) →
    ∃ q, p ≤ q ∧ q ≤ text.length ∧ left = text.length - q

/-- A reader takes something off the front of what remains of a text. -/
structure Onward {α : Type} (s : Text) (outcome : Except Fault (α × Text)) : Prop where
  suffix : ∀ v rest, outcome = .ok (v, rest) → rest <:+ s
  shorter : ∀ v rest, outcome = .ok (v, rest) → rest.length < s.length
  inside : ∀ cause left, outcome = .error (.defect cause left) → left ≤ s.length

section Onward

variable {α : Type} {s t text : Text} {p : Nat} {outcome : Except Fault (α × Text)}

theorem Onward.mono (h : Onward s outcome) (hst : s <:+ t) : Onward t outcome where
  suffix v rest ho := (h.suffix v rest ho).trans hst
  shorter v rest ho := (h.shorter v rest ho).trans_le hst.length_le
  inside cause left ho := (h.inside cause left ho).trans hst.length_le

theorem Onward.advances (h : Onward (text.drop p) outcome) (hp : p ≤ text.length) :
    Advances text p outcome := by
  have hlength : (text.drop p).length = text.length - p := List.length_drop
  constructor
  · intro v rest ho
    have hsuffix := (h.suffix v rest ho).trans (List.drop_suffix p text)
    have hshorter := h.shorter v rest ho
    exact ⟨text.length - rest.length, by omega, Nat.sub_le _ _, List.suffix_iff_eq_drop.1 hsuffix⟩
  · intro cause left ho
    have hinside := h.inside cause left ho
    exact ⟨text.length - left, by omega, Nat.sub_le _ _, by omega⟩

end Onward

theorem Stops.left_le {α β : Type} {read : Text → Except Fault α} {spells : Text → β → Prop}
    {cause : Cause} {s : Text} {left : Nat} (h : Stops read spells cause s left) :
    left ≤ s.length := by
  obtain ⟨used, rest, rfl, rfl, -⟩ := h
  rw [List.length_append]
  exact Nat.le_add_left _ _

theorem escape_onward (s : Text) : Onward s (escape s) where
  suffix m rest h := by
    obtain ⟨e, rfl, -⟩ := escape_sound h
    exact List.suffix_append e rest
  shorter _ _ h := escape_length h
  inside _ _ h := (escape_error h).2.le

theorem string_onward (quote : CodePoint) (s : Text) : Onward s (string quote s) where
  suffix v rest h := by
    obtain ⟨t, rfl, -⟩ := string_sound h
    exact (List.suffix_cons quote rest).trans (List.suffix_append t _)
  shorter _ _ h := string_length h
  inside _ _ h := (string_stops h).left_le

theorem items_onward (s : Text) : Onward s (items s) where
  suffix vs rest h := by
    obtain ⟨t, rfl, -⟩ := items_sound h
    exact (List.suffix_cons _ rest).trans (List.suffix_append t _)
  shorter _ _ h := items_length h
  inside _ _ h := (items_stops h).left_le

theorem item_onward (s : Text) : Onward s (item s) where
  suffix _ _ h := item_suffix h
  shorter _ _ h := item_length h
  inside _ _ h := (item_stops (fun _ _ => items_stops) h).left_le

theorem value_onward (s : Text) : Onward s (value s) :=
  (item_onward s.dropBlank).mono (dropBlank_suffix s)

/-- What remains of a text after one time around the loop of an array, if the loop goes on. -/
def nextItem? (s : Text) : Option Text :=
  if s.dropBlank.startsWith "]" then none
  else match value s with
    | .ok (_, t) => Text.after? "," t.dropBlank
    | .error _ => none

/-- What remains of a text after one time around the loop of a string, if the loop goes on. -/
def nextCharacter? (quote : CodePoint) : Text → Option Text
  | [] => none
  | c :: r =>
    if c = quote then none
    else if c = '\\' then
      match escape r with
      | .ok (_, rest) => some rest
      | .error _ => none
    else if c = '\n' then none
    else some r

/-- A reader is a loop: where it goes on, it ends as it does from there, with what it read put
before; otherwise it fails or has read at most one thing more. Each time takes something off, so
the loop does not go on forever. -/
structure Loops {α : Type} (read : Text → Except Fault (List α × Text))
    (next? : Text → Option Text) : Prop where
  again : ∀ s u, next? s = some u →
    ∃ front, front.length ≤ 1 ∧ read s = (read u).map fun p => (front ++ p.1, p.2)
  last : ∀ s, next? s = none → ∀ vs rest, read s = .ok (vs, rest) → vs.length ≤ 1
  advances : ∀ s u, next? s = some u → u <:+ s ∧ u.length < s.length
  ends : WellFounded fun u s => next? s = some u

theorem wellFounded_of_shorter {next? : Text → Option Text}
    (h : ∀ s u, next? s = some u → u.length < s.length) :
    WellFounded fun u s => next? s = some u :=
  Subrelation.wf (fun {u s} hu => h s u hu) (measure List.length).wf

theorem items_eq_value (s : Text) : items s =
    if s.dropBlank.startsWith "]" then .ok ([], s.dropBlank.tail)
    else match value s with
      | .error e => .error e
      | .ok (v, t) => itemsAfter v t.dropBlank := by
  rw [items_eq, value]
  cases s.dropBlank with
  | nil => rfl
  | cons c r =>
    rw [itemsFrom]
    by_cases hc : c = ']'
    · subst hc
      rfl
    · have hstart : Text.startsWith (c :: r) "]" = false := by
        rw [← Bool.not_eq_true, Text.startsWith_iff]
        rintro ⟨t, ht⟩
        exact hc (List.cons.inj ht).1.symm
      rw [if_neg hc, hstart]
      rfl

theorem items_of_value {s t : Text} {v : Value} (hclose : s.dropBlank.startsWith "]" = false)
    (h : value s = .ok (v, t)) : items s = itemsAfter v t.dropBlank := by
  rw [items_eq_value, hclose, h, if_neg Bool.false_ne_true]

theorem exists_value_of_items {s rest : Text} {vs : List Value}
    (hclose : s.dropBlank.startsWith "]" = false) (h : items s = .ok (vs, rest)) :
    ∃ v t, value s = .ok (v, t) ∧ itemsAfter v t.dropBlank = .ok (vs, rest) := by
  rw [items_eq_value, hclose, if_neg Bool.false_ne_true] at h
  cases hv : value s with
  | error e => rw [hv] at h; cases h
  | ok p =>
    rw [hv] at h
    exact ⟨p.1, p.2, rfl, h⟩

theorem nextItem?_eq_some_iff {s u : Text} : nextItem? s = some u ↔
    s.dropBlank.startsWith "]" = false ∧
      ∃ v t, value s = .ok (v, t) ∧ t.dropBlank = (',' : CodePoint) :: u := by
  rw [nextItem?]
  cases hclose : s.dropBlank.startsWith "]" with
  | true => simp
  | false =>
    cases hv : value s with
    | error e => simp
    | ok p =>
      obtain ⟨v, t⟩ := p
      simp [Text.after?_eq_some_iff, Text.ofString]

theorem nextItem?_suffix {s u : Text} (h : nextItem? s = some u) :
    u <:+ s ∧ u.length < s.length := by
  obtain ⟨-, v, t, hv, ht⟩ := nextItem?_eq_some_iff.1 h
  have hu : (',' : CodePoint) :: u <:+ t := ht ▸ dropBlank_suffix t
  have hvalue := value_onward s
  refine ⟨?_, ?_⟩
  · exact (List.suffix_cons _ u).trans (hu.trans (hvalue.suffix v t hv))
  · exact (Nat.lt_of_succ_le hu.length_le).trans (hvalue.shorter v t hv)

theorem itemsAfter_comma (v : Value) (u : Text) :
    itemsAfter v ((',' : CodePoint) :: u) = (items u).map fun p => (v :: p.1, p.2) := by
  rw [itemsAfter, if_neg (by decide), if_pos rfl]

theorem items_loops : Loops items nextItem? where
  again s u h := by
    obtain ⟨hclose, v, t, hv, ht⟩ := nextItem?_eq_some_iff.1 h
    refine ⟨[v], le_rfl, ?_⟩
    rw [items_of_value hclose hv, ht, itemsAfter_comma]
    rfl
  last s h vs rest hitems := by
    cases hclose : s.dropBlank.startsWith "]" with
    | true =>
      rw [items_eq_value, hclose, if_pos rfl] at hitems
      cases hitems
      exact Nat.zero_le _
    | false =>
      obtain ⟨v, t, hv, hafter⟩ := exists_value_of_items hclose hitems
      obtain ⟨z, hz, ⟨rfl, rfl⟩ | ⟨u, ws, rfl, -, rfl⟩⟩ := itemsAfter_cases hafter
      · exact le_rfl
      · have hnext : nextItem? s = some u := by
          refine nextItem?_eq_some_iff.2 ⟨hclose, v, _, hv, ?_⟩
          exact dropBlank_blanks hz (Text.ends_cons.2 (by decide))
        rw [hnext] at h
        cases h
  advances _ _ h := nextItem?_suffix h
  ends := wellFounded_of_shorter fun _ _ h => (nextItem?_suffix h).2

theorem nextCharacter?_cases {quote : CodePoint} {s u : Text}
    (h : nextCharacter? quote s = some u) :
    (∃ (m r : Text), s = ('\\' : CodePoint) :: r ∧ '\\' ≠ quote ∧ escape r = .ok (m, u)) ∨
      ∃ c, s = c :: u ∧ c ≠ quote ∧ c ≠ '\\' ∧ c ≠ '\n' := by
  revert h
  fun_cases nextCharacter? quote s with
  | case3 r m rest he hq =>
    rintro ⟨⟩
    exact .inl ⟨m, r, rfl, hq, he⟩
  | case6 c r hq hb hn =>
    rintro ⟨⟩
    exact .inr ⟨c, rfl, hq, hb, hn⟩
  | _ => rintro ⟨⟩

theorem nextCharacter?_suffix {quote : CodePoint} {s u : Text}
    (h : nextCharacter? quote s = some u) : u <:+ s ∧ u.length < s.length := by
  obtain ⟨m, r, rfl, hq, he⟩ | ⟨c, rfl, -⟩ := nextCharacter?_cases h
  · have honward := (escape_onward r).mono (List.suffix_cons ('\\' : CodePoint) r)
    exact ⟨honward.suffix m u he, honward.shorter m u he⟩
  · exact ⟨List.suffix_cons c u, Nat.lt_succ_self _⟩

theorem string_loops (quote : CodePoint) : Loops (string quote) (nextCharacter? quote) where
  again s u h := by
    obtain ⟨m, r, rfl, hq, he⟩ | ⟨c, rfl, hq, hb, hn⟩ := nextCharacter?_cases h
    · obtain ⟨e, -, hm⟩ := escape_sound he
      exact ⟨m, hm.length_le, string_escape hq he⟩
    · exact ⟨[c], le_rfl, string_plain hq hb hn u⟩
  last s h v rest hs := by
    fun_cases nextCharacter? quote s with
    | case1 =>
      rw [string] at hs
      cases hs
    | case2 r =>
      rw [string, if_pos rfl] at hs
      cases hs
      exact Nat.zero_le _
    | case3 r m rest he hq =>
      rw [nextCharacter?, if_neg hq, if_pos rfl, he] at h
      cases h
    | case4 r fault he hq =>
      rw [string_escape_error hq he] at hs
      cases hs
    | case5 r hq hb =>
      rw [string, if_neg hq, if_neg hb, if_pos rfl] at hs
      cases hs
    | case6 c r hq hb hn =>
      rw [nextCharacter?, if_neg hq, if_neg hb, if_neg hn] at h
      cases h
  advances _ _ h := nextCharacter?_suffix h
  ends := wellFounded_of_shorter fun _ _ h => (nextCharacter?_suffix h).2

theorem itemsAfter_length {v : Value} {t rest : Text} {vs : List Value}
    (h : itemsAfter v t.dropBlank = .ok (vs, rest)) : rest.length < t.length := by
  obtain ⟨z, -, ⟨rfl, -⟩ | ⟨u, ws, rfl, hu, -⟩⟩ := itemsAfter_cases h
  · simp only [List.length_append, List.length_cons]
    omega
  · have hlength := items_length hu
    simp only [List.length_append, List.length_cons]
    omega

mutual

/-- How often a value is read in reading one: once, and for each item if it is an array. -/
def valueCalls (s : Text) : Nat :=
  match _h : Text.after? "[" s.dropBlank with
  | some r => 1 + arrayCalls r
  | none => 1
termination_by (s.length, 0)
decreasing_by
  exact .left _ _ (length_lt_of_dropBlank (Text.after?_eq_some_iff.1 _h))

/-- How often a value is read in reading on inside an array. -/
def arrayCalls (s : Text) : Nat :=
  if s.dropBlank.startsWith "]" then 0
  else match _h : nextItem? s with
    | some u => valueCalls s + arrayCalls u
    | none => valueCalls s
termination_by (s.length, 1)
decreasing_by
  · exact .right _ Nat.zero_lt_one
  · exact .left _ _ (nextItem?_suffix _h).2
  · exact .right _ Nat.zero_lt_one

end

/-- How often a value is read in reading a whole text: not at all if no bracket opens it. -/
def documentCalls (text : Text) : Nat :=
  let s := ((afterAssignment? text).getD text).dropBlank
  if s.startsWith "[" then valueCalls s else 0

/-- A reader takes off a code point for each of its calls if it returns. If it fails, the last
call may have found none. -/
structure Paid {α : Type} (calls : Nat) (s : Text) (outcome : Except Fault (α × Text)) :
    Prop where
  returns : ∀ v rest, outcome = .ok (v, rest) → calls + rest.length ≤ s.length
  fails : calls ≤ s.length + 1

theorem value_of_bracket {s r : Text} (h : s.dropBlank = ('[' : CodePoint) :: r) :
    value s = (items r).map fun p => (.array p.1, p.2) := by
  rw [value, h, item, if_pos rfl]

theorem value_paid_of_items {s : Text}
    (hitems : ∀ r, s.dropBlank = ('[' : CodePoint) :: r → Paid (arrayCalls r) r (items r)) :
    Paid (valueCalls s) s (value s) := by
  rw [valueCalls]
  split
  · rename_i r hr
    have hs : s.dropBlank = ('[' : CodePoint) :: r := Text.after?_eq_some_iff.1 hr
    have hlength : r.length < s.length := length_lt_of_dropBlank hs
    have hr := hitems r hs
    rw [value_of_bracket hs]
    constructor
    · intro v rest h
      obtain ⟨p, hp, heq⟩ := map_eq_ok_iff.1 h
      cases heq
      have hpaid := hr.returns p.1 p.2 hp
      show 1 + arrayCalls r + p.2.length ≤ s.length
      omega
    · have hpaid := hr.fails
      omega
  · constructor
    · intro v rest h
      have hshorter := (value_onward s).shorter v rest h
      omega
    · exact Nat.le_add_left _ _

theorem items_paid_of_value {s : Text} (hvalue : Paid (valueCalls s) s (value s))
    (hnext : ∀ u, nextItem? s = some u → Paid (arrayCalls u) u (items u)) :
    Paid (arrayCalls s) s (items s) := by
  rw [arrayCalls]
  split_ifs with hclose
  · constructor
    · intro vs rest h
      have hlength := items_length h
      omega
    · exact Nat.zero_le _
  rw [Bool.not_eq_true] at hclose
  split
  · rename_i u hu
    obtain ⟨-, v, t, hv, ht⟩ := nextItem?_eq_some_iff.1 hu
    have hlength : u.length < t.length := length_lt_of_dropBlank ht
    have hfirst := hvalue.returns v t hv
    have hpaid := hnext u hu
    constructor
    · intro vs rest h
      rw [items_of_value hclose hv, ht, itemsAfter_comma] at h
      obtain ⟨p, hp, heq⟩ := map_eq_ok_iff.1 h
      cases heq
      have hrest := hpaid.returns p.1 p.2 hp
      show _ + p.2.length ≤ s.length
      omega
    · have hfails := hpaid.fails
      omega
  · constructor
    · intro vs rest h
      obtain ⟨v, t, hv, hafter⟩ := exists_value_of_items hclose h
      have hfirst := hvalue.returns v t hv
      have hlength := itemsAfter_length hafter
      omega
    · exact hvalue.fails

theorem items_paid (s : Text) : Paid (arrayCalls s) s (items s) := by
  -- on the length: a nested array and what follows a comma are read by the same loop
  induction hn : s.length using Nat.strongRecOn generalizing s with
  | _ n ih =>
    subst hn
    refine items_paid_of_value (value_paid_of_items fun r hr => ?_) fun u hu => ?_
    · exact ih r.length (length_lt_of_dropBlank hr) r rfl
    · exact ih u.length (nextItem?_suffix hu).2 u rfl

theorem documentCalls_le (text : Text) : documentCalls text ≤ text.length + 1 := by
  have hpaid := value_paid_of_items (s := ((afterAssignment? text).getD text).dropBlank)
    fun r _ => items_paid r
  have hlength := (opening_suffix text).length_le
  rw [documentCalls]
  split
  · exact hpaid.fails.trans (Nat.succ_le_succ hlength)
  · exact Nat.zero_le _

/-- At every position of a text, the readers of a value, and of an array, a string and an escape
that begin there, get on and stay inside the text. So does each time around the loops of arrays
and of strings, and no loop goes on forever. Values are read at most once more often than the text
has code points. -/
theorem readers_advance (text : Text) :
    (∀ p ≤ text.length, Advances text p (value (text.drop p)) ∧
      (∀ r, text.drop p = ('[' : CodePoint) :: r → Advances text p (items r)) ∧
      (∀ quote r, text.drop p = quote :: r → Advances text p (string quote r)) ∧
      (∀ r, text.drop p = ('\\' : CodePoint) :: r → Advances text p (escape r))) ∧
    Loops items nextItem? ∧ (∀ quote, Loops (string quote) (nextCharacter? quote)) ∧
    documentCalls text ≤ text.length + 1 := by
  refine ⟨fun p hp => ⟨?_, ?_, ?_, ?_⟩, items_loops, string_loops, documentCalls_le text⟩
  · exact (value_onward _).advances hp
  · intro r hr
    exact ((items_onward r).mono (hr ▸ List.suffix_cons _ r)).advances hp
  · intro quote r hr
    exact ((string_onward quote r).mono (hr ▸ List.suffix_cons _ r)).advances hp
  · intro r hr
    exact ((escape_onward r).mono (hr ▸ List.suffix_cons _ r)).advances hp

/-- A line continuation is passed though it means no character. A text that ends behind its
bracket takes as many calls as there may be. -/
theorem readers_advance_samples :
    (∃ q, 2 < q ∧ q ≤ 7 ∧ ("']" : Text) = List.drop q ("['\\\r\n']" : Text)) ∧
      documentCalls "[" = 2 ∧ documentCalls "[" ≤ 2 := by
  refine ⟨?_, ?_, (readers_advance "[").2.2.2⟩
  · have hescape := ((readers_advance "['\\\r\n']").1 2 (by decide)).2.2.2 _ rfl
    exact hescape.returns [] "']" rfl
  · have hopen : documentCalls "[" = valueCalls "[" := rfl
    have hvalue : valueCalls "[" = 1 + arrayCalls [] := by
      rw [valueCalls]
      rfl
    have hlast : valueCalls [] = 1 := by
      rw [valueCalls]
      rfl
    have harray : arrayCalls [] = valueCalls [] := by
      rw [arrayCalls]
      rfl
    rw [hopen, hvalue, harray, hlast]

end TokenIndex.Literal
