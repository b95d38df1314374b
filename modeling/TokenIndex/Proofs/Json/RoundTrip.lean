import TokenIndex.Json.Encoding
import TokenIndex.Json.Reader
import TokenIndex.Json.Writer
import TokenIndex.Proofs.Text.Utf8
import Mathlib.Data.List.Nodup

namespace TokenIndex.Json

theorem hexUnit?_hex {n : Nat} (h : n < 0x20) {s : Text} (hs : s ≠ []) :
    hexUnit? (Text.hex 4 n ++ s) = some (n, s) := by
  have all : ∀ m : Fin 0x20, ∃ a b c d, Text.hex 4 m.val = [a, b, c, d] ∧
      ([a, b, c, d].mapM Text.hexDigit?).map (Text.ofDigits 16) = some m.val := by
    intro m
    have hdigits : ∀ m : Fin 0x20, (Text.hex 4 m.val).length = 4 ∧
        ((Text.hex 4 m.val).mapM Text.hexDigit?).map (Text.ofDigits 16) = some m.val := by decide
    obtain ⟨hlength, hvalue⟩ := hdigits m
    match hx : Text.hex 4 m.val, hlength with
    | [a, b, c, d], _ => exact ⟨a, b, c, d, rfl, hx ▸ hvalue⟩
  obtain ⟨a, b, c, d, hhex, hvalue⟩ := all ⟨n, h⟩
  obtain ⟨digits, hdigits, hn⟩ := Option.map_eq_some_iff.1 hvalue
  rw [hhex]
  simp only [List.cons_append, List.nil_append, hexUnit?, hdigits, hn]
  rw [List.isEmpty_eq_false_iff.2 hs, if_neg Bool.false_ne_true]

theorem characters_escape {opened : Nat} {s r : Text} {d : CodePoint}
    (h : escape opened s = .ok (d, r)) :
    characters opened ('\\' :: s) = (characters opened r).map fun p => (d :: p.1, p.2) := by
  rw [characters, if_neg (by decide), if_pos rfl]
  split
  · rename_i e he
    rw [h] at he
    cases he
  · rename_i d' r' he
    rw [h] at he
    cases he
    rfl

theorem characters_backslash {opened : Nat} {s : Text} {letter c : CodePoint} (hu : letter ≠ 'u')
    (h : simpleEscape? letter = some c) :
    characters opened ('\\' :: letter :: s) =
      (characters opened s).map fun p => (c :: p.1, p.2) := by
  apply characters_escape
  rw [escape, if_neg hu, h]

theorem characters_escapeOne (opened : Nat) (c : CodePoint) {s : Text} (hs : s ≠ []) :
    characters opened (escapeOne c ++ s) =
      (characters opened s).map fun p => (c :: p.1, p.2) := by
  unfold escapeOne
  split_ifs with hsign hline hreturn htab hback hfeed hcontrol
  · apply characters_backslash
    · rcases hsign with rfl | rfl <;> decide
    · rw [simpleEscape?, if_pos (by tauto)]
  · exact hline ▸ characters_backslash (by decide) rfl
  · exact hreturn ▸ characters_backslash (by decide) rfl
  · exact htab ▸ characters_backslash (by decide) rfl
  · exact hback ▸ characters_backslash (by decide) rfl
  · exact hfeed ▸ characters_backslash (by decide) rfl
  · apply characters_escape
    have hunit : unicodeEscape (Text.hex 4 c.val ++ s) = .ok (c, s) := by
      rw [unicodeEscape, hexUnit?_hex hcontrol hs]
      dsimp only
      rw [if_neg (by omega), CodePoint.ofNat_val]
    exact hunit
  · rw [List.singleton_append, characters, if_neg (by tauto), if_neg (by tauto), if_neg hcontrol]

theorem string_append (t rest : Text) :
    string t ++ rest =
      ('"' : CodePoint) :: (t.flatMap escapeOne ++ ('"' : CodePoint) :: rest) := by
  rw [string, List.append_assoc, List.append_assoc]
  rfl

theorem characters_string (opened : Nat) (t rest : Text) :
    characters opened (t.flatMap escapeOne ++ ('"' : CodePoint) :: rest) = .ok (t, rest) := by
  induction t with
  | nil => rw [List.flatMap_nil, List.nil_append, characters, if_pos rfl]
  | cons c t ih =>
    rw [List.flatMap_cons, List.append_assoc, characters_escapeOne, ih]
    · rfl
    · exact List.append_ne_nil_of_right_ne_nil _ (List.cons_ne_nil _ _)

theorem escapeOne_plain {c : CodePoint} (h : c.isSurrogate = false) :
    (escapeOne c).hasSurrogate = false := by
  have hcontrol : ∀ n : Fin 0x20, Text.hasSurrogate ("\\u" ++ Text.hex 4 n.val) = false := by decide
  unfold escapeOne
  split_ifs with hsign _ _ _ _ _ hc
  · rcases hsign with rfl | rfl <;> rfl
  · rfl
  · rfl
  · rfl
  · rfl
  · rfl
  · exact hcontrol ⟨c.val, hc⟩
  · rw [Text.hasSurrogate_singleton, h]

theorem string_plain {t : Text} (h : t.hasSurrogate = false) : (string t).hasSurrogate = false := by
  have hbody := Text.hasSurrogate_flatMap (fun _ => escapeOne_plain) h
  exact Text.hasSurrogate_append (Text.hasSurrogate_append rfl hbody) rfl

theorem escapeOne_surrogate {c : CodePoint} (h : c.isSurrogate = true) : escapeOne c = [c] := by
  have hne {d : CodePoint} (hd : d.isSurrogate = false) : c ≠ d := by
    rintro rfl
    exact Bool.false_ne_true (hd.symm.trans h)
  have hspecial : ¬(c = '"' ∨ c = '\\') := not_or.2 ⟨hne (by decide), hne (by decide)⟩
  have hcontrol : ¬c.val < 0x20 := by
    intro hlt
    rw [← Bool.not_eq_false, CodePoint.isSurrogate_eq_false_iff] at h
    omega
  rw [escapeOne, if_neg hspecial, if_neg (hne (by decide)), if_neg (hne (by decide)),
    if_neg (hne (by decide)), if_neg (hne (by decide)), if_neg (hne (by decide)), if_neg hcontrol]

theorem plain_of_string {t : Text} (h : (string t).hasSurrogate = false) :
    t.hasSurrogate = false := by
  rw [Text.hasSurrogate_eq_false_iff] at h ⊢
  intro c hc
  by_contra hsurrogate
  rw [Bool.not_eq_false] at hsurrogate
  have hself : c ∈ escapeOne c := escapeOne_surrogate hsurrogate ▸ List.mem_singleton_self c
  have hbody : c ∈ t.flatMap escapeOne := List.mem_flatMap.2 ⟨c, hc, hself⟩
  have hstring : c ∈ string t := List.mem_append_left _ (List.mem_append_right _ hbody)
  exact Bool.false_ne_true ((h c hstring).symm.trans hsurrogate)

/-- A value whose text can be sent, and is read as the value again, whatever follows. -/
structure Faithful (v : Value) : Prop where
  plain : (compact v).hasSurrogate = false
  finite : v.isFinite = true
  /-- No value begins with a blank or a bracket that ends one. -/
  starts : ∃ c t, compact v = c :: t ∧ isBlank c = false ∧ c ≠ ']'
  reads : ∀ rest, (value (compact v ++ rest)).map Subtype.val = .ok (v, rest)

theorem dropBlank_cons {c : CodePoint} {t : Text} (h : isBlank c = false) :
    dropBlank (c :: t) = c :: t := by
  rw [dropBlank, List.dropWhile_cons, h, if_neg Bool.false_ne_true]

theorem value_scalar {c : CodePoint} {s rest : Text} {v : Value} (hc : c ≠ '[')
    (hc' : c ≠ '\x7b') (h : scalar (c :: s) = .ok (v, rest)) (hlt : rest.length ≤ s.length) :
    (value (c :: s)).map Subtype.val = .ok (v, rest) := by
  unfold value
  dsimp only
  rw [if_neg hc, if_neg hc', h]
  unfold progress
  dsimp only
  have hlt : rest.length < (c :: s).length := Nat.lt_succ_of_le hlt
  rw [dif_pos hlt]
  rfl

theorem Faithful.text {t : Text} (h : t.hasSurrogate = false) : Faithful (.text t) where
  plain := string_plain h
  finite := rfl
  starts := ⟨'"', _, rfl, rfl, by decide⟩
  reads rest := by
    rw [compact, write, string_append]
    apply value_scalar (by decide) (by decide)
    · have hquote (s : Text) : Text.after? "\"" (('"' : CodePoint) :: s) = some s := by
        exact Text.after?_append "\"" s
      rw [scalar, hquote]
      dsimp only
      rw [characters_string]
      rfl
    · rw [List.length_append, List.length_cons]
      omega

theorem Faithful.bool (b : Bool) : Faithful (.bool b) where
  plain := by cases b <;> rfl
  finite := rfl
  starts := by
    cases b
    · exact ⟨'f', _, rfl, rfl, by decide⟩
    · exact ⟨'t', _, rfl, rfl, by decide⟩
  reads rest := by
    have hword : scalar (compact (.bool b) ++ rest) = .ok (.bool b, rest) := by cases b <;> rfl
    cases b
    · exact value_scalar (by decide) (by decide) hword (List.suffix_append _ _).length_le
    · exact value_scalar (by decide) (by decide) hword (List.suffix_append _ _).length_le

theorem exists_of_map_val {α : Type} {s rest : Text} {x : Read α s} {a : α}
    (h : x.map Subtype.val = .ok (a, rest)) :
    ∃ hlt : rest.length < s.length, x = .ok ⟨(a, rest), hlt⟩ := by
  obtain ⟨⟨p, hp⟩, rfl, rfl⟩ := map_eq_ok_iff.1 h
  exact ⟨hp, rfl⟩

section Items

variable {s t rest : Text} {v : Value} {vs : List Value}

/-- A value, and then what stands behind it. -/
theorem items_value {d : CodePoint} (h : (value s).map Subtype.val = .ok (v, d :: t))
    (hblank : isBlank d = false) :
    (items s).map Subtype.val =
      if d = ']' then .ok ([v], t)
      else if d = ',' then
        ((items (dropBlank t)).map Subtype.val).map fun p => (v :: p.1, p.2)
      else .error (.defect .expectedComma (t.length + 1)) := by
  obtain ⟨hlt, hv⟩ := exists_of_map_val h
  rw [items]
  rw [hv]
  dsimp only
  split
  · rename_i hd
    rw [dropBlank_cons hblank] at hd
    cases hd
  · rename_i d u hd
    rw [dropBlank_cons hblank] at hd
    cases hd
    split_ifs
    · rfl
    · cases items (dropBlank t) <;> rfl
    · rfl

theorem value_array (hitems : (items (dropBlank s)).map Subtype.val = .ok (vs, rest))
    (hs : ∃ c t, dropBlank s = c :: t ∧ c ≠ ']') :
    (value (('[' : CodePoint) :: s)).map Subtype.val = .ok (.array vs, rest) := by
  obtain ⟨hlt, hvs⟩ := exists_of_map_val hitems
  obtain ⟨c, t, hcons, hc⟩ := hs
  unfold value
  dsimp only
  rw [if_pos rfl]
  split
  · rename_i hd
    rw [hcons] at hd
    cases hd
  · rename_i d u hd
    rw [hcons] at hd
    cases hd
    rw [if_neg hc, hvs]
    rfl

end Items

theorem exists_join_cons (sep first : Text) (rest : List Text) :
    ∃ more, Text.join sep (first :: rest) = first ++ more := by
  cases rest with
  | nil => exact ⟨[], (List.append_nil _).symm⟩
  | cons second rest => exact ⟨sep ++ Text.join sep (second :: rest), List.append_assoc ..⟩

theorem join_append (first second : Text) (ts : List Text) (rest : Text) :
    Text.join "," (first :: second :: ts) ++ rest =
      first ++ (',' : CodePoint) :: (Text.join "," (second :: ts) ++ rest) := by
  rw [Text.join, List.append_assoc, List.append_assoc]
  · rfl
  · exact List.cons_ne_nil _ _

theorem Faithful.dropBlank_compact {v : Value} (h : Faithful v) (rest : Text) :
    dropBlank (compact v ++ rest) = compact v ++ rest := by
  obtain ⟨c, t, hcons, hc, -⟩ := h.starts
  rw [hcons]
  exact dropBlank_cons hc

theorem Faithful.starts_join {v : Value} (h : Faithful v) (vs : List Value) (rest : Text) :
    ∃ c t, Text.join "," ((v :: vs).map compact) ++ rest = c :: t ∧ isBlank c = false ∧
      c ≠ ']' := by
  obtain ⟨c, t, hcons, hc⟩ := h.starts
  obtain ⟨more, hmore⟩ := exists_join_cons "," (compact v) (vs.map compact)
  refine ⟨c, t ++ (more ++ rest), ?_, hc⟩
  rw [List.map_cons, hmore, hcons, List.append_assoc, List.cons_append]

theorem Faithful.dropBlank_join {v : Value} (h : Faithful v) (vs : List Value) (rest : Text) :
    dropBlank (Text.join "," ((v :: vs).map compact) ++ rest) =
      Text.join "," ((v :: vs).map compact) ++ rest := by
  obtain ⟨c, t, hcons, hc, -⟩ := h.starts_join vs rest
  rw [hcons, dropBlank_cons hc]

theorem items_join {v : Value} {vs : List Value} (h : ∀ w ∈ v :: vs, Faithful w) (rest : Text) :
    (items (Text.join "," ((v :: vs).map compact) ++ (']' : CodePoint) :: rest)).map Subtype.val =
      .ok (v :: vs, rest) := by
  induction vs generalizing v with
  | nil =>
    rw [List.forall_mem_singleton] at h
    rw [List.map_singleton, Text.join, items_value (h.reads _) rfl, if_pos rfl]
  | cons w vs ih =>
    rw [List.forall_mem_cons] at h
    have hw := h.2 w List.mem_cons_self
    rw [List.map_cons, List.map_cons, join_append, ← List.map_cons, items_value (h.1.reads _) rfl,
      if_neg (by decide), if_pos rfl, hw.dropBlank_join vs, ih h.2]
    rfl

theorem hasSurrogate_join {sep : Text} {ts : List Text} (hsep : sep.hasSurrogate = false)
    (h : ∀ t ∈ ts, t.hasSurrogate = false) : (Text.join sep ts).hasSurrogate = false := by
  induction ts with
  | nil => rfl
  | cons t ts ih =>
    rw [List.forall_mem_cons] at h
    cases ts with
    | nil => exact h.1
    | cons u ts =>
      exact Text.hasSurrogate_append (Text.hasSurrogate_append h.1 hsep) (ih h.2)

theorem writeItems_eq_map (vs : List Value) : writeItems .compact vs = vs.map compact := by
  induction vs with
  | nil => rfl
  | cons v vs ih => rw [writeItems, ih, List.map_cons, compact]

theorem compact_array (v : Value) (vs : List Value) :
    compact (.array (v :: vs)) =
      ('[' : CodePoint) :: (Text.join "," ((v :: vs).map compact) ++ "]") := by
  have hitems : writeItems .compact (v :: vs) = (v :: vs).map compact := writeItems_eq_map _
  rw [compact, write, Layout.inner, hitems, List.map_cons]
  simp only [Layout.bracket, Layout.inner, Layout.newline, List.append_nil, List.nil_append,
    List.cons_append]
  rfl

theorem Faithful.array {vs : List Value} (h : ∀ v ∈ vs, Faithful v) : Faithful (.array vs) := by
  have hfinite : Value.areFinite vs = true := by
    induction vs with
    | nil => rfl
    | cons v vs ih =>
      rw [List.forall_mem_cons] at h
      rw [Value.areFinite, h.1.finite, ih h.2]
      rfl
  cases vs with
  | nil =>
    refine ⟨rfl, rfl, ⟨'[', _, rfl, rfl, by decide⟩, ?_⟩
    intro rest
    have hempty : compact (.array []) ++ rest =
        ('[' : CodePoint) :: (']' : CodePoint) :: rest := rfl
    rw [hempty]
    unfold value
    rfl
  | cons v vs =>
    refine ⟨?_, hfinite, ⟨'[', _, compact_array v vs, rfl, by decide⟩, ?_⟩
    · have hjoin := @hasSurrogate_join "," ((v :: vs).map compact) rfl
        (List.forall_mem_map.2 fun w hw => (h w hw).plain)
      rw [compact_array]
      exact @Text.hasSurrogate_append "[" _ rfl (Text.hasSurrogate_append hjoin rfl)
    · intro rest
      have hv := h v List.mem_cons_self
      rw [compact_array, List.cons_append, List.append_assoc]
      apply value_array
      · rw [hv.dropBlank_join vs]
        exact items_join h rest
      · rw [hv.dropBlank_join vs]
        obtain ⟨c, t, hcons, -, hc⟩ := hv.starts_join vs ("]" ++ rest)
        exact ⟨c, t, hcons, hc⟩

section Fields

variable {before : List (Text × Value)} {name s t rest : Text} {v : Value}

def fieldText (field : Text × Value) : Text := string field.1 ++ ":" ++ compact field.2

theorem fields_field {d : CodePoint}
    (h : (value (dropBlank s)).map Subtype.val = .ok (v, d :: t)) (hblank : isBlank d = false) :
    (fields before (string name ++ (':' : CodePoint) :: s)).map Subtype.val =
      if d = '\x7d' then .ok (Value.setField before name v, t)
      else if d = ',' then
        (fields (Value.setField before name v) (dropBlank t)).map Subtype.val
      else .error (.defect .expectedComma (t.length + 1)) := by
  obtain ⟨hlt, hv⟩ := exists_of_map_val h
  rw [string_append]
  rw [fields]
  dsimp only
  rw [if_pos rfl]
  split
  · rename_i e hn
    rw [characters_string] at hn
    cases hn
  · rename_i name' t hn
    rw [characters_string] at hn
    cases hn
    split
    · rename_i hc
      rw [dropBlank_cons rfl] at hc
      cases hc
    · rename_i c u hc
      rw [dropBlank_cons rfl] at hc
      cases hc
      rw [if_pos rfl, hv]
      dsimp only
      split
      · rename_i hd
        rw [dropBlank_cons hblank] at hd
        cases hd
      · rename_i d x hd
        rw [dropBlank_cons hblank] at hd
        cases hd
        split_ifs
        · rfl
        · cases fields (Value.setField before name v) (dropBlank _) <;> rfl
        · rfl

theorem setField_of_not_mem (h : name ∉ before.map Prod.fst) :
    Value.setField before name v = before ++ [(name, v)] := by
  rw [Value.setField, if_neg]
  rw [List.any_eq_true]
  rintro ⟨f, hf, hname⟩
  exact h (List.mem_map.2 ⟨f, hf, beq_iff_eq.1 hname⟩)

theorem fieldText_append (f : Text × Value) (rest : Text) :
    fieldText f ++ rest = string f.1 ++ (':' : CodePoint) :: (compact f.2 ++ rest) := by
  rw [fieldText, List.append_assoc, List.append_assoc]
  rfl

theorem exists_join_fields (f : Text × Value) (fs : List (Text × Value)) (rest : Text) :
    ∃ t, Text.join "," ((f :: fs).map fieldText) ++ rest = ('"' : CodePoint) :: t := by
  obtain ⟨more, hmore⟩ := exists_join_cons "," (fieldText f) (fs.map fieldText)
  rw [List.map_cons, hmore, List.append_assoc, fieldText_append, string_append]
  exact ⟨_, rfl⟩

theorem dropBlank_join_fields (f : Text × Value) (fs : List (Text × Value)) (rest : Text) :
    dropBlank (Text.join "," ((f :: fs).map fieldText) ++ rest) =
      Text.join "," ((f :: fs).map fieldText) ++ rest := by
  obtain ⟨t, ht⟩ := exists_join_fields f fs rest
  rw [ht, dropBlank_cons rfl]

theorem fields_faithful {f : Text × Value} (h : Faithful f.2) (hnew : f.1 ∉ before.map Prod.fst)
    {d : CodePoint} (hblank : isBlank d = false) :
    (fields before (fieldText f ++ d :: rest)).map Subtype.val =
      if d = '\x7d' then .ok (before ++ [f], rest)
      else if d = ',' then (fields (before ++ [f]) (dropBlank rest)).map Subtype.val
      else .error (.defect .expectedComma (rest.length + 1)) := by
  have hvalue := h.reads (d :: rest)
  rw [← h.dropBlank_compact] at hvalue
  rw [fieldText_append, fields_field hvalue hblank, setField_of_not_mem hnew]

theorem fields_join {f : Text × Value} {fs : List (Text × Value)}
    (h : ∀ g ∈ f :: fs, Faithful g.2) (hnames : ((before ++ f :: fs).map Prod.fst).Nodup)
    (rest : Text) :
    (fields before (Text.join "," ((f :: fs).map fieldText) ++
      ('\x7d' : CodePoint) :: rest)).map Subtype.val = .ok (before ++ f :: fs, rest) := by
  have hnew : f.1 ∉ before.map Prod.fst := by
    rw [List.map_append, List.map_cons] at hnames
    exact fun hmem => List.disjoint_of_nodup_append hnames hmem List.mem_cons_self
  induction fs generalizing before f with
  | nil =>
    rw [List.forall_mem_singleton] at h
    rw [List.map_singleton, Text.join, fields_faithful h hnew rfl, if_pos rfl]
  | cons g fs ih =>
    rw [List.forall_mem_cons] at h
    have hsame : before ++ f :: g :: fs = (before ++ [f]) ++ g :: fs := by
      rw [List.append_assoc, List.singleton_append]
    rw [hsame] at hnames ⊢
    have hnew' : g.1 ∉ (before ++ [f]).map Prod.fst := by
      rw [List.map_append, List.map_cons] at hnames
      exact fun hmem => List.disjoint_of_nodup_append hnames hmem List.mem_cons_self
    rw [List.map_cons, List.map_cons, join_append, ← List.map_cons, fields_faithful h.1 hnew rfl,
      if_neg (by decide), if_pos rfl, dropBlank_join_fields, ih h.2 hnames hnew']

theorem value_object {fs : List (Text × Value)}
    (hfields : (fields [] (dropBlank s)).map Subtype.val = .ok (fs, rest))
    (hs : ∃ t, dropBlank s = ('"' : CodePoint) :: t) :
    (value (('\x7b' : CodePoint) :: s)).map Subtype.val = .ok (.object fs, rest) := by
  obtain ⟨hlt, hfs⟩ := exists_of_map_val hfields
  obtain ⟨t, hcons⟩ := hs
  unfold value
  dsimp only
  rw [if_neg (by decide), if_pos rfl]
  split
  · rename_i hd
    rw [hcons] at hd
    cases hd
  · rename_i d u hd
    rw [hcons] at hd
    cases hd
    rw [if_neg (by decide), hfs]
    rfl

end Fields

theorem writeFields_eq_map (fs : List (Text × Value)) :
    writeFields .compact fs = fs.map fieldText := by
  induction fs with
  | nil => rfl
  | cons f fs ih =>
    rw [writeFields, ih, List.map_cons, fieldText, compact]
    rfl

theorem compact_object (f : Text × Value) (fs : List (Text × Value)) :
    compact (.object (f :: fs)) =
      ('\x7b' : CodePoint) :: (Text.join "," ((f :: fs).map fieldText) ++ "\x7d") := by
  rw [compact, write, Layout.inner, writeFields_eq_map, List.map_cons]
  simp only [Layout.bracket, Layout.inner, Layout.newline, List.append_nil, List.nil_append,
    List.cons_append]
  rfl

theorem object_plain {f : Text × Value} {fs : List (Text × Value)}
    (hnames : ∀ g ∈ f :: fs, g.1.hasSurrogate = false)
    (h : ∀ g ∈ f :: fs, (compact g.2).hasSurrogate = false) :
    (compact (.object (f :: fs))).hasSurrogate = false := by
  have hfields : ∀ t ∈ (f :: fs).map fieldText, t.hasSurrogate = false := by
    refine List.forall_mem_map.2 fun g hg => ?_
    exact Text.hasSurrogate_append
      (Text.hasSurrogate_append (string_plain (hnames g hg)) rfl) (h g hg)
  rw [compact_object]
  exact @Text.hasSurrogate_append "\x7b" _ rfl
    (Text.hasSurrogate_append (hasSurrogate_join rfl hfields) rfl)

theorem mem_join {sep t : Text} {ts : List Text} {c : CodePoint} (ht : t ∈ ts) (hc : c ∈ t) :
    c ∈ Text.join sep ts := by
  fun_induction Text.join sep ts with
  | case1 => cases ht
  | case2 => rwa [← List.mem_singleton.1 ht]
  | case3 t ts hne ih =>
    rcases List.mem_cons.1 ht with rfl | ht
    · exact List.mem_append_left _ (List.mem_append_left _ hc)
    · exact List.mem_append_right _ (ih ht)

theorem plain_of_object {f : Text × Value} {fs : List (Text × Value)}
    (h : (compact (.object (f :: fs))).hasSurrogate = false) :
    ∀ g ∈ f :: fs, (compact g.2).hasSurrogate = false := by
  rw [Text.hasSurrogate_eq_false_iff, compact_object] at h
  intro g hg
  rw [Text.hasSurrogate_eq_false_iff]
  intro c hc
  have hfield : c ∈ fieldText g := List.mem_append_right _ hc
  have hjoin : c ∈ Text.join "," ((f :: fs).map fieldText) :=
    mem_join (List.mem_map_of_mem hg) hfield
  exact h c (List.mem_cons_of_mem _ (List.mem_append_left _ hjoin))

theorem Faithful.object {f : Text × Value} {fs : List (Text × Value)}
    (h : ∀ g ∈ f :: fs, Faithful g.2) (hplain : ∀ g ∈ f :: fs, g.1.hasSurrogate = false)
    (hnames : ((f :: fs).map Prod.fst).Nodup) : Faithful (.object (f :: fs)) where
  plain := object_plain hplain fun g hg => (h g hg).plain
  finite := by
    have hfinite : Value.fieldsAreFinite (f :: fs) = true := by
      clear hplain hnames
      generalize f :: fs = gs at h
      induction gs with
      | nil => rfl
      | cons g gs ih =>
        rw [List.forall_mem_cons] at h
        rw [Value.fieldsAreFinite, h.1.finite, ih h.2]
        rfl
    exact hfinite
  starts := ⟨'\x7b', _, compact_object f fs, rfl, by decide⟩
  reads rest := by
    rw [compact_object, List.cons_append, List.append_assoc]
    apply value_object
    · rw [dropBlank_join_fields]
      exact fields_join h hnames rest
    · rw [dropBlank_join_fields]
      exact exists_join_fields f fs _

theorem Faithful.parse_compact {v : Value} (h : Faithful v) : parse (compact v) = .ok v := by
  have hread := h.reads []
  rw [← h.dropBlank_compact, List.append_nil] at hread
  obtain ⟨hlt, hv⟩ := exists_of_map_val hread
  rw [parse, document, hv]
  rfl

theorem ofBytes_of_ne_zero {a b : Byte} (ha : a ≠ 0) (hb : b ≠ 0) (rest : Bytes) :
    Encoding.ofBytes (a :: b :: rest) = .utf8 := by
  match rest with
  | [] => rw [Encoding.ofBytes, if_neg ha, if_neg hb]
  | [_] => rfl
  | _ :: _ :: _ => rw [Encoding.ofBytes, if_neg ha, if_neg hb]

theorem decode_encode {c d : CodePoint} {t : Text} (h : Text.hasSurrogate (c :: d :: t) = false)
    (hc : 0 < c.val ∧ c.val < 0x80) (hd : 0 < d.val ∧ d.val < 0x80) :
    decode ((c :: d :: t).flatMap Utf8.encodeOne) = .ok (c :: d :: t) := by
  have hone {e : CodePoint} (he : 0 < e.val ∧ e.val < 0x80) :
      Utf8.encodeOne e = [Utf8.byte e.val] ∧ Utf8.byte e.val ≠ 0 := by
    refine ⟨by rw [Utf8.encodeOne, if_pos he.2], ?_⟩
    intro hzero
    have hval := congrArg Fin.val hzero
    rw [Utf8.byte_val (by omega)] at hval
    exact Nat.ne_of_gt he.1 hval
  obtain ⟨hc', hcne⟩ := hone hc
  obtain ⟨hd', hdne⟩ := hone hd
  have hutf8 : Encoding.ofBytes ((c :: d :: t).flatMap Utf8.encodeOne) = .utf8 := by
    rw [List.flatMap_cons, List.flatMap_cons, hc', hd', List.singleton_append,
      List.singleton_append, ofBytes_of_ne_zero hcne hdne]
  have hmark : c ≠ 0xFEFF := by
    rintro rfl
    omega
  rw [decode, hutf8]
  dsimp only
  rw [Encoding.decode8, Utf8.decode_encode h]
  dsimp only
  rw [if_neg hmark]

end TokenIndex.Json
