import TokenIndex.Proofs.PrefixCode
import TokenIndex.Proofs.Table
import TokenIndex.Proofs.Token

namespace TokenIndex

theorem Utf8.prefixCode : PrefixCode (·.isSurrogate = false) Utf8.encodeOne where
  ne_nil := by
    intro c _
    unfold Utf8.encodeOne
    dsimp only
    split_ifs <;> exact List.cons_ne_nil _ _
  eq_of_prefix := by
    rintro c d hc hd ⟨rest, hrest⟩
    -- the bytes of `d` alone decode to `d`, and to `c` and what else there is
    have hpieces : pieces (encodeOne d ++ []) = .char c :: pieces rest := by
      rw [List.append_nil, ← hrest, pieces_encodeOne hc]
    rw [pieces_encodeOne hd, pieces] at hpieces
    exact (Utf8.Piece.char.inj (List.cons.inj hpieces).1).symm

namespace Token

theorem length_escape (b : Byte) : (escape b).length = 3 := by rw [escape_eq]; rfl

theorem escape_prefixCode : PrefixCode (fun _ => True) escape where
  ne_nil {b} _ := by rw [escape_eq]; exact List.cons_ne_nil _ _
  eq_of_prefix := by
    intro a b _ _ hab
    have heq : escape a = escape b :=
      hab.eq_of_length (by rw [length_escape, length_escape])
    have hgroup := group?_escape a []
    rw [heq, group?_escape] at hgroup
    exact (congrArg Prod.fst (Option.some.inj hgroup)).symm

theorem flatMap_escape_prefix_iff {s t : Bytes} :
    s.flatMap escape <+: t.flatMap escape ↔ s <+: t :=
  escape_prefixCode.flatMap_prefix_iff (fun _ _ => trivial) (fun _ _ => trivial)

theorem head?_flatMap_escape {c : CodePoint} (hc : c.isSurrogate = false) :
    ((Utf8.encodeOne c).flatMap escape).head? = some ('_' : CodePoint) := by
  cases hb : Utf8.encodeOne c with
  | nil => exact absurd hb (Utf8.prefixCode.ne_nil hc)
  | cons b bytes => rfl

theorem prefixCode : PrefixCode (·.isSurrogate = false) encodeOne where
  ne_nil := by
    intro c hc
    rw [encodeOne]
    split
    · exact List.cons_ne_nil _ _
    · intro hnil
      have hhead := head?_flatMap_escape hc
      rw [hnil] at hhead
      cases hhead
  eq_of_prefix := by
    rintro c d hc hd ⟨rest, hrest⟩
    have hhead := congrArg List.head? hrest
    rw [encodeOne, encodeOne] at hrest hhead
    by_cases hsc : isSafe c = true <;> by_cases hsd : isSafe d = true
    · rw [if_pos hsc, if_pos hsd] at hrest
      exact (List.cons.inj hrest).1
    · rw [if_pos hsc, if_neg hsd, head?_flatMap_escape hd] at hhead
      cases hhead
      exact absurd hsc (by decide)
    · rw [if_neg hsc, if_pos hsd, List.head?_append, head?_flatMap_escape hc] at hhead
      cases hhead
      exact absurd hsd (by decide)
    · rw [if_neg hsc, if_neg hsd] at hrest
      exact Utf8.prefixCode.eq_of_prefix hc hd (flatMap_escape_prefix_iff.1 ⟨rest, hrest⟩)

theorem hasSurrogate_eq_false_of_encode {n s : Text} (h : encode n = .ok s) :
    n.hasSurrogate = false := by
  rw [encode, Text.find?_isSurrogate_lower] at h
  cases hc : n.find? CodePoint.isSurrogate with
  | some c => rw [hc] at h; cases h
  | none => simpa [Text.hasSurrogate_eq_false_iff] using hc

theorem encode_eq_ok_iff {n s : Text} :
    encode n = .ok s ↔ n.hasSurrogate = false ∧ n.lower.flatMap encodeOne = s := by
  constructor
  · intro h
    have hn := hasSurrogate_eq_false_of_encode h
    rw [encode_eq_ok hn] at h
    exact ⟨hn, Except.ok.inj h⟩
  · rintro ⟨hn, rfl⟩
    exact encode_eq_ok hn

section Names

variable {m n s u : Text}

theorem forall_mem_lower (h : m.hasSurrogate = false) :
    ∀ c ∈ m.lower, c.isSurrogate = false :=
  Text.hasSurrogate_eq_false_iff.1 (Text.hasSurrogate_lower h)

theorem prefix_iff_of_encode (hm : encode m = .ok s) (hn : encode n = .ok u) :
    s <+: u ↔ m.lower <+: n.lower := by
  obtain ⟨hmplain, rfl⟩ := encode_eq_ok_iff.1 hm
  obtain ⟨hnplain, rfl⟩ := encode_eq_ok_iff.1 hn
  exact prefixCode.flatMap_prefix_iff (forall_mem_lower hmplain) (forall_mem_lower hnplain)

theorem eq_iff_of_encode (hm : encode m = .ok s) (hn : encode n = .ok u) :
    s = u ↔ m.lower = n.lower := by
  obtain ⟨hmplain, rfl⟩ := encode_eq_ok_iff.1 hm
  obtain ⟨hnplain, rfl⟩ := encode_eq_ok_iff.1 hn
  exact prefixCode.flatMap_inj (forall_mem_lower hmplain) (forall_mem_lower hnplain)

end Names

end Token

namespace Table

open Token (encode)

section

variable {t : Table} {names : List Text} {start lead : Text}

/-- The names have tokens, all different, and these are the tokens of the table. -/
structure Holds (t : Table) (names : List Text) : Prop where
  plain : ∀ n ∈ names, n.hasSurrogate = false
  distinct : (names.map encode).Nodup
  mem_tokens_iff : ∀ token, token ∈ t.tokens ↔ ∃ n ∈ names, encode n = .ok token

theorem Holds.perm (h : t.Holds names) : (names.map encode).Perm (t.tokens.map .ok) := by
  have htokens : (t.tokens.map (Except.ok (ε := Utf8.EncodeFault))).Nodup :=
    t.nodup_tokens.map fun _ _ => Except.ok.inj
  rw [List.perm_ext_iff_of_nodup h.distinct htokens]
  intro e
  rw [List.mem_map, List.mem_map]
  constructor
  · rintro ⟨n, hn, rfl⟩
    have hencode := Token.encode_eq_ok (h.plain n hn)
    exact ⟨_, (h.mem_tokens_iff _).2 ⟨n, hn, hencode⟩, hencode.symm⟩
  · rintro ⟨token, htoken, rfl⟩
    exact (h.mem_tokens_iff token).1 htoken

theorem Holds.search_perm (h : t.Holds names) (hstart : start ≠ [])
    (hlead : encode start = .ok lead) :
    ((t.search lead none).map fun r => .ok r.1).Perm
      ((names.filter (·.lower.startsWith start.lower)).map encode) := by
  have hempty : encode [] = .ok [] := rfl
  have hne : lead ≠ [] := by
    rintro rfl
    exact Text.lower_ne_nil hstart ((Token.eq_iff_of_encode hlead hempty).1 rfl)
  -- whether a token begins with `lead`, told from the result of encoding
  let begins : Except Utf8.EncodeFault Text → Bool := fun e => e.toOption.any (·.startsWith lead)
  have hrows : (t.search lead none).map (fun r => .ok r.1) =
      (t.tokens.map Except.ok).filter begins := by
    rw [search_eq_filter t hne, tokens, List.filter_map, List.filter_map, List.map_map]
    rfl
  have hnames : (names.filter (·.lower.startsWith start.lower)).map encode =
      (names.map encode).filter begins := by
    rw [List.filter_map]
    congr 1
    apply List.filter_congr
    intro n hn
    have htoken := Token.encode_eq_ok (h.plain n hn)
    rw [Bool.eq_iff_iff, Text.startsWith_iff, ← Token.prefix_iff_of_encode hlead htoken,
      ← Text.startsWith_iff, Function.comp_apply, htoken]
    rfl
  rw [hrows, hnames]
  exact (h.perm.filter begins).symm

theorem Holds.lookup_of_lower_eq (h : t.Holds names) {m n token : Text} (hm : m ∈ names)
    (hn : encode n = .ok token) (hlower : m.lower = n.lower) :
    (token, t.lookup token) ∈ t.rows := by
  have hencode := Token.encode_eq_ok (h.plain m hm)
  obtain rfl := (Token.eq_iff_of_encode hencode hn).2 hlower
  obtain ⟨⟨_, entries⟩, hrow, rfl⟩ := List.mem_map.1 ((h.mem_tokens_iff _).2 ⟨m, hm, hencode⟩)
  rw [lookup_of_mem hrow]
  exact hrow

theorem Holds.lookup_of_lower_ne (h : t.Holds names) {n token : Text} (hn : encode n = .ok token)
    (hlower : ∀ m ∈ names, m.lower ≠ n.lower) : t.lookup token = [] := by
  apply lookup_of_not_mem
  intro hmem
  obtain ⟨m, hm, hencode⟩ := (h.mem_tokens_iff token).1 hmem
  exact hlower m hm ((Token.eq_iff_of_encode hencode hn).1 rfl)

end

/-- In a table of the tokens of some names, searching for the token of any text but the empty one
finds the tokens of the names that begin with it in lower case, and no others. For the token of one
name begins that of another exactly if the names do, and names share a token only if they are equal
in lower case; so a name leads to the entries of its own token, or to none. -/
theorem search_encode_perm {t : Table} {names : List Text} (h : t.Holds names) :
    (∀ start : Text, start ≠ [] → start.hasSurrogate = false →
      ∃ lead, encode start = .ok lead ∧
        ((t.search lead none).map fun r => .ok r.1).Perm
          ((names.filter (·.lower.startsWith start.lower)).map encode)) ∧
    (∀ m n : Text, m.hasSurrogate = false → n.hasSurrogate = false →
      ∃ s u, encode m = .ok s ∧ encode n = .ok u ∧
        (s <+: u ↔ m.lower <+: n.lower) ∧ (s = u ↔ m.lower = n.lower)) ∧
    ∀ n : Text, n.hasSurrogate = false →
      ∃ token entries, encode n = .ok token ∧ t.lookupName n = .ok entries ∧
        ((∃ m ∈ names, m.lower = n.lower) → (token, entries) ∈ t.rows) ∧
        ((∀ m ∈ names, m.lower ≠ n.lower) → entries = []) := by
  refine ⟨?_, ?_, ?_⟩
  · intro start hstart hplain
    have hlead := Token.encode_eq_ok hplain
    exact ⟨_, hlead, h.search_perm hstart hlead⟩
  · intro m n hm hn
    have hm := Token.encode_eq_ok hm
    have hn := Token.encode_eq_ok hn
    exact ⟨_, _, hm, hn, Token.prefix_iff_of_encode hm hn, Token.eq_iff_of_encode hm hn⟩
  · intro n hplain
    have hn := Token.encode_eq_ok hplain
    refine ⟨_, t.lookup _, hn, by rw [lookupName, hn]; rfl, ?_, h.lookup_of_lower_ne hn⟩
    rintro ⟨m, hm, hlower⟩
    exact h.lookup_of_lower_eq hm hn hlower

def sampleNames : List Text := ["Aé=", "aB"]

def sampleTable : Table where
  source := "<string>"
  rows := [("a_c3_a9_3d", [⟨"Aé=", "x.html", "", true⟩]), ("ab", [⟨"aB", "y.html", "", false⟩])]
  sorted := by decide
  filled := by decide

theorem search_encode_perm_sample :
    sampleTable.Holds sampleNames ∧
      ∃ lead, encode (Text.ofString "AÉ") = .ok lead ∧
        ((sampleTable.search lead none).map fun r => Except.ok r.1).Perm
          [encode (Text.ofString "Aé=")] := by
  have hencode : sampleNames.map encode = sampleTable.tokens.map .ok := by decide +kernel
  have hholds : sampleTable.Holds sampleNames := by
    refine ⟨by decide, ?_, fun token => ?_⟩
    · rw [hencode]
      exact sampleTable.nodup_tokens.map fun _ _ => Except.ok.inj
    · have hmem : Except.ok token ∈ sampleNames.map encode ↔ token ∈ sampleTable.tokens := by
        rw [hencode, List.mem_map_of_injective fun _ _ => Except.ok.inj]
      rw [← hmem, List.mem_map]
  obtain ⟨lead, hlead, hperm⟩ :=
    (search_encode_perm hholds).1 (Text.ofString "AÉ") (by decide) (by decide)
  refine ⟨hholds, lead, hlead, ?_⟩
  have hfilter : sampleNames.filter (·.lower.startsWith (Text.lower (Text.ofString "AÉ"))) =
      [Text.ofString "Aé="] := by decide +kernel
  rwa [hfilter] at hperm

end Table

end TokenIndex
