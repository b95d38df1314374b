import TokenIndex.Command.Client
import TokenIndex.Service.Query
import TokenIndex.Proofs.Url
import TokenIndex.Proofs.Text.Decimal

namespace TokenIndex

namespace Inquiry

def keptInPart (c : CodePoint) : Bool := Percent.isUnreserved c || c = (' ' : CodePoint)

/-- A part of a query as it is written. -/
def writtenPart (t : Text) : Text :=
  (Percent.spelled keptInPart t).map fun c => if c = (' ' : CodePoint) then ('+' : CodePoint) else c

def inPart (c : CodePoint) : Bool := Percent.isUnreserved c || c.isOneOf "+%"

variable {t : Text}

theorem queryPart_eq_ok (h : t.hasSurrogate = false) : queryPart t = .ok (writtenPart t) := by
  have hkept := Percent.encodeKeeping_eq_ok keptInPart h
  rw [queryPart]
  exact congrArg (Except.map _) hkept

theorem forall_mem_writtenPart {p : CodePoint → Bool}
    (h : ∀ n : Fin 0x80, inPart (.ofNat n.val) = true → p (.ofNat n.val) = true) (t : Text) :
    ∀ c ∈ writtenPart t, c.val < 0x80 ∧ p c = true := by
  have hclass := Percent.forall_mem_spelled keptInPart
    (p := fun c => inPart (if c = (' ' : CodePoint) then ('+' : CodePoint) else c))
    (by decide +kernel) t
  refine List.forall_mem_map.2 fun c hc => ?_
  obtain ⟨hascii, hpart⟩ := hclass c hc
  have hascii : (if c = (' ' : CodePoint) then ('+' : CodePoint) else c).val < 0x80 := by
    split
    · decide
    · exact hascii
  exact ⟨hascii, CodePoint.of_ascii h hascii hpart⟩

theorem inQuery_writtenPart (t : Text) : Url.InQuery (writtenPart t) :=
  forall_mem_writtenPart (by decide +kernel) t

theorem separators_not_mem_writtenPart (t : Text) :
    ('&' : CodePoint) ∉ writtenPart t ∧ ('=' : CodePoint) ∉ writtenPart t := by
  have hclass := forall_mem_writtenPart
    (p := fun c => c != ('&' : CodePoint) && c != ('=' : CodePoint)) (by decide +kernel) t
  refine ⟨fun h => ?_, fun h => ?_⟩
  · exact absurd (hclass _ h).2 (by decide)
  · exact absurd (hclass _ h).2 (by decide)

theorem decodePart_writtenPart (h : t.hasSurrogate = false) :
    Service.Query.decodePart (writtenPart t) = t := by
  have hclass := Percent.forall_mem_spelled keptInPart (p := fun c => c != ('+' : CodePoint))
    (by decide +kernel) t
  have hback : ((writtenPart t).map fun c =>
      if c = ('+' : CodePoint) then (' ' : CodePoint) else c) = Percent.spelled keptInPart t := by
    rw [writtenPart, List.map_map]
    refine (List.map_congr_left fun c hc => ?_).trans (List.map_id _)
    have hplus : c ≠ '+' := bne_iff_ne.1 (hclass c hc).2
    rw [Function.comp_apply]
    split_ifs with hblank hplus'
    · exact hblank.symm
    · exact absurd rfl hplus'
    · rfl
  rw [Service.Query.decodePart, hback, Percent.decode_spelled (by decide) h]

def writtenField (f : Text × Text) : Text := f.1 ++ "=" ++ writtenPart f.2

def isName (name : Text) : Bool := name.all fun c => c.between 'a' 'z'

section Fields

variable {f : Text × Text} {fs : List (Text × Text)}

theorem not_mem_name {name : Text} (h : isName name = true) {c : CodePoint}
    (hc : c.between 'a' 'z' = false) : c ∉ name := by
  intro hmem
  rw [isName, List.all_eq_true] at h
  rw [h c hmem] at hc
  cases hc

theorem ascii_of_mem_name {name : Text} (h : isName name = true) : ∀ c ∈ name, c.val < 0x80 :=
  fun c hc => CodePoint.ascii_of_between (List.all_eq_true.1 h c hc) (by decide)

theorem decodePart_name {name : Text} (h : isName name = true) :
    Service.Query.decodePart name = name := by
  have hplain : name.hasSurrogate = false := Text.hasSurrogate_of_ascii (ascii_of_mem_name h)
  have hsame : (name.map fun c =>
      if c = ('+' : CodePoint) then (' ' : CodePoint) else c) = name := by
    refine (List.map_congr_left fun c hc => ?_).trans (List.map_id _)
    rw [if_neg (ne_of_mem_of_not_mem hc (not_mem_name h (by decide)))]
    rfl
  rw [Service.Query.decodePart, hsame]
  exact Percent.decode_of_not_mem (not_mem_name h (by decide)) hplain

theorem field_writtenField (hname : isName f.1 = true) (h : f.2.hasSurrogate = false) :
    Service.Query.field (writtenField f) = f := by
  have hrun : ∀ c ∈ f.1, (decide (c ≠ ('=' : CodePoint))) = true := by
    intro c hc
    rw [decide_eq_true_eq]
    exact ne_of_mem_of_not_mem hc (not_mem_name hname (by decide))
  have hends : Text.Ends (fun c => decide (c ≠ ('=' : CodePoint))) ("=" ++ writtenPart f.2) :=
    Text.ends_cons.2 rfl
  rw [Service.Query.field, writtenField, List.append_assoc, Text.takeWhile_run hrun hends,
    Text.dropWhile_run hrun hends, decodePart_name hname]
  have hdrop : List.drop 1 (("=" : Text) ++ writtenPart f.2) = writtenPart f.2 := rfl
  rw [hdrop, decodePart_writtenPart h]

theorem inQuery_writtenField (hname : isName f.1 = true) : Url.InQuery (writtenField f) := by
  have hletters : Url.InQuery f.1 := by
    intro c hc
    have hletter := List.all_eq_true.1 hname c hc
    have hascii := ascii_of_mem_name hname c hc
    exact ⟨hascii, CodePoint.of_ascii (p := fun c => c.between 'a' 'z') (by decide) hascii hletter⟩
  have hsign : Url.InPath "=" := Url.inPath_of_all (by decide)
  exact List.forall_mem_append.2
    ⟨List.forall_mem_append.2 ⟨hletters, hsign.inQuery⟩, inQuery_writtenPart f.2⟩

theorem not_mem_writtenField (hname : isName f.1 = true) :
    ('&' : CodePoint) ∉ writtenField f := by
  rw [writtenField, List.mem_append, List.mem_append, not_or, not_or]
  exact ⟨⟨not_mem_name hname (by decide), by decide⟩, (separators_not_mem_writtenPart f.2).1⟩

theorem writtenField_ne_nil (f : Text × Text) : writtenField f ≠ [] :=
  List.append_ne_nil_of_left_ne_nil (List.append_ne_nil_of_right_ne_nil _ (List.cons_ne_nil _ _)) _

/-- The service reads the fields that were written. -/
theorem fields_join (hnames : ∀ f ∈ fs, isName f.1 = true)
    (h : ∀ f ∈ fs, f.2.hasSurrogate = false) (hne : fs ≠ []) :
    Service.Query.fields (Text.join "&" (fs.map writtenField)) = fs := by
  have hparts : Text.splitOn '&' (Text.join "&" (fs.map writtenField)) = fs.map writtenField := by
    refine Text.splitOn_join (List.forall_mem_map.2 fun f hf => ?_) ?_
    · exact not_mem_writtenField (hnames f hf)
    · rwa [Ne, List.map_eq_nil_iff]
  have hfilled : (fs.map writtenField).filter (· ≠ []) = fs.map writtenField := by
    rw [List.filter_eq_self]
    refine List.forall_mem_map.2 fun f _ => ?_
    exact decide_eq_true (writtenField_ne_nil f)
  rw [Service.Query.fields, hparts, hfilled, List.map_map]
  refine (List.map_congr_left fun f hf => ?_).trans (List.map_id fs)
  exact field_writtenField (hnames f hf) (h f hf)

end Fields

def texts (fields : List (Text × Value)) : List (Text × Text) :=
  fields.map fun f => (f.1, f.2.shown)

theorem query_eq_ok {fields : List (Text × Value)}
    (h : ∀ f ∈ texts fields, f.2.hasSurrogate = false) :
    query fields = .ok ((texts fields).map writtenField) := by
  induction fields with
  | nil => rfl
  | cons f fields ih =>
    rw [texts, List.map_cons, List.forall_mem_cons] at h
    rw [query, queryPart_eq_ok h.1, ih h.2]
    rfl

end Inquiry

namespace Service.Query

theorem head?_decimal_ne (n : Nat) {c : CodePoint} (hc : c.between '0' '9' = false) :
    (Text.decimal n).head? ≠ some c := by
  intro h
  have hdigit := Text.between_of_mem_decimal (List.mem_of_mem_head? h)
  rw [hc] at hdigit
  cases hdigit

theorem exists_integer?_decimal {n : Nat} (h : 0 < n) :
    ∃ digits, Text.ofDigits 10 digits = n ∧ digits.length = (Text.decimal n).length ∧
      integer? (Text.decimal n) = some (false, digits) ∧
      integer? (('-' : CodePoint) :: Text.decimal n) = some (true, digits) := by
  obtain ⟨digits, hdecimal, hsmall, hvalue, hne, hlead⟩ := Text.exists_decimal n
  have hread := Text.mapM_digitSign hsmall
  rw [← hdecimal] at hread
  have hdash : (Text.decimal n).head? ≠ some ('-' : CodePoint) := head?_decimal_ne n (by decide)
  obtain ⟨d, ds, rfl⟩ := List.exists_cons_of_ne_nil hne
  have hzero : d ≠ 0 := fun hd => hlead h (congrArg some hd)
  obtain ⟨k, rfl⟩ := Nat.exists_eq_succ_of_ne_zero hzero
  refine ⟨(k + 1) :: ds, hvalue, by rw [hdecimal, List.length_map], ?_, ?_⟩
  · obtain ⟨c, rest, hcons⟩ := List.exists_cons_of_ne_nil (l := Text.decimal n) (by simp [hdecimal])
    rw [hcons] at hread hdash ⊢
    rw [integer?]
    dsimp only
    rw [if_neg (fun hc => hdash (congrArg some hc)), hread]
    rfl
  · rw [integer?]
    dsimp only
    rw [if_pos rfl, hread]
    rfl

theorem isOversized_decimal (n : Nat) : isOversized (Text.decimal n) =
    ((Text.decimal n).head?.any (·.between '1' '9') &&
      decide (TooManyDigits.limit < (Text.decimal n).length)) := by
  have hdash : (Text.decimal n).head? ≠ some ('-' : CodePoint) := head?_decimal_ne n (by decide)
  have hrun : (Text.decimal n).takeWhile (fun c => c.between '0' '9') = Text.decimal n := by
    have htake := Text.takeWhile_run (fun c => Text.between_of_mem_decimal (n := n) (c := c))
      (Text.ends_nil _)
    rwa [List.append_nil] at htake
  rw [isOversized, if_neg hdash, hrun, decide_eq_false hdash, List.drop_length, List.head?_nil,
    measured, width, Option.any_none, if_neg Bool.false_ne_true, if_neg Bool.false_ne_true]

theorem not_isOversized_decimal {n : Nat} (h : n < 10 ^ TooManyDigits.limit) :
    isOversized (Text.decimal n) = false := by
  have hlength := Text.length_decimal_le (by decide) h
  rw [isOversized_decimal, decide_eq_false (Nat.not_lt.2 hlength), Bool.and_false]

theorem limit_eq_ok {n : Int} (h : 1 ≤ n) (hshort : n.natAbs < 10 ^ TooManyDigits.limit) :
    limit (Text.decimalInt n) = .ok n.toNat := by
  obtain ⟨digits, hvalue, hlength, hread, -⟩ := @exists_integer?_decimal n.natAbs (by omega)
  have hfits : ¬ TooManyDigits.limit < width false digits.length := by
    rw [width, if_neg Bool.false_ne_true, hlength]
    exact Nat.not_lt.2 (Text.length_decimal_le (by decide) hshort)
  have hleast : ¬ (false || decide (n.natAbs < leastLimit)) = true := by
    rw [Bool.false_or, decide_eq_true_eq, leastLimit]
    omega
  rw [Text.decimalInt, if_neg (by omega), limit, not_isOversized_decimal hshort,
    if_neg Bool.false_ne_true, hread]
  dsimp only [Option.orElse]
  rw [if_neg hfits, hvalue, if_neg hleast]
  congr 1
  omega

theorem limit_eq_error {n : Nat} (h : 10 ^ TooManyDigits.limit ≤ n) :
    limit (Text.decimal n) = .error (.tooManyDigits limitName (Text.decimal n)) := by
  obtain ⟨digits, hdecimal, hsmall, hvalue, hne, hlead⟩ := Text.exists_decimal n
  have hpos : 0 < n := Nat.lt_of_lt_of_le (Nat.pow_pos (by decide)) h
  have hlong : TooManyDigits.limit < (Text.decimal n).length := by
    have hlt := Nat.lt_of_le_of_lt h (hvalue ▸ Text.ofDigits_lt hsmall)
    rw [hdecimal, List.length_map]
    exact (Nat.pow_lt_pow_iff_right (by decide)).1 hlt
  have hstart : (Text.decimal n).head?.any (·.between '1' '9') = true := by
    obtain ⟨d, ds, rfl⟩ := List.exists_cons_of_ne_nil hne
    rw [List.forall_mem_cons] at hsmall
    have hzero : d ≠ 0 := fun hd => hlead hpos (congrArg some hd)
    have hall : ∀ e : Fin 10, e.val ≠ 0 → (Text.digitSign e).between '1' '9' = true := by decide
    rw [hdecimal]
    exact hall ⟨d, hsmall.1⟩ hzero
  rw [limit, isOversized_decimal, hstart, decide_eq_true hlong, if_pos (by decide)]

theorem exists_limit_eq_error {n : Int} (h : n < 0) :
    ∃ d, limit (Text.decimalInt n) = .error d := by
  obtain ⟨digits, -, -, -, hread⟩ := @exists_integer?_decimal n.natAbs (by omega)
  rw [Text.decimalInt, if_pos h, limit]
  split
  · exact ⟨_, rfl⟩
  · rw [hread]
    dsimp only [Option.orElse]
    split
    · exact ⟨_, rfl⟩
    · exact ⟨_, rfl⟩

end Service.Query

end TokenIndex
