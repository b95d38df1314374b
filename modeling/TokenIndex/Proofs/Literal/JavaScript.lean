import TokenIndex.Proofs.Literal.Offset
import TokenIndex.Proofs.Text.Decimal
import TokenIndex.Proofs.Text.Utf16
import Mathlib.Tactic.SplitIfs

namespace TokenIndex.JavaScript

open Literal (Cause simpleEscape string scalar)
open Utf16 (Unpaired units)

structure HexDigits (width : Nat) where
  text : Text
  values : List Nat
  length_eq : text.length = width
  spells : text.map Text.hexDigit? = values.map some

def HexDigits.number {width : Nat} (d : HexDigits width) : Nat := Text.ofDigits 16 d.values

/-- What ends a line, and does not stand in a string but behind a backslash. -/
def lineTerminators : List CodePoint := ['\n', '\r', 0x2028, 0x2029]

inductive LineEnd where
  | lineFeed
  | carriageReturn
  | both
  | lineSeparator
  | paragraphSeparator
  deriving DecidableEq

def LineEnd.text : LineEnd → Text
  | lineFeed => "\n"
  | carriageReturn => "\r"
  | both => "\r\n"
  | lineSeparator => [0x2028]
  | paragraphSeparator => [0x2029]

/-- What stands between the quotes of a literal. -/
inductive Piece where
  | plain (c : CodePoint)
  /-- A backslash and any character that it may stand before. -/
  | escaped (c : CodePoint)
  | byte (d : HexDigits 2)
  | unicode (d : HexDigits 4)
  | continued (e : LineEnd)

/-- The meaning of a character behind a backslash. -/
def meaning (c : CodePoint) : CodePoint :=
  if c = 'b' then 0x08
  else if c = 't' then 0x09
  else if c = 'n' then 0x0A
  else if c = 'v' then 0x0B
  else if c = 'f' then 0x0C
  else if c = 'r' then 0x0D
  else if c = '0' then 0x00
  else c

namespace Piece

def spelling : Piece → Text
  | plain c => [c]
  | escaped c => ['\\', c]
  | byte d => '\\' :: 'x' :: d.text
  | unicode d => '\\' :: 'u' :: d.text
  | continued e => '\\' :: e.text

def value : Piece → List Nat
  | plain c => units c
  | escaped c => units (meaning c)
  | byte d => [d.number]
  | unicode d => [d.number]
  | continued _ => []

def reading : Piece → Text
  | plain c => [c]
  | escaped c => [simpleEscape c]
  | byte d => [.ofNat d.number]
  | unicode d => [.ofNat d.number]
  | continued .lineSeparator => [0x2028]
  | continued .paragraphSeparator => [0x2029]
  | continued _ => []

/-- Which pieces the language allows between quotes `q`. -/
def Fits (q : CodePoint) : Piece → Prop
  | plain c => c ≠ q ∧ c ≠ '\\' ∧ c ∉ lineTerminators
  | escaped c => c ≠ 'x' ∧ c ≠ 'u' ∧ c.between '1' '9' = false ∧ c ∉ lineTerminators
  | _ => True

/-- A piece that the reader takes: one that the language allows, or a carriage return. -/
def Passes (q : CodePoint) (p : Piece) : Prop := p.Fits q ∨ p = plain '\r'

/-- A vertical tab, and a line continuation that is read as a character. -/
def Deviates : Piece → Prop
  | escaped c => c = 'v'
  | continued e => e = .lineSeparator ∨ e = .paragraphSeparator
  | _ => False

end Piece

def spelling (ps : List Piece) : Text := ps.flatMap Piece.spelling

def literal (q : CodePoint) (ps : List Piece) : Text := q :: (spelling ps ++ [q])

def value (ps : List Piece) : Text := Json.Encoding.joinPairs (ps.flatMap Piece.value)

def reading (ps : List Piece) : Text := ps.flatMap Piece.reading

/-- A literal of the language. Behind the escape of NUL there is no digit. -/
structure WellFormed (q : CodePoint) (ps : List Piece) : Prop where
  fits : ∀ p ∈ ps, p.Fits q
  zero : ps.IsChain fun p next => p = .escaped '0' →
    Text.Ends (CodePoint.between · '0' '9') next.spelling

variable {q : CodePoint} {p : Piece} {ps : List Piece}

theorem WellFormed.passes (h : WellFormed q ps) : ∀ p ∈ ps, p.Passes q :=
  fun p hp => .inl (h.fits p hp)

@[simp] theorem spelling_cons : spelling (p :: ps) = p.spelling ++ spelling ps := rfl

@[simp] theorem reading_cons : reading (p :: ps) = p.reading ++ reading ps := rfl

theorem Piece.Passes.after?_lineFeed (h : p.Passes q) (rest : Text) :
    Text.after? "\n" (p.spelling ++ rest) = none := by
  have hplain {c : CodePoint} (hc : c ≠ '\n') : Text.after? "\n" (c :: rest) = none :=
    if_neg hc.symm
  cases p with
  | plain c =>
    refine hplain ?_
    rintro rfl
    obtain ⟨-, -, hc⟩ | h := h
    · exact hc List.mem_cons_self
    · cases h
  | escaped | byte | unicode | continued => exact if_neg (by decide)

open Literal.Grammar (Escape) in
/-- A carriage return behind a backslash takes a line feed along, which must not stand there. -/
theorem string_piece (hq : q = '\'' ∨ q = '"') (h : p.Passes q) {rest : Text}
    (hrest : p = .continued .carriageReturn → Text.after? "\n" rest = none) :
    string q (p.spelling ++ rest) = (string q rest).map fun r => (p.reading ++ r.1, r.2) := by
  have hreturn : q ≠ '\r' := by rcases hq with rfl | rfl <;> decide
  have hslash : '\\' ≠ q := by rcases hq with rfl | rfl <;> decide
  have hescape {c : CodePoint} {e m : Text} (he : Escape (c :: e) m) (hc : c ≠ '\r') :
      string q ('\\' :: c :: (e ++ rest)) = (string q rest).map fun r => (m ++ r.1, r.2) :=
    Literal.string_escape hslash
      (Literal.escape_complete he fun heq => absurd (List.cons.inj heq).1 hc)
  have hcharacter {c : CodePoint} (hu : c ≠ 'u') (hx : c ≠ 'x') (hn : c ≠ '\n') (hr : c ≠ '\r') :
      string q ('\\' :: c :: rest) =
        (string q rest).map fun r => (simpleEscape c :: r.1, r.2) := by
    rw [Literal.simpleEscape_eq]
    exact hescape (.character hu hx hn hr) hr
  cases p with
  | plain c =>
    obtain ⟨hc, hb, hmem⟩ | heq := h
    · exact Literal.string_plain hc hb (fun hn => hmem (hn ▸ List.mem_cons_self)) rest
    · cases heq
      exact Literal.string_plain hreturn.symm (by decide) (by decide) rest
  | escaped c =>
    obtain ⟨hx, hu, -, hmem⟩ | heq := h
    · simp only [lineTerminators, List.mem_cons, not_or] at hmem
      exact hcharacter hu hx hmem.1 hmem.2.1
    · cases heq
  | byte d => exact hescape (.byte d.length_eq d.spells) (by decide)
  | unicode d => exact hescape (.unicode d.length_eq d.spells) (by decide)
  | continued e =>
    cases e with
    | lineFeed => exact hescape .lineFeed (by decide)
    | carriageReturn =>
      exact Literal.string_escape hslash
        (Literal.escape_complete .carriageReturn fun _ => hrest rfl)
    | both =>
      exact Literal.string_escape hslash (Literal.escape_complete .both fun heq => by cases heq)
    | lineSeparator => exact hcharacter (by decide) (by decide) (by decide) (by decide)
    | paragraphSeparator => exact hcharacter (by decide) (by decide) (by decide) (by decide)

/-- The reader gets past all pieces, and reads on as if it began there. -/
theorem string_pieces (hq : q = '\'' ∨ q = '"') (h : ∀ p ∈ ps, p.Passes q) {rest : Text}
    (hrest : ps.getLast? = some (.continued .carriageReturn) → Text.after? "\n" rest = none) :
    string q (spelling ps ++ rest) = (string q rest).map fun r => (reading ps ++ r.1, r.2) := by
  induction ps with
  | nil => cases hs : string q rest <;> simp [spelling, reading, hs, Except.map]
  | cons p ps ih =>
    rw [List.forall_mem_cons] at h
    have hlater : ps.getLast? = some (.continued .carriageReturn) →
        Text.after? "\n" rest = none := by
      intro hlast
      exact hrest (by rw [List.getLast?_cons, hlast]; rfl)
    have hnext : p = .continued .carriageReturn →
        Text.after? "\n" (spelling ps ++ rest) = none := by
      rintro rfl
      cases ps with
      | nil => exact hrest rfl
      | cons p' ps =>
        rw [spelling_cons, List.append_assoc]
        exact (h.2 p' List.mem_cons_self).after?_lineFeed _
    rw [spelling_cons, List.append_assoc, string_piece hq h.1 hnext, ih h.2 hlater]
    cases string q rest <;> simp [Except.map]

theorem HexDigits.number_lt {width : Nat} (d : HexDigits width) : d.number < 16 ^ width := by
  have hlength := congrArg List.length d.spells
  rw [List.length_map, List.length_map, d.length_eq] at hlength
  have hlt : d.number < 16 ^ d.values.length := by
    refine Text.ofDigits_lt fun n hn => ?_
    have hmem : some n ∈ d.text.map Text.hexDigit? := d.spells ▸ List.mem_map_of_mem hn
    obtain ⟨c, -, hc⟩ := List.mem_map.1 hmem
    exact Text.hexDigit?_lt hc
  rwa [← hlength] at hlt

theorem simpleEscape_eq_meaning {c : CodePoint} (h : c ≠ 'v') : simpleEscape c = meaning c := by
  rw [simpleEscape, meaning, if_neg h]
  split_ifs <;> first | rfl | (subst_vars; exact absurd ‹_› (by decide))

theorem HexDigits.number_lt_unit {width : Nat} (d : HexDigits width) (h : width ≤ 4) :
    d.number < 0x10000 :=
  Nat.lt_of_lt_of_le d.number_lt (Nat.pow_le_pow_right (by decide) h)

theorem Piece.value_lt (p : Piece) : ∀ n ∈ p.value, n < 0x10000 := by
  cases p with
  | plain c => exact Utf16.units_lt c
  | escaped c => exact Utf16.units_lt (meaning c)
  | byte d => exact List.forall_mem_singleton.2 (d.number_lt_unit (by decide))
  | unicode d => exact List.forall_mem_singleton.2 (d.number_lt_unit (by decide))
  | continued e => exact nofun

theorem Piece.units_reading_iff (p : Piece) : p.reading.flatMap units = p.value ↔ ¬p.Deviates := by
  cases p with
  | plain c => simp [reading, value, Deviates]
  | escaped c =>
    rw [reading, value, Deviates, List.flatMap_singleton]
    constructor
    · rintro h rfl
      exact absurd h (by decide)
    · intro h
      rw [simpleEscape_eq_meaning h]
  | byte d => simp [reading, value, Deviates, Utf16.units_ofNat (d.number_lt_unit (by decide))]
  | unicode d => simp [reading, value, Deviates, Utf16.units_ofNat (d.number_lt_unit (by decide))]
  | continued e => cases e <;> simp [reading, value, Deviates, Utf16.units_ne_nil]

theorem Piece.length_value_le (p : Piece) : p.value.length ≤ (p.reading.flatMap units).length := by
  by_cases h : p.Deviates
  · cases p with
    | escaped c =>
      obtain rfl : c = 'v' := h
      decide
    | continued e => exact Nat.zero_le _
    | plain | byte | unicode => cases h
  · rw [p.units_reading_iff.2 h]

section FlatMap

variable {α β : Type} {f g : α → List β} {l : List α}

theorem length_flatMap_le (h : ∀ a, (g a).length ≤ (f a).length) :
    (l.flatMap g).length ≤ (l.flatMap f).length := by
  induction l with
  | nil => exact Nat.le_refl 0
  | cons a l ih =>
    rw [List.flatMap_cons, List.flatMap_cons, List.length_append, List.length_append]
    exact Nat.add_le_add (h a) ih

theorem flatMap_eq_iff (h : ∀ a, (g a).length ≤ (f a).length) :
    l.flatMap f = l.flatMap g ↔ ∀ a ∈ l, f a = g a := by
  refine ⟨fun heq => ?_, fun heq => List.flatMap_congr heq⟩
  induction l with
  | nil => exact nofun
  | cons a l ih =>
    rw [List.flatMap_cons, List.flatMap_cons] at heq
    have hlength := congrArg List.length heq
    rw [List.length_append, List.length_append] at hlength
    have hrest : (l.flatMap g).length ≤ (l.flatMap f).length := length_flatMap_le h
    have ha := h a
    obtain ⟨hhead, htail⟩ := List.append_inj heq (by omega)
    exact List.forall_mem_cons.2 ⟨hhead, ih htail⟩

end FlatMap

theorem reading_eq_value_iff :
    reading ps = value ps ↔ Unpaired (reading ps) ∧ ∀ p ∈ ps, ¬p.Deviates := by
  have hlt : ∀ n ∈ ps.flatMap Piece.value, n < 0x10000 := by
    intro n hn
    obtain ⟨p, -, hp⟩ := List.mem_flatMap.1 hn
    exact p.value_lt n hp
  have hunits : (reading ps).flatMap units = ps.flatMap fun p => p.reading.flatMap units :=
    List.flatMap_assoc
  rw [value, Utf16.eq_joinPairs_iff hlt, hunits, flatMap_eq_iff Piece.length_value_le, and_comm]
  simp only [Piece.units_reading_iff]

section Quote

open Literal (items itemsAfter itemsFrom item)

variable {s : Text}

theorem items_quote (hq : q = '\'' ∨ q = '"') : items (q :: s) =
    match string q s with
    | .error e => .error e
    | .ok (t, rest) => itemsAfter (.text t) rest.dropBlank := by
  have hblank : q.isBlank = false := by rcases hq with rfl | rfl <;> decide
  have hb : q ≠ '[' := by rcases hq with rfl | rfl <;> decide
  have hclose : q ≠ ']' := by rcases hq with rfl | rfl <;> decide
  have hdrop : Text.dropBlank (q :: s) = q :: s :=
    Literal.dropBlank_blanks (w := []) nofun (Text.ends_cons.2 hblank)
  rw [Literal.items_eq, hdrop, itemsFrom, if_neg hclose, item, if_neg hb, scalar, if_pos hq]
  cases string q s <;> rfl

theorem parse_quote {t : Text} (hq : q = '\'' ∨ q = '"') (h : string q s = .ok (t, "]")) :
    Literal.parse ('[' :: q :: s) = .ok [.text t] := by
  have hitems : items (q :: s) = .ok ([.text t], []) := by
    rw [items_quote hq, h]
    rfl
  exact Literal.parse_eq_ok_iff_document.2
    (Literal.document_of_items (a := []) (w := []) (.inl rfl) nofun hitems)

theorem parse_quote_error {cause : Cause} {left : Nat} (hq : q = '\'' ∨ q = '"')
    (h : string q s = .error (.defect cause left)) :
    Literal.parse ('[' :: q :: s) = .error (.defect cause (s.length + 2 - left)) := by
  have hitems : items (q :: s) = .error (.defect cause left) := by rw [items_quote hq, h]
  exact Literal.parse_eq_defect_iff.2
    ⟨left, Literal.document_of_items_error (a := []) (w := []) (.inl rfl) nofun hitems, rfl⟩

end Quote

/-- A literal is read up to its closing quote, wherever it stands. It is read as the string that it
stands for exactly if no escape in it is `\v`, no line in it is continued at U+2028 or U+2029 and
no two surrogates that make a pair follow each other in what is read. The reader also takes a
carriage return without a backslash, and keeps it; at a line feed without one it stops. -/
theorem literal_reading {q : CodePoint} {ps : List Piece} (hq : q = '\'' ∨ q = '"')
    (h : ∀ p ∈ ps, p.Passes q) :
    (∀ rest, scalar (literal q ps ++ rest) = .ok (.text (reading ps), rest)) ∧
    Literal.parse ('[' :: (literal q ps ++ "]")) = .ok [.text (reading ps)] ∧
    (WellFormed q ps →
      (reading ps = value ps ↔ Unpaired (reading ps) ∧ ∀ p ∈ ps, ¬p.Deviates)) ∧
    (ps.getLast? ≠ some (.continued .carriageReturn) → ∀ rest,
      Literal.parse ('[' :: q :: (spelling ps ++ ('\n' : CodePoint) :: rest)) =
        .error (.defect .newlineInString ((spelling ps).length + 2))) := by
  have hfeed : '\n' ≠ q := by rcases hq with rfl | rfl <;> decide
  have hread (rest : Text) : string q (spelling ps ++ [q] ++ rest) = .ok (reading ps, rest) := by
    have hclose : string q (q :: rest) = .ok ([], rest) := by rw [string, if_pos rfl]
    have hnext : ps.getLast? = some (.continued .carriageReturn) →
        Text.after? "\n" (q :: rest) = none := fun _ => if_neg hfeed
    rw [List.append_assoc, List.singleton_append, string_pieces hq h hnext, hclose]
    simp [Except.map]
  refine ⟨fun rest => ?_, parse_quote hq (hread _), fun _ => reading_eq_value_iff, ?_⟩
  · rw [literal, List.cons_append, scalar, if_pos hq, hread]
    rfl
  · intro hlast rest
    have hstop : string q (('\n' : CodePoint) :: rest) =
        .error (.defect .newlineInString (rest.length + 1)) := by
      rw [string, if_neg hfeed, if_neg (by decide), if_pos rfl]
    have hpieces : string q (spelling ps ++ ('\n' : CodePoint) :: rest) =
        .error (.defect .newlineInString (rest.length + 1)) := by
      rw [string_pieces hq h fun hr => absurd hr hlast, hstop]
      rfl
    have hoffset : (spelling ps ++ ('\n' : CodePoint) :: rest).length + 2 - (rest.length + 1) =
        (spelling ps).length + 2 := by
      rw [List.length_append, List.length_cons]
      omega
    rw [parse_quote_error hq hpieces, hoffset]

/-- The escapes of the two halves of U+1F600. -/
def smile : List Piece :=
  [.unicode ⟨"d83d", [13, 8, 3, 13], rfl, rfl⟩, .unicode ⟨"de00", [13, 14, 0, 0], rfl, rfl⟩]

/-- A vertical tab, a continued line, the halves of a pair and a bare carriage return, none of which
is read as the language has it; and a line feed, which is refused. -/
theorem literal_reading_samples :
    (Literal.parse "['\\v']" = .ok [.text "v"] ∧ value [.escaped 'v'] ≠ "v") ∧
    (Literal.parse "['\\\u2028']" = .ok [.text [0x2028]] ∧
      value [.continued .lineSeparator] ≠ [0x2028]) ∧
    (Literal.parse "['\\ud83d\\ude00']" = .ok [.text [0xD83D, 0xDE00]] ∧
      value smile ≠ [0xD83D, 0xDE00]) ∧
    Literal.parse "['\r']" = .ok [.text "\r"] ∧
    Literal.parse "['\n']" = .error (.defect .newlineInString 2) := by
  have htab : WellFormed '\'' [.escaped 'v'] :=
    ⟨List.forall_mem_singleton.2 (by rw [Piece.Fits]; decide), List.isChain_singleton _⟩
  have hline : WellFormed '\'' [.continued .lineSeparator] :=
    ⟨List.forall_mem_singleton.2 trivial, List.isChain_singleton _⟩
  have hsmile : WellFormed '\'' smile :=
    ⟨List.forall_mem_cons.2 ⟨trivial, List.forall_mem_singleton.2 trivial⟩,
      List.isChain_cons_cons.2 ⟨nofun, List.isChain_singleton _⟩⟩
  obtain ⟨-, htabRead, htabValue, -⟩ := literal_reading (.inl rfl) htab.passes
  obtain ⟨-, hlineRead, hlineValue, -⟩ := literal_reading (.inl rfl) hline.passes
  obtain ⟨-, hsmileRead, hsmileValue, -⟩ := literal_reading (.inl rfl) hsmile.passes
  obtain ⟨-, hreturn, -, -⟩ :=
    @literal_reading '\'' [.plain '\r'] (.inl rfl) (List.forall_mem_singleton.2 (.inr rfl))
  obtain ⟨-, -, -, hfeed⟩ := @literal_reading '\'' [] (.inl rfl) nofun
  refine ⟨⟨htabRead, fun h => ?_⟩, ⟨hlineRead, fun h => ?_⟩, ⟨hsmileRead, fun h => ?_⟩, hreturn,
    hfeed nofun "']"⟩
  · exact ((htabValue htab).1 h.symm).2 _ List.mem_cons_self rfl
  · exact ((hlineValue hline).1 h.symm).2 _ List.mem_cons_self (.inl rfl)
  · have hpair := List.isChain_cons_cons.1 ((hsmileValue hsmile).1 h.symm).1
    have hhalves : Utf16.Pair 0xD83D 0xDE00 := by
      rw [Utf16.Pair]
      decide
    exact hpair.1 hhalves

end TokenIndex.JavaScript
