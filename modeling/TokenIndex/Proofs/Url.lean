import TokenIndex.Settings
import TokenIndex.Url
import TokenIndex.Proofs.Percent

namespace TokenIndex.Url

open Environment (defaultApiUrl)

theorem escape_of_kept {kept : CodePoint → Bool} {t : Text}
    (h : ∀ c ∈ t, c.val < 0x80 ∧ kept c = true) : escape kept t = .ok t := by
  have hplain : t.hasSurrogate = false := Text.hasSurrogate_of_ascii fun c hc => (h c hc).1
  rw [escape, Percent.encodeKeeping_eq_ok kept hplain, Percent.spelled_of_kept h]
  rfl

/-- Characters of a path that stand in it as they are, and of a query. -/
def InPath (t : Text) : Prop := ∀ c ∈ t, c.val < 0x80 ∧ plainInPath c = true

def InQuery (t : Text) : Prop := ∀ c ∈ t, c.val < 0x80 ∧ plainInQuery c = true

theorem inPath_of_all {t : Text}
    (h : (t.all fun c => decide (c.val < 0x80) && plainInPath c) = true) : InPath t := by
  intro c hc
  have hplain := List.all_eq_true.1 h c hc
  rwa [Bool.and_eq_true, decide_eq_true_eq] at hplain

theorem InPath.inQuery {t : Text} (h : InPath t) : InQuery t := by
  intro c hc
  obtain ⟨hascii, hplain⟩ := h c hc
  rw [plainInPath, Bool.and_eq_true] at hplain
  exact ⟨hascii, hplain.1⟩

theorem inQuery_join {ts : List Text} (h : ∀ t ∈ ts, InQuery t) : InQuery (Text.join "&" ts) := by
  induction ts with
  | nil => exact nofun
  | cons t ts ih =>
    rw [List.forall_mem_cons] at h
    cases ts with
    | nil => exact h.1
    | cons u ts =>
      have hsep : InPath "&" := inPath_of_all (by decide)
      exact List.forall_mem_append.2 ⟨List.forall_mem_append.2 ⟨h.1, hsep.inQuery⟩, ih h.2⟩

theorem cut_path {path : Text} (h : InPath path) : cut "?#" path = (path, []) := by
  have hclass : ∀ n : Fin 0x80, plainInPath (.ofNat n.val) = true →
      (!CodePoint.isOneOf (.ofNat n.val) "?#") = true := by decide
  have hrun : ∀ c ∈ path, (!c.isOneOf "?#") = true := by
    intro c hc
    obtain ⟨hascii, hplain⟩ := h c hc
    exact CodePoint.of_ascii (q := fun c => !c.isOneOf "?#") hclass hascii hplain
  have htake := Text.takeWhile_run hrun (Text.ends_nil _)
  have hdrop := Text.dropWhile_run hrun (Text.ends_nil _)
  rw [List.append_nil] at htake hdrop
  rw [cut, htake, hdrop]

theorem find?_isControl {t : Text} (h : InQuery t) : t.find? isControl = none := by
  have hclass : ∀ n : Fin 0x80, plainInQuery (.ofNat n.val) = true →
      (!isControl (.ofNat n.val)) = true := by decide
  rw [List.find?_eq_none]
  intro c hc
  obtain ⟨hascii, hplain⟩ := h c hc
  rw [Bool.not_eq_true, ← Bool.not_eq_true']
  exact CodePoint.of_ascii (q := fun c => !isControl c) hclass hascii hplain

theorem short_of_ofText {t : Text} {query : Option Text} {u : Url} (h : ofText t query = .ok u) :
    t.length ≤ greatestLength ∧ ∀ q ∈ query, q.length ≤ greatestLength := by
  rw [ofText] at h
  split at h
  · cases h
  · rename_i hlength
    split at h
    · cases h
    · split at h
      · cases h
      · rename_i hquery
        refine ⟨Nat.not_lt.1 hlength, ?_⟩
        rintro q hq
        rw [hq, Option.any_some, decide_eq_true_eq] at hquery
        exact Nat.not_lt.1 hquery

section Local

variable {path : Text}

theorem parts_local (h : InPath ("/api" ++ path)) :
    Parts.ofText (defaultApiUrl ++ path) =
      ⟨"http", "localhost:8000", "/api" ++ path, none, none⟩ := by
  have hscheme : splitScheme (defaultApiUrl ++ path) =
      (Text.ofString "http", "//localhost:8000/api" ++ path) := rfl
  have hslashes : Text.after? "//" ("//localhost:8000/api" ++ path) =
      some ("localhost:8000/api" ++ path) := rfl
  have hsite : cut "/?#" ("localhost:8000/api" ++ path) =
      (Text.ofString "localhost:8000", "/api" ++ path) := rfl
  rw [Parts.ofText, hscheme]
  dsimp only
  rw [hslashes]
  dsimp only
  rw [hsite]
  dsimp only
  rw [cut_path h]
  rfl

/-- What a URL below the default address is read as, `plain` being its path without dot parts. -/
theorem ofText_local {plain : Text} (query : Option Text) (hpath : InPath ("/api" ++ path))
    (hplain : InPath plain)
    (hdots : Text.join "/" (dropDots (Text.splitOn '/' ("/api" ++ path))) = plain)
    (hlength : (defaultApiUrl ++ path).length ≤ greatestLength)
    (hquery : ∀ q ∈ query, q.length ≤ greatestLength ∧ InQuery q) :
    ofText (defaultApiUrl ++ path) query =
      .ok ⟨"http", [], "localhost", some 8000, plain, query, none⟩ := by
  have hcontrol : (defaultApiUrl ++ path).find? isControl = none := by
    have hlead : InPath "http://localhost:8000" := inPath_of_all (by decide)
    have hurl : defaultApiUrl = Text.ofString "http://localhost:8000" ++ Text.ofString "/api" := by
      decide
    rw [hurl, List.append_assoc]
    exact find?_isControl (List.forall_mem_append.2 ⟨hlead.inQuery, hpath.inQuery⟩)
  have hshort : (query.any fun q => decide (greatestLength < q.length)) = false := by
    cases query with
    | none => rfl
    | some q => exact decide_eq_false (Nat.not_lt.2 (hquery q rfl).1)
  have hhost : Host.encode "localhost" = .ok ("localhost" : Text) := rfl
  have hport : portOf "http" "8000" = .ok (some 8000) := by
    have hnumber : Text.toInt? "8000" = some 8000 := by decide +kernel
    rw [portOf, if_neg (by decide), hnumber]
    rfl
  have hauthority : splitAuthority "localhost:8000" =
      (([] : Text), ("localhost" : Text), ("8000" : Text)) := rfl
  have huser : escape plainInUser [] = .ok [] := rfl
  have habsolute : (!(List.isEmpty (Text.ofString "http") && List.isEmpty ([] : Text) &&
      List.isEmpty (Text.ofString "localhost") && (some (8000 : Int)).isNone)) = true := rfl
  have hescape : pathOf true ("/api" ++ path) = .ok plain := by
    rw [pathOf, if_pos rfl, hdots, escape_of_kept hplain]
  have hgiven : escapeGiven plainInQuery query = .ok query := by
    cases query with
    | none => rfl
    | some q =>
      rw [escapeGiven, escape_of_kept (hquery q rfl).2]
      rfl
  have hgiven' : (query.orElse fun _ => none) = query := by cases query <;> rfl
  rw [ofText, if_neg (Nat.not_lt.2 hlength), hcontrol]
  dsimp only
  rw [hshort, if_neg Bool.false_ne_true, parts_local hpath, ofParts]
  dsimp only
  rw [hauthority]
  dsimp only
  rw [huser, hhost, hport, hgiven', hgiven]
  simp only [Except.mapError, bind, Except.bind, pure, Except.pure]
  rw [habsolute, hescape]
  rfl

theorem requestable_local (plain : Text) (query : Option Text) :
    requestable ⟨"http", [], "localhost", some 8000, plain, query, none⟩ =
      .ok ⟨"http", [], "localhost", some 8000, plain, query, none⟩ := rfl

end Local

theorem inPath_spelled (t : Text) : InPath (Percent.spelled Percent.isUnreserved t) :=
  Percent.forall_mem_spelled _ (by decide +kernel) t

end TokenIndex.Url
