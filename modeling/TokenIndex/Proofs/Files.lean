import TokenIndex.Files
import TokenIndex.Proofs.Basic
import Mathlib.Data.List.Basic
import Mathlib.Order.Fin.Basic
import Mathlib.Tactic.SplitIfs

namespace TokenIndex.Files

variable {fs fs' fs'' : Files} {places : List Place} {place next target : Place} {part : Text}
  {parts : List Text}

/-- Whether a place is neither one of some places nor below one. -/
def beside (places : List Place) (place : Place) : Bool := !places.any (·.isPrefixOf place)

theorem beside_iff : beside places place = true ↔ ∀ p ∈ places, ¬p <+: place := by
  simp [beside]

theorem beside_above {upper : Place} (h : upper <+: place) (hb : beside places place = true) :
    beside places upper = true :=
  beside_iff.2 fun p hp hpu => beside_iff.1 hb p hp (hpu.trans h)

/-- No node differs but at some places and below them. -/
structure SameBeside (places : List Place) (fs fs' : Files) : Prop where
  here : fs'.here = fs.here
  nodes : (fs'.nodes.filter fun e => beside places e.1) =
    fs.nodes.filter fun e => beside places e.1

theorem lookup_filter {p : Place → Bool} (hp : p place = true) (nodes : List (Place × Node)) :
    (nodes.filter fun e => p e.1).lookup place = nodes.lookup place := by
  induction nodes with
  | nil => rfl
  | cons e nodes ih =>
    cases hpe : p e.1
    · have hne : place ≠ e.1 := by
        rintro rfl
        rw [hp] at hpe
        cases hpe
      rw [List.filter_cons, if_neg (by simp [hpe]), ih, List.lookup_cons, beq_false_of_ne hne]
    · rw [List.filter_cons, if_pos hpe, List.lookup_cons, List.lookup_cons, ih]

theorem SameBeside.node? (h : SameBeside places fs fs') (hb : beside places place = true) :
    fs'.node? place = fs.node? place := by
  rw [Files.node?, Files.node?, h.here, ← lookup_filter hb, h.nodes, lookup_filter hb]

theorem SameBeside.start (h : SameBeside places fs fs') (p : Path) : fs'.start p = fs.start p := by
  rw [Files.start, Files.start, h.here]

theorem SameBeside.placeOf (h : SameBeside places fs fs') (p : Path) :
    fs'.placeOf p = fs.placeOf p := by
  rw [Files.placeOf, Files.placeOf, h.start]

/-- Where a part of a path leads. -/
def descend (place : Place) (part : Text) : Place :=
  if part = ".." then place.dropLast else place ++ [part]

theorem placeOf_eq (fs : Files) (p : Path) :
    fs.placeOf p = p.parts.foldl descend (fs.start p) := rfl

theorem descend_of_step (h : fs.step place part = .ok next) : next = descend place part := by
  rw [step] at h
  split at h
  · rw [descend]
    split_ifs at h ⊢ <;> cases h <;> rfl
  · cases h

theorem directory_of_step (h : fs.step place part = .ok next) :
    fs.node? place = some .directory := by
  rw [step] at h
  split at h
  · assumption
  · cases h

theorem walk_cons_eq_ok_iff : fs.walk place (part :: parts) = .ok target ↔
    ∃ next, fs.step place part = .ok next ∧ fs.walk next parts = .ok target := by
  rw [walk]
  cases fs.step place part <;> simp

theorem eq_foldl_of_walk (h : fs.walk place parts = .ok target) :
    target = parts.foldl descend place := by
  induction parts generalizing place with
  | nil =>
    cases h
    rfl
  | cons part parts ih =>
    obtain ⟨next, hstep, hwalk⟩ := walk_cons_eq_ok_iff.1 h
    rw [ih hwalk, descend_of_step hstep, List.foldl_cons]

theorem walk_append_of_ok (h : fs.walk place parts = .ok target) (more : List Text) :
    fs.walk place (parts ++ more) = fs.walk target more := by
  induction parts generalizing place with
  | nil =>
    cases h
    rfl
  | cons part parts ih =>
    obtain ⟨next, hstep, hwalk⟩ := walk_cons_eq_ok_iff.1 h
    rw [List.cons_append, walk, hstep]
    exact ih hwalk

theorem walk_singleton (fs : Files) (place : Place) (part : Text) :
    fs.walk place [part] = fs.step place part := by
  rw [walk]
  cases fs.step place part <;> rfl

section Directory

variable {dir : Path} {name : Text}

theorem walk_of_status (h : fs.status dir = .ok (some .directory)) :
    fs.walk (fs.start dir) dir.parts = .ok (fs.placeOf dir) ∧
      fs.resolve dir = .ok (fs.placeOf dir) ∧ fs.node? (fs.placeOf dir) = some .directory := by
  rw [status] at h
  cases hresolve : fs.resolve dir with
  | error e => rw [hresolve] at h; cases e <;> cases h
  | ok place =>
    rw [hresolve] at h
    have hwalk : fs.walk (fs.start dir) dir.parts = .ok place := by
      rw [resolve] at hresolve
      split at hresolve
      · cases hresolve
      · split_ifs at hresolve
        exact hresolve
    obtain rfl : place = fs.placeOf dir := eq_foldl_of_walk hwalk
    exact ⟨hwalk, rfl, Except.ok.inj h⟩

theorem placeOf_child (fs : Files) (dir : Path) {name : Text} (h : name ≠ "..") :
    fs.placeOf (dir.child name) = fs.placeOf dir ++ [name] := by
  rw [placeOf_eq, Path.child, List.foldl_append]
  exact if_neg h

theorem resolve_child (h : fs.status dir = .ok (some .directory)) (name : Text) :
    fs.resolve (dir.child name) =
      match Path.byteLength? (dir.child name).toText with
      | none => .error .missing
      | some n =>
        if longestPath < n then .error .nameTooLong else fs.step (fs.placeOf dir) name := by
  obtain ⟨hwalk, -, -⟩ := walk_of_status h
  have hchild : fs.walk (fs.start (dir.child name)) (dir.child name).parts =
      fs.step (fs.placeOf dir) name := by
    rw [← walk_singleton]
    exact walk_append_of_ok hwalk [name]
  rw [resolve]
  cases Path.byteLength? (dir.child name).toText with
  | none => rfl
  | some n =>
    dsimp only
    split_ifs
    · rfl
    · exact hchild

/-- A child is found again, unless it is at or below one of the places that differ. -/
theorem SameBeside.status_child (h : SameBeside places fs fs')
    (hdir : fs.status dir = .ok (some .directory)) (hdir' : fs'.status dir = .ok (some .directory))
    (hb : beside places (fs.placeOf dir ++ [name]) = true) :
    fs'.status (dir.child name) = fs.status (dir.child name) := by
  obtain ⟨-, -, hnode⟩ := walk_of_status hdir
  obtain ⟨-, -, hnode'⟩ := walk_of_status hdir'
  rw [h.placeOf] at hnode'
  have hchild := h.node? hb
  have hup : fs'.node? (fs.placeOf dir).dropLast = fs.node? (fs.placeOf dir).dropLast :=
    h.node? (beside_above ((List.dropLast_prefix _).trans (List.prefix_append _ _)) hb)
  have hstep : fs'.step (fs.placeOf dir) name = fs.step (fs.placeOf dir) name := by
    rw [step, step, hnode, hnode', hchild]
  have hresolve : fs'.resolve (dir.child name) = fs.resolve (dir.child name) := by
    rw [resolve_child hdir', resolve_child hdir, h.placeOf, hstep]
  rw [status, status, hresolve]
  cases hok : fs.resolve (dir.child name) with
  | error e => cases e <;> rfl
  | ok place =>
    have hplace : place = descend (fs.placeOf dir) name := by
      rw [resolve_child hdir] at hok
      split at hok
      · cases hok
      · split_ifs at hok
        exact descend_of_step hok
    dsimp only
    rw [hplace, descend]
    split_ifs
    · rw [hup]
    · rw [hchild]

theorem beside_child_iff {names : List Text} :
    beside (names.map (place ++ [·])) (place ++ [name]) = true ↔ name ∉ names := by
  have hchild (n : Text) : place ++ [n] <+: place ++ [name] ↔ n = name := by
    rw [List.prefix_append_right_inj, List.cons_prefix_cons]
    exact and_iff_left List.nil_prefix
  rw [beside_iff, List.forall_mem_map]
  simp only [hchild]
  constructor
  · exact fun h hmem => h name hmem rfl
  · rintro h n hn rfl
    exact h hn

theorem listing_filter (h : fs.status dir = .ok (some .directory)) (names : List Text) :
    (fs.listing dir).filter (· ∉ names) =
      ((fs.nodes.filter fun e => beside (names.map (fs.placeOf dir ++ [·])) e.1).filter
        fun e => e.1.dropLast = fs.placeOf dir).filterMap fun e => e.1.getLast? := by
  obtain ⟨-, hresolve, -⟩ := walk_of_status h
  rw [listing, hresolve]
  dsimp only
  generalize fs.placeOf dir = place
  have hlast (p : Place) (hp : p.dropLast = place) : p.getLast?.filter (· ∉ names) =
      if beside (names.map (place ++ [·])) p then p.getLast? else none := by
    obtain rfl | ⟨init, name, rfl⟩ := List.eq_nil_or_concat p
    · simp
    · obtain rfl : init = place := by simpa using hp
      simp [beside_child_iff, Option.filter]
  rw [List.filter_filterMap, List.filterMap_filter, List.filterMap_filter, List.filterMap_filter]
  refine List.filterMap_congr ?_
  intro e _
  by_cases he : e.1.dropLast = place
  · simpa [he] using hlast e.1 he
  · simp [he]

theorem SameBeside.listing {names : List Text}
    (h : SameBeside (names.map (fs.placeOf dir ++ [·])) fs fs')
    (hdir : fs.status dir = .ok (some .directory))
    (hdir' : fs'.status dir = .ok (some .directory)) :
    (fs'.listing dir).filter (· ∉ names) = (fs.listing dir).filter (· ∉ names) := by
  rw [listing_filter hdir', listing_filter hdir, h.placeOf, h.nodes]

end Directory

section NoDirectory

variable (h : SameBeside places fs fs') (hplaces : ∀ p ∈ places, fs.node? p ≠ some .directory)

theorem directory_of_walk (hwalk : fs.walk place parts = .ok target)
    (htarget : fs.node? target = some .directory) : fs.node? place = some .directory := by
  cases parts with
  | nil =>
    cases hwalk
    exact htarget
  | cons part parts =>
    obtain ⟨next, hstep, -⟩ := walk_cons_eq_ok_iff.1 hwalk
    exact directory_of_step hstep

include hplaces in
theorem beside_descend (hb : beside places place = true)
    (hnext : fs.node? (descend place part) = some .directory) :
    beside places (descend place part) = true := by
  rw [descend] at hnext ⊢
  split_ifs at hnext ⊢
  · exact beside_above (List.dropLast_prefix place) hb
  · refine beside_iff.2 fun p hp hfront => ?_
    obtain rfl | hfront := List.prefix_concat_iff.1 hfront
    · exact hplaces _ hp hnext
    · exact beside_iff.1 hb p hp hfront

include hplaces in
theorem beside_start (p : Path) : beside places (fs.start p) = true := by
  have hhere {upper : Place} (hupper : upper <+: fs.here) : beside places upper = true := by
    refine beside_iff.2 fun p hp hfront => hplaces p hp ?_
    rw [Files.node?, if_pos (List.isPrefixOf_iff_prefix.2 (hfront.trans hupper))]
  rw [start]
  split_ifs
  · exact hhere List.prefix_rfl
  · exact hhere List.nil_prefix

include h hplaces

theorem SameBeside.walk (hb : beside places place = true) (hwalk : fs.walk place parts = .ok target)
    (htarget : fs.node? target = some .directory) :
    fs'.walk place parts = .ok target ∧ beside places target = true := by
  induction parts generalizing place with
  | nil =>
    cases hwalk
    exact ⟨rfl, hb⟩
  | cons part parts ih =>
    obtain ⟨next, hstep, hrest⟩ := walk_cons_eq_ok_iff.1 hwalk
    have hnext : beside places (descend place part) = true := by
      refine beside_descend hplaces hb ?_
      rw [← descend_of_step hstep]
      exact directory_of_walk hrest htarget
    have hsame : fs'.step place part = fs.step place part := by
      rw [descend] at hnext
      rw [step, step, h.node? hb]
      split_ifs at hnext with hup
      · simp only [if_pos hup]
      · simp only [if_neg hup, h.node? hnext]
    rw [← descend_of_step hstep] at hnext
    obtain ⟨hwalk', htarget'⟩ := ih hnext hrest
    exact ⟨walk_cons_eq_ok_iff.2 ⟨next, hsame.trans hstep, hwalk'⟩, htarget'⟩

theorem SameBeside.status_directory {dir : Path} (hdir : fs.status dir = .ok (some .directory)) :
    fs'.status dir = .ok (some .directory) := by
  obtain ⟨hwalk, hresolve, hnode⟩ := walk_of_status hdir
  obtain ⟨hwalk', hb⟩ := h.walk hplaces (beside_start hplaces dir) hwalk hnode
  have hresolve' : fs'.resolve dir = .ok (fs.placeOf dir) := by
    rw [resolve] at hresolve ⊢
    rw [h.start, hwalk']
    rwa [hwalk] at hresolve
  rw [status, hresolve']
  dsimp only
  rw [h.node? hb, hnode]

end NoDirectory

theorem foldl_remove (paths : List Path) (fs : Files) : paths.foldl remove fs =
    { fs with nodes := fs.nodes.filter fun e => beside (paths.map fs.placeOf) e.1 } := by
  induction paths generalizing fs with
  | nil => simp [beside]
  | cons p paths ih =>
    have hplaceOf : (fs.remove p).placeOf = fs.placeOf := rfl
    rw [List.foldl_cons, ih, hplaceOf, remove]
    simp [beside, List.filter_filter, Bool.and_comm]

theorem sameBeside_foldl_remove (paths : List Path) (fs : Files) :
    SameBeside (paths.map fs.placeOf) fs (paths.foldl remove fs) := by
  rw [foldl_remove]
  exact ⟨rfl, by simp [List.filter_filter]⟩

theorem listing_foldl_remove {dir : Path} {names : List Text} {paths : List Path}
    (hpaths : paths.map fs.placeOf = names.map (fs.placeOf dir ++ [·]))
    (hdir : fs.status dir = .ok (some .directory))
    (hdir' : (paths.foldl remove fs).status dir = .ok (some .directory)) :
    (paths.foldl remove fs).listing dir = (fs.listing dir).filter (· ∉ names) := by
  obtain ⟨-, hresolve, -⟩ := walk_of_status hdir'
  rw [listing_filter hdir, listing, hresolve, (sameBeside_foldl_remove paths fs).placeOf,
    foldl_remove, hpaths]

end TokenIndex.Files
