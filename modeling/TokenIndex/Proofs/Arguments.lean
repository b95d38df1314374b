import TokenIndex.Command.Arguments
import TokenIndex.Proofs.Text.Decimal

namespace TokenIndex

/-- A property of arguments that no switch breaks. -/
structure Kept (P : Arguments → Prop) : Prop where
  default : P .default
  set : ∀ {a b : Arguments} {s : Switch} {value : Given Text}, P a → a.set s value = .ok b → P b

namespace Kept

variable {P : Arguments → Prop}

theorem setAll (h : Kept P) {a b : Arguments} {settings : List (Switch × Given Text)} (ha : P a)
    (hb : a.setAll settings = .ok b) : P b := by
  induction settings generalizing a with
  | nil =>
    cases hb
    exact ha
  | cons setting settings ih =>
    obtain ⟨s, value⟩ := setting
    rw [Arguments.setAll] at hb
    cases hs : a.set s value with
    | error e =>
      rw [hs] at hb
      cases hb
    | ok c =>
      rw [hs] at hb
      exact ih (h.set ha hs) hb

theorem progress (h : Kept P) {p q : Progress} {settings : List (Switch × Given Text)}
    (hp : P p.arguments) (hq : p.setAll settings = .ok q) : P q.arguments := by
  obtain ⟨a, ha, rfl⟩ := map_eq_ok_iff.1 hq
  exact h.setAll hp ha

theorem readWords (h : Kept P) {g : Grammar} {p q : Progress} {words : List Word}
    (hp : P p.arguments) (hq : g.readWords p words = .ok q) : P q.arguments := by
  fun_induction Grammar.readWords g p words with
  -- the words end here
  | case1 | case3 | case7 | case9 | case10 =>
    cases hq
    exact hp
  | case11 | case12 | case14 | case16 => cases hq
  -- a word that is no switch leaves the arguments as they are
  | case2 _ _ _ _ ih | case4 _ _ _ _ _ _ _ ih | case5 _ _ _ _ _ _ _ ih
  | case6 _ _ _ _ _ _ ih | case8 _ _ _ _ _ _ _ ih => exact ih hp hq
  | case13 _ _ _ _ _ _ _ _ _ _ _ hset ih => exact ih (h.progress hp hset) hq
  | case15 _ _ _ _ _ _ _ _ _ _ _ _ _ hset ih => exact ih (h.progress hp hset) hq

theorem read (h : Kept P) {g : Grammar} {texts : List Text} {p : Progress}
    (hp : g.read texts = .ok p) : P p.arguments := by
  rw [Grammar.read] at hp
  split at hp
  · cases hp
  · rename_i words _
    split at hp
    · cases hp
    · rename_i q hq
      have hkept : P q.arguments := h.readWords h.default hq
      split at hp
      · cases hp
      · cases hp
        exact hkept

theorem finish_eq_ok {extras : List Text} {task done : Task}
    (h : Task.finish extras task = .ok done) : task = done := by
  rw [Task.finish] at h
  split at h
  · exact Except.ok.inj h
  · cases h

theorem ofCommand (h : Kept P)
    (hverbose : ∀ {a : Arguments} (b : Bool), P a → P { a with verbose := b })
    {outer : Progress} {c d : Command} {texts : List Text} {operand : Text} {a : Arguments}
    (ha : Task.ofCommand outer c texts = .ok (.run d operand a)) : P a := by
  rw [Task.ofCommand] at ha
  split at ha
  · cases ha
  · rename_i p hp
    have hread : (Grammar.ofCommand c).read texts = .ok p := by
      rw [Task.halt] at hp
      cases hr : (Grammar.ofCommand c).read texts with
      | error e =>
        rw [hr] at hp
        cases hp
      | ok q =>
        rw [hr] at hp
        exact congrArg _ (Except.ok.inj hp)
    cases finish_eq_ok ha
    exact hverbose _ (h.read hread)

/-- Of a property that does not depend on whether the program is to be verbose. -/
theorem ofTexts (h : Kept P)
    (hverbose : ∀ {a : Arguments} (b : Bool), P a → P { a with verbose := b })
    {texts : List Text} {c : Command} {operand : Text} {a : Arguments}
    (ha : Task.ofTexts texts = .ok (.run c operand a)) : P a := by
  rw [Task.ofTexts] at ha
  split at ha
  · cases ha
  · split at ha
    · cases finish_eq_ok ha
    · cases finish_eq_ok ha
    · split at ha
      · cases ha
      · exact h.ofCommand hverbose ha

end Kept

theorem natAbs_lt_of_integer {s : Switch} {value : Given Text} {n : Int}
    (h : Arguments.integer s value = .ok (.value n)) : n.natAbs < 10 ^ TooManyDigits.limit := by
  unfold Arguments.integer at h
  split at h
  · cases h
  · split at h
    · rename_i i hi
      cases h
      exact Text.natAbs_lt_of_toInt? hi
    · cases h

theorem kept_limit : Kept fun a => ∀ n, a.limit = some (.value n) →
    n.natAbs < 10 ^ TooManyDigits.limit where
  default := nofun
  set := by
    intro a b s value ha hb
    cases s with
    | limit =>
      obtain ⟨i, hi, rfl⟩ := map_eq_ok_iff.1 hb
      intro n hn
      cases hn
      exact natAbs_lt_of_integer hi
    | portNumber =>
      obtain ⟨i, hi, rfl⟩ := map_eq_ok_iff.1 hb
      exact ha
    | help => cases hb
    | _ =>
      cases hb
      exact ha

theorem natAbs_limit_lt {texts : List Text} {c : Command} {operand : Text} {a : Arguments} {n : Int}
    (h : Task.ofTexts texts = .ok (.run c operand a)) (hn : a.limit = some (.value n)) :
    n.natAbs < 10 ^ TooManyDigits.limit :=
  kept_limit.ofTexts (fun _ ha => ha) h n hn

end TokenIndex
