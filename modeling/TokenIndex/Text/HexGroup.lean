import TokenIndex.Text.Utf8

namespace TokenIndex.Text

/-- The byte that a group at the start of a text spells, and what follows it. -/
def hexGroup? (mark : CodePoint) (digit? : CodePoint → Option Nat) : Text → Option (Byte × Text)
  | m :: h :: l :: rest =>
    if m = mark then
      match digit? h, digit? l with
      | some high, some low => some (Utf8.byte (high * 16 + low), rest)
      | _, _ => none
    else none
  | _ => none

theorem hexGroup?_length {mark : CodePoint} {digit? : CodePoint → Option Nat} {t rest : Text}
    {b : Byte} (h : hexGroup? mark digit? t = some (b, rest)) : rest.length < t.length := by
  unfold hexGroup? at h
  split at h
  · split at h
    · split at h
      · cases h
        simp only [List.length_cons]
        omega
      · cases h
    · cases h
  · cases h

end TokenIndex.Text
