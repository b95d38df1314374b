import TokenIndex.Text.Intervals

namespace TokenIndex

namespace CodePoint

/-- White space: the separators of Unicode, the line ends and the four ASCII separators. -/
def blanks : Intervals := [
    (0x9, 0xD), (0x1C, 0x20), (0x85, 0x85), (0xA0, 0xA0), (0x1680, 0x1680), (0x2000, 0x200A),
    (0x2028, 0x2029), (0x202F, 0x202F), (0x205F, 0x205F), (0x3000, 0x3000)]

def isBlank (c : CodePoint) : Bool := blanks.has c

end CodePoint

namespace Text

def dropBlank (t : Text) : Text := t.dropWhile CodePoint.isBlank

theorem dropBlank_length (t : Text) : (dropBlank t).length ≤ t.length :=
  (List.dropWhile_sublist _).length_le

end Text

end TokenIndex
