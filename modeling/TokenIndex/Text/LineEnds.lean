import TokenIndex.Text.Basic

namespace TokenIndex.Text

/-- Every line end, CR LF or CR alone, becomes LF. -/
def normalizeLineEnds : Text → Text
  | [] => []
  | c :: rest =>
    if c = '\r' then
      match rest with
      | d :: more => if d = '\n' then normalizeLineEnds (d :: more)
          else '\n' :: normalizeLineEnds (d :: more)
      | [] => ['\n']
    else c :: normalizeLineEnds rest

end TokenIndex.Text
