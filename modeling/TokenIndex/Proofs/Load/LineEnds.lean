import TokenIndex.Proofs.Literal.LineEnds
import TokenIndex.Proofs.Load.Source
import TokenIndex.Proofs.Writer.RoundTrip

namespace TokenIndex

namespace Load

variable {fs : Files} {p : Path} {t : Text}

theorem loadFile_of_encoded {bytes : Bytes} (hbytes : Utf8.encode t = .ok bytes)
    (hfile : fs.status p = .ok (some (.file bytes))) :
    loadFile fs p = loadText p.toText t.normalizeLineEnds := by
  rw [loadFile, hfile]
  dsimp only
  rw [read_of_encoded hbytes hfile]

theorem exists_loadText_of_normalizeLineEnds {u : Table} (name : Text) {name' : Text}
    (h : loadText name' t.normalizeLineEnds = .ok u) :
    ∃ v, loadText name t = .ok v ∧ (v == u) = true := by
  obtain ⟨vs, hparse⟩ := exists_of_loadText h
  have halike : Alike (loadText name t) (loadText name' t.normalizeLineEnds) :=
    (loads_loadText name (Literal.parse_of_normalizeLineEnds hparse)).alike_of_perm
      (loads_loadText name' hparse) (List.Perm.refl vs)
  obtain ⟨v, hv⟩ := halike.1.2 ⟨u, h⟩
  exact ⟨v, hv, halike.2 v u hv h⟩

end Load

/-- Whatever line ends a text has, as search data it means what it means with line feeds instead. So
a text that loads from a file, where line ends are normalised, loads as it is, to an equal table. -/
theorem line_ends_load_alike (t : Text) :
    (∀ vs, Literal.parse t.normalizeLineEnds = .ok vs → Literal.parse t = .ok vs) ∧
    (t.hasSurrogate = false → ∃ bytes, Utf8.encode t = .ok bytes ∧
      ∀ fs p, Files.status fs p = .ok (some (.file bytes)) → ∀ u, loadFile fs p = .ok u →
        ∃ v, loadText Source.textName t = .ok v ∧ (v == u) = true) := by
  refine ⟨fun vs => Literal.parse_of_normalizeLineEnds, fun hs => ?_⟩
  have hbytes := Utf8.encode_eq_ok hs
  refine ⟨_, hbytes, fun fs p hfile u hu => ?_⟩
  rw [Load.loadFile_of_encoded hbytes hfile] at hu
  exact Load.exists_loadText_of_normalizeLineEnds _ hu

def Writer.Layout.lines : Layout where
  gap _ := "\n\r\r\n"
  blank _ := List.all_eq_true.1
    (by decide : (Text.ofString "\n\r\r\n").all CodePoint.isBlank = true)
  apart := by decide

open Writer in
theorem line_ends_load_alike_lines : ∃ bytes u v,
    Utf8.encode (render .lines (sample "a" (by decide))) = .ok bytes ∧
    loadFile ⟨[], [([("f" : Text)], .file bytes)]⟩ (.ofText "/f") = .ok u ∧
    loadText Source.textName (render .lines (sample "a" (by decide))) = .ok v ∧
    (v == u) = true := by
  obtain ⟨-, hload⟩ := line_ends_load_alike (render .lines (sample "a" (by decide)))
  obtain ⟨bytes, hbytes, hload⟩ := hload (hasSurrogate_render .lines (by decide))
  have hfile : Files.status ⟨[], [([("f" : Text)], .file bytes)]⟩ (.ofText "/f") =
      .ok (some (.file bytes)) := rfl
  obtain ⟨u, hu, -⟩ := exists_loadFile_render .lines (by decide) hbytes hfile
  obtain ⟨v, hv, hequal⟩ := hload _ _ hfile u hu
  exact ⟨bytes, u, v, hbytes, hu, hv, hequal⟩

end TokenIndex
