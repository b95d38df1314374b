import TokenIndex.Proofs.Load.Basic
import TokenIndex.Proofs.Writer.File

namespace TokenIndex.Writer

def Topic.row (topic : Topic) : Row := (topic.token, topic.entries)

theorem Link.reads (label : Text) (link : Link) :
    Shape.Reads label link.raw (link.entry label) :=
  .mk [] link.located (.int link.flag) (Reference.resolve_escape link.scope)

theorem Topic.readsItem (topic : Topic) : Shape.ReadsItem topic.raw topic.row := by
  have hraws : topic.links.map Link.raw ≠ [] := by
    rw [Ne, List.map_eq_nil_iff]
    exact topic.linked
  have hentries : List.Forall₂ (Shape.Reads topic.label) (topic.links.map Link.raw)
      topic.entries :=
    forall₂_map fun link _ => link.reads topic.label
  exact .mk topic.named (Reference.escape_ne_nil topic.labelled) hraws
    (Reference.resolve_escape topic.label) hentries

theorem Index.accepted (index : Index) :
    Shape.Accepted (index.topics.map Topic.raw) (index.topics.map Topic.row) where
  reads := forall₂_map fun topic _ => topic.readsItem
  distinct := by
    rw [List.map_map]
    exact index.distinct

theorem exists_loadText_render (source : Text) (layout : Layout) (index : Index) :
    ∃ t, loadText source (render layout index) = .ok t ∧
      t.rows.Perm (index.topics.map Topic.row) := by
  have hloads := Load.loads_loadItems source (index.topics.map Topic.raw)
  obtain ⟨t, ht⟩ := hloads.exists_ok_iff.2 ⟨_, index.accepted⟩
  rw [ht] at hloads
  obtain ⟨rows, hrows, hperm⟩ := hloads
  refine ⟨t, ?_, hrows.unique index.accepted ▸ hperm⟩
  rw [loadText, Load.parse, parse_render]
  exact ht

theorem exists_loadFile_render (layout : Layout) {index : Index}
    (h : ∀ s ∈ index.strings, s.hasSurrogate = false) {bytes : Bytes}
    (hbytes : Utf8.encode (render layout index) = .ok bytes) {fs : Files} {p : Path}
    (hfile : Files.status fs p = .ok (some (.file bytes))) :
    ∃ t, loadFile fs p = .ok t ∧ t.rows.Perm (index.topics.map Topic.row) := by
  obtain ⟨bytes', hbytes', hread⟩ := exists_bytes_render layout h
  cases hbytes.symm.trans hbytes'
  -- the file comes back in another layout, which the rows do not depend on
  obtain ⟨t, ht, hperm⟩ := exists_loadText_render p.toText layout.normalized index
  refine ⟨t, ?_, hperm⟩
  rw [loadFile, hfile]
  dsimp only
  rw [hread fs p hfile]
  exact ht

/-- Writing an index and loading it gives a table of exactly its tokens, and every token leads to
its entries in their order, with the texts that were there before they were escaped and quoted.
Any white space may stand between the lexical elements. -/
theorem load_render_eq_index (source : Text) (layout : Layout) (index : Index) :
    ∃ t, loadText source (render layout index) = .ok t ∧
      t.tokens.Perm (index.topics.map Topic.token) ∧
      (∀ topic ∈ index.topics, t.lookup topic.token = topic.entries) ∧
      ((∀ s ∈ index.strings, s.hasSurrogate = false) →
        ∃ bytes, Utf8.encode (render layout index) = .ok bytes ∧
          ∀ fs p, Files.status fs p = .ok (some (.file bytes)) →
            ∃ u, loadFile fs p = .ok u ∧ (u == t) = true) := by
  obtain ⟨t, ht, hperm⟩ := exists_loadText_render source layout index
  refine ⟨t, ht, ?_, ?_, ?_⟩
  · have htokens := Table.tokens_perm hperm
    rwa [List.map_map] at htokens
  · intro topic htopic
    have hrow : topic.row ∈ t.rows := hperm.mem_iff.2 (List.mem_map_of_mem htopic)
    exact Table.lookup_of_mem hrow
  · intro hs
    obtain ⟨bytes, hbytes, -⟩ := exists_bytes_render layout hs
    refine ⟨bytes, hbytes, ?_⟩
    intro fs p hfile
    obtain ⟨u, hu, hperm'⟩ := exists_loadFile_render layout hs hbytes hfile
    exact ⟨u, hu, Table.beq_of_perm (hperm'.trans hperm.symm)⟩

/-- A topic with texts that look like references and escapes themselves. -/
def sampleTopic (token : Text) (named : token ≠ []) : Topic where
  token := token
  label := "a&lt;\\"
  links := [⟨"x.html#'", -1, "<B>", by decide, by decide⟩]
  named := named
  labelled := by decide
  linked := by decide

def sample (token : Text) (named : token ≠ []) : Index :=
  ⟨[sampleTopic token named], List.nodup_singleton token⟩

/-- One space in every gap. -/
def Layout.spaced : Layout where
  gap _ := " "
  blank _ := List.all_eq_true.1 (by decide : (Text.ofString " ").all CodePoint.isBlank = true)
  apart := by decide

/-- The bytes of the sample. -/
def sampleBytes : Bytes :=
  (render .spaced (sample "a" (by decide))).flatMap Utf8.encodeOne

theorem exists_load_sample {fs : Files} {name : Text} (category : Text)
    (hname : Source.isData name = false)
    (hfile : fs.status (.ofText name) = .ok (some (.file sampleBytes))) :
    ∃ t, load fs (.text name) category = .ok t ∧
      t.rows = [(sampleTopic "a" (by decide)).row] := by
  have hbytes : Utf8.encode (render .spaced (sample "a" (by decide))) = .ok sampleBytes :=
    Utf8.encode_eq_ok (by decide)
  obtain ⟨t, ht, hperm⟩ := exists_loadFile_render .spaced (by decide) hbytes hfile
  refine ⟨t, ?_, List.perm_singleton.1 hperm⟩
  rw [load, hname, if_neg Bool.false_ne_true, loadPath, hfile]
  exact ht

theorem load_render_eq_sample :
    ∃ t, loadText "<string>" (render .spaced (sample "a" (by decide))) = .ok t ∧
      t.lookup "a" = [⟨"a&lt;\\", "x.html#'", "<B>", true⟩] ∧
      ∃ bytes u, Utf8.encode (render .spaced (sample "a" (by decide))) = .ok bytes ∧
        loadFile ⟨[], [([("f" : Text)], .file bytes)]⟩ (.ofText "/f") = .ok u ∧
        (u == t) = true := by
  obtain ⟨t, ht, -, hlookup, hfile⟩ :=
    load_render_eq_index "<string>" .spaced (sample "a" (by decide))
  obtain ⟨bytes, hbytes, hload⟩ := hfile (by decide)
  obtain ⟨u, hu, heq⟩ := hload ⟨[], [([("f" : Text)], .file bytes)]⟩ (.ofText "/f") rfl
  exact ⟨t, ht, hlookup _ List.mem_cons_self, bytes, u, hbytes, hu, heq⟩

end TokenIndex.Writer
