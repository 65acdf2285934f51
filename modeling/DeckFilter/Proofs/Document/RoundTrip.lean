import DeckFilter.Proofs.Document.ReadWritten
import DeckFilter.Proofs.Document.WellFormed
import DeckFilter.Proofs.Document.WriteRead

/-!
# Round trips

Decoding undoes encoding for canonical documents, and there are no others to be had from the reader.
Encoding undoes decoding up to the normal form.

* `decoding_undoes_encoding`: from documents, nodes and metadata to JSON and back;
* `encoding_undoes_decoding`: from JSON to a document and back.
-/

namespace DeckFilter

open Json (object array string number)

/-! ## From documents to JSON and back -/

/-- **Decoding undoes encoding.** Whatever is canonical is read back as it was written, and whatever
is read is canonical. -/
theorem decoding_undoes_encoding :
    (∀ d : Document, d.Canonical → Document.ofJson d.toJson = .ok d) ∧
      (∀ x : Block, x.Canonical → blockOfJson x.toJson = .ok x) ∧
      (∀ x : Inline, x.Canonical → inlineOfJson x.toJson = .ok x) ∧
      (∀ v : MetaValue, v.Canonical → metaOfJson v.toJson = .ok v) ∧
      ∀ (v : Json) (d : Document), v.WellFormed → Document.ofJson v = .ok d →
        d.Canonical ∧ Document.ofJson d.toJson = .ok d := by
  refine ⟨fun d => Document.ofJson_toJson, fun x => blockOfJson_toJson,
    fun x => inlineOfJson_toJson, fun v => metaOfJson_toJson, fun v d hv h => ?_⟩
  obtain ⟨-, hcanon⟩ := Document.toJson_of_ofJson hv h
  exact ⟨hcanon, Document.ofJson_toJson hcanon⟩

/-- A table with both captions, a column of a set width, and a cell. -/
def sampleTable : Block :=
  .table Attr.empty ⟨some [.str "Short"], some [.plain [.str "Long"]]⟩
    [⟨.left, .share ⟨false, 1022, 0⟩⟩] ⟨Attr.empty, []⟩
    [⟨Attr.empty, 0, [], [⟨Attr.empty, [⟨Attr.empty, .default, 1, 1, [.para [.space]]⟩]⟩]⟩]
    ⟨Attr.empty, []⟩

/-- A map of an inner map and a list of inlines. -/
def sampleMeta : MetaValue :=
  .map [("author", .map [("mail", .string "a"), ("name", .inlines [.str "A"])]),
    ("title", .inlines [.str "T"])]

/-- A document that has no version to name. It has content for a space, a column whose width is an
integer, and members that are not known. -/
def looseJson : Json :=
  object [("blocks", array [
      tagged "Para" (array [object [("c", .null), ("t", string "Space"), ("x", .null)]]),
      tagged "Table" (array [Attr.empty.toJson, array [.null, array []],
        array [array [bare "AlignLeft", tagged "ColWidth" (number (.integer 1))]],
        array [Attr.empty.toJson, array []], array [], array [Attr.empty.toJson, array []]])]),
    ("extra", .null), ("meta", object [])]

/-- What is read of `looseJson`. -/
def looseDocument : Document where
  apiVersion := [1, 23, 1]
  metadata := []
  blocks := [.para [.space],
    .table Attr.empty ⟨none, some []⟩ [⟨.left, .share ⟨false, 1023, 0⟩⟩] ⟨Attr.empty, []⟩ []
      ⟨Attr.empty, []⟩]

theorem sampleTable_canonical : sampleTable.Canonical := by
  simp [sampleTable, NodeList.canonical_inlines, NodeList.canonical_blocks, Block.canonical_iff,
    Block.lists, Block.WellShaped, Inline.canonical_iff, Inline.lists, Caption.lists,
    TableEnd.lists, TableBody.lists, Row.lists, ColumnWidth.Finite]
  decide

theorem sampleMeta_canonical : sampleMeta.Canonical := by
  have hinlines (word : String) : (MetaValue.inlines [.str word]).Canonical :=
    MetaValue.canonical_inlines.mpr (NodeList.canonical_inlines.mpr
      (List.forall_mem_singleton.mpr (Inline.canonical_iff.mpr fun l hl =>
        absurd hl List.not_mem_nil)))
  have hstring (s : String) : (MetaValue.string s).Canonical :=
    ⟨trivial, fun l hl => absurd hl List.not_mem_nil⟩
  have hauthor : (MetaValue.map
      [("mail", .string "a"), ("name", .inlines [.str "A"])]).Canonical :=
    MetaValue.canonical_map.mpr ⟨Json.ascending_pair _ _ (by decide), by
      simpa using ⟨hstring "a", hinlines "A"⟩⟩
  exact MetaValue.canonical_map.mpr ⟨Json.ascending_pair _ _ (by decide), by
    simpa using ⟨hauthor, hinlines "T"⟩⟩

theorem looseJson_wellFormed : looseJson.WellFormed := by
  have hspace : (object [("c", .null), ("t", string "Space"), ("x", .null)]).WellFormed :=
    Json.wellFormed_object.mpr ⟨Json.ascending_triple _ _ _ (by decide) (by decide), by
      simp [Json.WellFormed]⟩
  have hwidth : (number (.integer 1)).WellFormed := ⟨by decide, by decide⟩
  have hnull : Json.null.WellFormed := trivial
  have hempty : (object []).WellFormed :=
    Json.wellFormed_object.mpr ⟨List.Pairwise.nil, fun m hm => absurd hm List.not_mem_nil⟩
  refine Json.wellFormed_object.mpr ⟨Json.ascending_triple _ _ _ (by decide) (by decide), ?_⟩
  simp [Json.wellFormed_array, wellFormed_tagged, wellFormed_bare, Attr.toJson_wellFormed, hspace,
    hwidth, hnull, hempty]

theorem looseJson_read : Document.ofJson looseJson = .ok looseDocument := rfl

theorem decoding_undoes_encoding_sample :
    Document.ofJson (Document.mk [1, 22] [("m", sampleMeta)] [sampleTable]).toJson =
        .ok (Document.mk [1, 22] [("m", sampleMeta)] [sampleTable]) ∧
      blockOfJson sampleTable.toJson = .ok sampleTable ∧
      inlineOfJson (Inline.note [sampleTable]).toJson = .ok (.note [sampleTable]) ∧
      metaOfJson sampleMeta.toJson = .ok sampleMeta ∧
      Document.ofJson looseDocument.toJson = .ok looseDocument := by
  have hblocks : (NodeList.blocks [sampleTable]).Canonical :=
    NodeList.canonical_blocks.mpr (List.forall_mem_singleton.mpr sampleTable_canonical)
  have hmeta : (MetaValue.map [("m", sampleMeta)]).Canonical :=
    MetaValue.canonical_map.mpr ⟨List.pairwise_singleton _ _,
      List.forall_mem_singleton.mpr sampleMeta_canonical⟩
  obtain ⟨hdocument, hblock, hinline, hvalue, hread⟩ := decoding_undoes_encoding
  exact ⟨hdocument _ (Document.canonical_iff.mpr ⟨hmeta, hblocks⟩),
    hblock _ sampleTable_canonical,
    hinline _ (Inline.canonical_iff.mpr (List.forall_mem_singleton.mpr hblocks)),
    hvalue _ sampleMeta_canonical, (hread _ _ looseJson_wellFormed looseJson_read).2⟩

/-! ## From JSON to documents and back -/

/-- **Encoding undoes decoding up to the normal form**: the members that are not known, the content
of tags that go without, a missing version, missing metadata and integer widths are all that
changes. A document that has none of these, and only such a document, is written as it was read. -/
theorem encoding_undoes_decoding {v : Json} {d : Document} (hv : v.WellFormed)
    (h : Document.ofJson v = .ok d) :
    d.toJson = v.normalDocument ∧ (d.toJson = v ↔ v.NormalDocument) := by
  obtain ⟨hwrite, -⟩ := Document.toJson_of_ofJson hv h
  refine ⟨hwrite, ?_⟩
  rw [hwrite]
  exact Json.normalDocument_eq_iff

theorem encoding_undoes_decoding_loose :
    looseDocument.toJson = looseJson.normalDocument ∧ looseDocument.toJson ≠ looseJson := by
  obtain ⟨hwrite, hiff⟩ := encoding_undoes_decoding looseJson_wellFormed looseJson_read
  refine ⟨hwrite, fun h => ?_⟩
  have hnormal := hiff.mp h
  simp [looseJson, Json.NormalDocument, Json.find?] at hnormal

end DeckFilter
