import DeckFilter.Proofs.Document.RoundTrip
import DeckFilter.Proofs.Filter.Edits
import DeckFilter.Proofs.Json.Parsed
import DeckFilter.Proofs.Json.Printed

/-!
# Reading what was filtered

What the filter writes can be read again, and gives the filtered document: reading, filtering and
writing make nothing nest deeper, so the limit of the reader is kept, and filtering keeps documents
canonical.

* `Document.depth_toJson_le`: reading and writing;
* `Setup.filterDocument_depth_le`, `Setup.filterDocument_canonical`: filtering;
* `filtered_text_is_read_again`: texts.
-/

namespace DeckFilter

/-! ## Reading and writing -/

theorem Document.two_le_depth {v : Json} {d : Document} (hv : v.WellFormed)
    (h : Document.ofJson v = .ok d) : 2 ≤ v.depth := by
  obtain ⟨members, b, rfl, -, -, -, hb, hblocks⟩ := Document.ofJson_eq_ok h
  have harray := (blocksOfJson_faithful (hv.find? hb) hblocks).1
  have hnormal := Json.depth_normal_le .value b
  have hdepth : b.depth ≤ Json.depthMembers members :=
    Json.depth_le_depthMembers (Json.mem_of_find? hb)
  rw [← harray, Json.depth] at hnormal
  rw [Json.depth]
  omega

/-- **Reading a document and writing it makes it nest no deeper.** -/
theorem Document.depth_toJson_le {v : Json} {d : Document} (hv : v.WellFormed)
    (h : Document.ofJson v = .ok d) : d.toJson.depth ≤ v.depth := by
  rw [(Document.toJson_of_ofJson hv h).1]
  exact Json.depth_normalDocument_le (Document.two_le_depth hv h)

theorem readDocument_eq_ok {input : Option ByteArray} {d : Document}
    (h : readDocument input = .ok d) :
    ∃ v, input.bind Json.ofBytes? = some v ∧ Document.ofJson v = .ok d := by
  unfold readDocument at h
  split at h
  · rename_i v hv
    exact ⟨v, hv, h⟩
  · cases h

/-! ## Filtering -/

section Walks

variable {σ : Type} {r : Editor σ} {d : Document}

theorem Setup.walkWith_canonical (hr : r.KeepsCanonical) (hd : d.Canonical) (state : σ) :
    (walkWith r d state).1.Canonical := by
  rw [walkWith]
  cases hrun : (d.walk r (reach d.height)).run state with
  | none => exact hd
  | some p => exact (Document.walk_refines hr _ hd hrun).2

theorem Setup.walkWith_depth_le (hr : r.KeepsCanonical) (hr' : r.KeepsDepth) (hd : d.Canonical)
    (state : σ) : (walkWith r d state).1.toJson.depth ≤ d.toJson.depth := by
  rw [walkWith]
  cases hrun : (d.walk r (reach d.height)).run state with
  | none => exact Nat.le_refl _
  | some p => exact Document.walk_depth_le hr hr' _ hd hrun

end Walks

/-- **A filtered document is canonical.** -/
theorem Setup.filterDocument_canonical (s : Setup) (format : String) {d : Document}
    (hd : d.Canonical) : (s.filterDocument format d).1.Canonical :=
  walkWith_canonical s.editor_keepsCanonical hd _

/-- **Filtering makes a document nest no deeper.** -/
theorem Setup.filterDocument_depth_le (s : Setup) (format : String) {d : Document}
    (hd : d.Canonical) : (s.filterDocument format d).1.toJson.depth ≤ d.toJson.depth :=
  walkWith_depth_le s.editor_keepsCanonical s.editor_keepsDepth hd _

/-! ## Texts -/

/-- **A document within the limit is read back from its text**, if its column widths are. -/
theorem readDocument_text {d : Document} (hd : d.Canonical)
    (hdepth : d.toJson.depth ≤ Json.nestingLimit)
    (hdoubles : ∀ x ∈ d.toJson.doubles, (Json.Number.double x).Rereads) :
    readDocument (some d.toJson.text.toUTF8) = .ok d := by
  have hparse := Json.parse?_text d.toJson_wellFormed hdepth hdoubles
  have hbytes : Json.ofBytes? d.toJson.text.toUTF8 = some d.toJson := by
    have hvalid : d.toJson.text.toUTF8.IsValidUTF8 := d.toJson.text.isValidUTF8
    rw [Json.ofBytes?, String.fromUTF8?, dif_pos hvalid]
    exact hparse
  rw [readDocument, Option.bind_some, hbytes]
  exact Document.ofJson_toJson hd

theorem Setup.filterText_eq_ok {s : Setup} {format : String} {input : Option ByteArray}
    {sink : Sink} {text : String} {diagnostics : List Diagnostic}
    (h : s.filterText format input sink = .ok (text, diagnostics)) :
    ∃ d, readDocument input = .ok d ∧ text = (s.filterDocument format d).1.toJson.text := by
  unfold filterText at h
  split at h
  · cases h
  · rename_i d hd
    refine ⟨d, hd, ?_⟩
    cases hput : sink.put (s.filterDocument format d).1.toJson.text with
    | error e => simp [hput, Except.map] at h
    | ok _ =>
      simp only [hput, Except.map, Except.ok.injEq, Prod.mk.injEq] at h
      exact h.1.symm

/-- **What the filter writes can be read again**, if the column widths in it can, each on its own,
and gives the filtered document. Neither filtering nor reading and writing makes it nest deeper than
what was read, so it keeps within the limit, and the filtered document is canonical. -/
theorem filtered_text_is_read_again (s : Setup) (format : String) {input : Option ByteArray}
    {sink : Sink} {text : String} {diagnostics : List Diagnostic}
    (h : s.filterText format input sink = .ok (text, diagnostics)) :
    ∃ (v : Json) (d out : Document), input.bind Json.ofBytes? = some v ∧
      Document.ofJson v = .ok d ∧ (s.filterDocument format d).1 = out ∧ out.Canonical ∧
      out.toJson.depth ≤ d.toJson.depth ∧ d.toJson.depth ≤ v.depth ∧
      v.depth ≤ Json.nestingLimit ∧
      ((∀ x ∈ out.toJson.doubles, (Json.Number.double x).Rereads) →
        readDocument (some text.toUTF8) = .ok out) := by
  obtain ⟨d, hd, rfl⟩ := Setup.filterText_eq_ok h
  obtain ⟨v, hparse, hread⟩ := readDocument_eq_ok hd
  obtain ⟨bytes, -, hbytes⟩ := Option.bind_eq_some_iff.mp hparse
  obtain ⟨hv, hlimit⟩ := Json.ofBytes?_bounded hbytes
  have hcanon := (Document.toJson_of_ofJson hv hread).2
  have hout := s.filterDocument_canonical format hcanon
  have hfiltered := s.filterDocument_depth_le format hcanon
  have hwritten := Document.depth_toJson_le hv hread
  have hdepth := Nat.le_trans hfiltered (Nat.le_trans hwritten hlimit)
  exact ⟨v, d, _, hparse, hread, rfl, hout, hfiltered, hwritten, hlimit,
    readDocument_text hout hdepth⟩

/-- A slide with a role and a table on it. -/
def sampleSlides : Document where
  apiVersion := [1, 22]
  metadata := []
  blocks := [.header 1 Attr.empty [.str "T"],
    .para [.code ⟨"", ["interpreted-text"], [("role", "toolname")]⟩ "GNAT"], sampleTable]

/-- What becomes of `sampleSlides`. -/
def filteredSlides : Document where
  apiVersion := [1, 22]
  metadata := []
  blocks := [.header 1 (.ofClasses ["t", "shrink"]) [.str "T"],
    .para [.styled .smallCaps [.str "GNAT"]], sampleTable]

theorem sampleSlides_canonical : sampleSlides.Canonical := by
  have hmetadata : (MetaValue.map []).Canonical :=
    MetaValue.canonical_map.mpr ⟨List.Pairwise.nil, fun e he => absurd he List.not_mem_nil⟩
  have hheader : (Block.header 1 Attr.empty [.str "T"]).Canonical := by
    simp [Block.canonical_iff, Block.WellShaped, Block.lists, NodeList.canonical_inlines,
      Inline.canonical_iff, Inline.lists]
  have hpara (attr : Attr) (text : String) : (Block.para [.code attr text]).Canonical := by
    simp [Block.canonical_iff, Block.WellShaped, Block.lists, NodeList.canonical_inlines,
      Inline.canonical_iff, Inline.lists]
  refine Document.canonical_iff.mpr ⟨hmetadata, NodeList.canonical_blocks.mpr ?_⟩
  simpa [sampleSlides] using ⟨hheader, hpara _ _, sampleTable_canonical⟩

theorem half_rereads : (Json.Number.double ⟨false, 1022, 0⟩).Rereads := by
  have htext : (Json.Number.double ⟨false, 1022, 0⟩).text = "0.5" := by decide +kernel
  have hscaled : Json.scaleDown (Double.ofNat 5) 1 = ⟨false, 1022, 0⟩ := by
    rw [Json.scaleDown, dif_pos (by decide)]
    decide +kernel
  have hnumber : (Json.Literal.mk false [0] (some [5]) none).number? =
      (some (Json.scaleDown (Double.ofNat 5) 1)).map Json.Number.double := rfl
  rw [hscaled] at hnumber
  exact Json.Number.rereads_iff.mpr ⟨_, [], htext ▸ rfl, hnumber, rfl⟩

theorem filtered_text_is_read_again_slides : ∃ text,
    Setup.plain.filterText "beamer" (some sampleSlides.toJson.text.toUTF8) .unlimited =
        .ok (text, []) ∧
      readDocument (some text.toUTF8) = .ok filteredSlides := by
  have hread : readDocument (some sampleSlides.toJson.text.toUTF8) = .ok sampleSlides :=
    readDocument_text sampleSlides_canonical (by decide)
      (List.forall_mem_singleton.mpr half_rereads)
  have h : Setup.plain.filterText "beamer" (some sampleSlides.toJson.text.toUTF8) .unlimited =
      .ok (filteredSlides.toJson.text, []) := by
    rw [Setup.filterText, hread]
    rfl
  obtain ⟨v, d, out, hparse, hd, hout, -, -, -, -, hagain⟩ :=
    filtered_text_is_read_again Setup.plain "beamer" h
  rw [readDocument, hparse] at hread
  obtain rfl : d = sampleSlides := Except.ok.inj (hd.symm.trans hread)
  obtain rfl : filteredSlides = out := hout
  exact ⟨_, h, hagain (List.forall_mem_singleton.mpr half_rereads)⟩

end DeckFilter
