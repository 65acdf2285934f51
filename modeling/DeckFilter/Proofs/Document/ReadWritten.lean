import DeckFilter.Document.Decode
import DeckFilter.Proofs.Document.Canonical
import DeckFilter.Proofs.Document.Decoded

/-!
# Reading what was written

The reader of a part gives the part back from what was written of it. For a node this rests on the
lists below it alone, so one induction on how deep readers go covers all of them.

* `Attr.decode_toJson`, … `Column.decode_toJson`: parts without nodes;
* `NodeReaders.Reads`: the readers of lists give a list back;
* `Inline.decode_toJson`, `Block.decode_toJson`: nodes, if the lists below them are given back;
* `nodeReaders_reads`: lists that nest no deeper than the readers go;
* `metaReader_toJson`: metadata values.
-/

namespace DeckFilter

open Json (object array string number)

/-! ## Parts without nodes -/

theorem asInteger_toJson (what : String) (n : Int64) :
    asInteger what (integerToJson n) = .ok n := by
  have h : Int64.minValue.toInt ≤ n.toInt ∧ n.toInt ≤ Int64.maxValue.toInt :=
    ⟨n.le_toInt, n.toInt_le⟩
  rw [integerToJson, asInteger, if_pos h, Int64.ofInt_toInt]

theorem asUnsigned_toJson (expected : Expectation) (n : UInt64) :
    asUnsigned expected (number (.integer n.toNat)) = .ok n := by
  have h : (0 : Int) ≤ n.toNat ∧ (n.toNat : Int) < UInt64.size :=
    ⟨Int.natCast_nonneg _, Int.ofNat_lt.mpr n.toNat_lt_size⟩
  rw [asUnsigned, if_pos h, Int.toNat_natCast, UInt64.ofNat_toNat]

theorem strings_mapM (what : String) (ss : List String) :
    (ss.map string).mapM (asString what) = .ok ss :=
  Decoded.mapM_map fun _ _ => rfl

theorem Attr.decode_toJson (a : Attr) : Attr.decode a.toJson = .ok a := by
  have hpairs : (a.pairs.map fun p => array [string p.1, string p.2]).mapM decodePair =
      .ok a.pairs :=
    Decoded.mapM_map fun _ _ => rfl
  simp only [Attr.decode, Attr.toJson, asTriple, asString, asArray, stringsToJson, Decoded.ok_bind,
    strings_mapM, hpairs]

theorem Target.decode_toJson (t : Target) : Target.decode t.toJson = .ok t := rfl

theorem QuoteKind.decode_bare (k : QuoteKind) : QuoteKind.decode (bare k.tag) = .ok k := by
  cases k <;> rfl

theorem CitationMode.decode_bare (m : CitationMode) :
    CitationMode.decode (bare m.tag) = .ok m := by
  cases m <;> rfl

theorem NumberStyle.decode_bare (s : NumberStyle) : NumberStyle.decode (bare s.tag) = .ok s := by
  cases s <;> rfl

theorem NumberDelim.decode_bare (d : NumberDelim) : NumberDelim.decode (bare d.tag) = .ok d := by
  cases d <;> rfl

theorem Alignment.decode_bare (a : Alignment) : Alignment.decode (bare a.tag) = .ok a := by
  cases a <;> rfl

theorem Numbering.decode_toJson (n : Numbering) : Numbering.decode n.toJson = .ok n := by
  simp only [Numbering.decode, Numbering.toJson, asTriple, Decoded.ok_bind, asInteger_toJson,
    NumberStyle.decode_bare, NumberDelim.decode_bare]

theorem ColumnWidth.decode_toJson {w : ColumnWidth} (h : w.Finite) :
    ColumnWidth.decode w.toJson = .ok w := by
  cases w with
  | default => rfl
  | share x =>
    have hx : x.isFinite = true := h
    rw [ColumnWidth.toJson, if_pos hx]
    rfl

theorem Column.decode_toJson {c : Column} (h : c.width.Finite) :
    Column.decode c.toJson = .ok c := by
  simp only [Column.decode, Column.toJson, asPair, Decoded.ok_bind, Alignment.decode_bare,
    ColumnWidth.decode_toJson h]

/-! ## Parts with nodes -/

/-- The readers give a list of nodes back from what was written of it. -/
def NodeReaders.Reads (r : NodeReaders) : NodeList → Prop
  | .inlines content => r.inlines (array (content.map Inline.toJson)) = .ok content
  | .blocks content => r.blocks (array (content.map Block.toJson)) = .ok content

variable {r : NodeReaders}

theorem Citation.decode_toJson {c : Citation Inline} (h : ∀ l ∈ c.lists, r.Reads l) :
    Citation.decode r c.toJson = .ok c := by
  have hbefore : r.inlines _ = .ok c.before := h (.inlines c.before) (by simp [Citation.lists])
  have hafter : r.inlines _ = .ok c.after := h (.inlines c.after) (by simp [Citation.lists])
  simp [Citation.decode, Citation.toJson, asObject, member, Json.find?, asString, hbefore, hafter,
    CitationMode.decode_bare, asInteger_toJson]

theorem Caption.decode_toJson {c : Caption Inline Block} (hc : c.long.isSome)
    (h : ∀ l ∈ c.lists, r.Reads l) : Caption.decode r (captionToJson c) = .ok c := by
  obtain ⟨short, long⟩ := c
  obtain ⟨long, rfl⟩ := Option.isSome_iff_exists.mp hc
  have hlong : r.blocks _ = .ok long := h (.blocks long) (by simp [Caption.lists])
  have hshort : decodeShort r (shortToJson short) = .ok short := by
    cases short with
    | none => rfl
    | some short =>
      have hshort : r.inlines _ = .ok short := h (.inlines short) (by simp [Caption.lists])
      rw [shortToJson, decodeShort, inlinesToJson_eq, hshort]
      · rfl
      · intro h'
        cases h'
  simp only [Caption.decode, captionToJson, asPair, Decoded.ok_bind, hshort, longToJson,
    blocksToJson_eq, hlong]

theorem decodeItems_toJson {items : List (List Block)} (h : ∀ x ∈ items, r.Reads (.blocks x)) :
    decodeItems r (array (items.map itemToJson)) = .ok items := by
  simp only [decodeItems, asArray, Decoded.ok_bind]
  exact Decoded.mapM_map h

theorem Definition.decode_toJson {d : Definition Inline Block} (h : ∀ l ∈ d.lists, r.Reads l) :
    Definition.decode r d.toJson = .ok d := by
  have hterm : r.inlines _ = .ok d.term := h (.inlines d.term) (by simp [Definition.lists])
  have hdefs : decodeItems r _ = .ok d.definitions :=
    decodeItems_toJson fun x hx => h (.blocks x) (by simp [Definition.lists, hx])
  simp only [Definition.decode, Definition.toJson, asPair, Decoded.ok_bind, hterm, hdefs]

theorem Cell.decode_toJson {c : Cell Block} (h : r.Reads (.blocks c.content)) :
    Cell.decode r c.toJson = .ok c := by
  have hcontent : r.blocks _ = .ok c.content := h
  simp only [Cell.decode, Cell.toJson, asQuintuple, Decoded.ok_bind, Attr.decode_toJson,
    Alignment.decode_bare, asInteger_toJson, hcontent]

theorem Row.decode_toJson {row : Row Block} (h : ∀ l ∈ row.lists, r.Reads l) :
    Row.decode r row.toJson = .ok row := by
  have hcells : (row.cells.map Cell.toJson).mapM (Cell.decode r) = .ok row.cells :=
    Decoded.mapM_map fun c hc => Cell.decode_toJson (h _ (List.mem_map_of_mem hc))
  simp only [Row.decode, Row.toJson, asPair, asArray, Decoded.ok_bind, Attr.decode_toJson, hcells]

theorem decodeRows_toJson {rows : List (Row Block)} (h : ∀ l ∈ rows.flatMap Row.lists, r.Reads l) :
    decodeRows r (array (rows.map Row.toJson)) = .ok rows := by
  simp only [decodeRows, asArray, Decoded.ok_bind]
  exact Decoded.mapM_map fun row hrow =>
    Row.decode_toJson fun l hl => h l (List.mem_flatMap.mpr ⟨row, hrow, hl⟩)

theorem TableEnd.decode_toJson (what : String) {t : TableEnd Block}
    (h : ∀ l ∈ t.lists, r.Reads l) : TableEnd.decode r what (tableEndToJson t) = .ok t := by
  obtain ⟨attr, rows⟩ := t
  have hrows := decodeRows_toJson h
  simp only [TableEnd.decode, tableEndToJson, rowsToJson_eq, asPair, Decoded.ok_bind,
    Attr.decode_toJson, hrows]

theorem TableBody.decode_toJson {t : TableBody Block} (h : ∀ l ∈ t.lists, r.Reads l) :
    TableBody.decode r t.toJson = .ok t := by
  have hhead : decodeRows r _ = .ok t.head :=
    decodeRows_toJson fun l hl => h l (List.mem_append_left _ hl)
  have hrows : decodeRows r _ = .ok t.rows :=
    decodeRows_toJson fun l hl => h l (List.mem_append_right _ hl)
  simp only [TableBody.decode, TableBody.toJson, asQuadruple, Decoded.ok_bind, Attr.decode_toJson,
    asInteger_toJson, hhead, hrows]

/-! ## Nodes -/

theorem asTagged_tagged (what tag : String) (c : Json) :
    asTagged what (tagged tag c) = .ok (tag, some c) := rfl

theorem Style.ofTag?_tag (s : Style) : Style.ofTag? s.tag = some s := by
  cases s <;> rfl

theorem Inline.decode_tagged {tag : String} (c : Json) (h : Style.ofTag? tag = none) :
    Inline.decode r (tagged tag c) = Inline.decodeTagged r tag (some c) := by
  simp only [Inline.decode, asTagged_tagged, Decoded.ok_bind, h]

/-- **An inline is read back if the lists below it are.** -/
theorem Inline.decode_toJson {x : Inline} (h : ∀ l ∈ x.lists, r.Reads l) :
    Inline.decode r x.toJson = .ok x := by
  cases x with
  | styled style content =>
    have hcontent : r.inlines _ = .ok content := h (.inlines content) (by simp [Inline.lists])
    simp only [Inline.decode, Inline.toJson, asTagged_tagged, Decoded.ok_bind, Style.ofTag?_tag,
      contentOf, inlinesToJson_eq, hcontent]
  | cite citations content =>
    have hcontent : r.inlines _ = .ok content := h (.inlines content) (by simp [Inline.lists])
    have hcitations : (citations.map Citation.toJson).mapM (Citation.decode r) = .ok citations :=
      Decoded.mapM_map fun c hc => Citation.decode_toJson fun l hl =>
        h l (List.mem_append_left _ (List.mem_flatMap.mpr ⟨c, hc, hl⟩))
    rw [Inline.toJson, Inline.decode_tagged _ rfl]
    simp only [Inline.decodeTagged, contentOf, asPair, asArray, Decoded.ok_bind,
      citationsToJson_eq, hcitations, inlinesToJson_eq, hcontent]
  | quoted _ content | span _ content =>
    have hcontent : r.inlines _ = .ok content := h (.inlines content) (by simp [Inline.lists])
    rw [Inline.toJson, Inline.decode_tagged _ rfl]
    simp only [Inline.decodeTagged, contentOf, asPair, Decoded.ok_bind, QuoteKind.decode_bare,
      Attr.decode_toJson, inlinesToJson_eq, hcontent]
  | link _ content _ | image _ content _ =>
    have hcontent : r.inlines _ = .ok content := h (.inlines content) (by simp [Inline.lists])
    rw [Inline.toJson, Inline.decode_tagged _ rfl]
    simp only [Inline.decodeTagged, contentOf, asTriple, Decoded.ok_bind, Attr.decode_toJson,
      Target.decode_toJson, inlinesToJson_eq, hcontent]
  | note content =>
    have hcontent : r.blocks _ = .ok content := h (.blocks content) (by simp [Inline.lists])
    rw [Inline.toJson, Inline.decode_tagged _ rfl]
    simp only [Inline.decodeTagged, contentOf, Decoded.ok_bind, blocksToJson_eq, hcontent]
  | code attr text =>
    rw [Inline.toJson, Inline.decode_tagged _ rfl]
    simp only [Inline.decodeTagged, contentOf, asPair, asString, Decoded.ok_bind,
      Attr.decode_toJson]
  | math kind text => cases kind <;> rfl
  | str text | space | softBreak | lineBreak | raw format text => rfl

/-- **A well-shaped block is read back if the lists below it are.** -/
theorem Block.decode_toJson {x : Block} (hx : x.WellShaped) (h : ∀ l ∈ x.lists, r.Reads l) :
    Block.decode r x.toJson = .ok x := by
  cases x with
  | plain content | para content =>
    have hcontent : r.inlines _ = .ok content := h (.inlines content) (by simp [Block.lists])
    simp only [Block.decode, Block.toJson, asTagged_tagged, Block.decodeTagged, contentOf,
      Decoded.ok_bind, inlinesToJson_eq, hcontent]
  | lineBlock lines =>
    have hlines : (lines.map fun l => array (l.map Inline.toJson)).mapM r.inlines = .ok lines :=
      Decoded.mapM_map fun l hl => h _ (List.mem_map_of_mem hl)
    simp only [Block.decode, Block.toJson, asTagged_tagged, Block.decodeTagged, contentOf, asArray,
      Decoded.ok_bind, linesToJson_eq, hlines]
  | codeBlock attr text =>
    simp only [Block.decode, Block.toJson, asTagged_tagged, Block.decodeTagged, contentOf, asPair,
      asString, Decoded.ok_bind, Attr.decode_toJson]
  | blockQuote content =>
    have hcontent : r.blocks _ = .ok content := h (.blocks content) (by simp [Block.lists])
    simp only [Block.decode, Block.toJson, asTagged_tagged, Block.decodeTagged, contentOf,
      Decoded.ok_bind, blocksToJson_eq, hcontent]
  | orderedList numbering items =>
    have hitems : decodeItems r _ = .ok items :=
      decodeItems_toJson fun x hx => h _ (List.mem_map_of_mem hx)
    simp only [Block.decode, Block.toJson, asTagged_tagged, Block.decodeTagged, contentOf, asPair,
      Decoded.ok_bind, Numbering.decode_toJson, itemsToJson_eq, hitems]
  | bulletList items =>
    have hitems : decodeItems r _ = .ok items :=
      decodeItems_toJson fun x hx => h _ (List.mem_map_of_mem hx)
    simp only [Block.decode, Block.toJson, asTagged_tagged, Block.decodeTagged, contentOf,
      Decoded.ok_bind, itemsToJson_eq, hitems]
  | definitionList items =>
    have hitems : (items.map Definition.toJson).mapM (Definition.decode r) = .ok items :=
      Decoded.mapM_map fun d hd => Definition.decode_toJson fun l hl =>
        h l (List.mem_flatMap.mpr ⟨d, hd, hl⟩)
    simp only [Block.decode, Block.toJson, asTagged_tagged, Block.decodeTagged, contentOf, asArray,
      Decoded.ok_bind, definitionsToJson_eq, hitems]
  | header level attr content =>
    have hcontent : r.inlines _ = .ok content := h (.inlines content) (by simp [Block.lists])
    simp only [Block.decode, Block.toJson, asTagged_tagged, Block.decodeTagged, contentOf, asTriple,
      Decoded.ok_bind, asUnsigned_toJson, Attr.decode_toJson, inlinesToJson_eq, hcontent]
  | table attr caption columns head bodies foot =>
    obtain ⟨hlong, hcolumns⟩ := hx
    have hcaption : Caption.decode r _ = .ok caption :=
      Caption.decode_toJson hlong fun l hl => h l (by simp [Block.lists, hl])
    have hcols : (columns.map Column.toJson).mapM Column.decode = .ok columns :=
      Decoded.mapM_map fun c hc => Column.decode_toJson (hcolumns c hc)
    have hhead : TableEnd.decode r "TableHead" _ = .ok head :=
      TableEnd.decode_toJson _ fun l hl => h l (by simp [Block.lists, hl])
    have hbodies : (bodies.map TableBody.toJson).mapM (TableBody.decode r) = .ok bodies :=
      Decoded.mapM_map fun t ht => TableBody.decode_toJson fun l hl =>
        h l (List.mem_append_left _ (List.mem_append_right _ (List.mem_flatMap.mpr ⟨t, ht, hl⟩)))
    have hfoot : TableEnd.decode r "TableFoot" _ = .ok foot :=
      TableEnd.decode_toJson _ fun l hl => h l (by simp [Block.lists, hl])
    simp only [Block.decode, Block.toJson, asTagged_tagged, Block.decodeTagged, contentOf,
      asSextuple, asArray, Decoded.ok_bind, Attr.decode_toJson, hcaption, hcols, hhead,
      tableBodiesToJson_eq, hbodies, hfoot]
  | figure attr caption content =>
    have hcaption : Caption.decode r _ = .ok caption :=
      Caption.decode_toJson hx fun l hl => h l (by simp [Block.lists, hl])
    have hcontent : r.blocks _ = .ok content := h (.blocks content) (by simp [Block.lists])
    simp only [Block.decode, Block.toJson, asTagged_tagged, Block.decodeTagged, contentOf, asTriple,
      Decoded.ok_bind, Attr.decode_toJson, hcaption, blocksToJson_eq, hcontent]
  | div attr content =>
    have hcontent : r.blocks _ = .ok content := h (.blocks content) (by simp [Block.lists])
    simp only [Block.decode, Block.toJson, asTagged_tagged, Block.decodeTagged, contentOf, asPair,
      Decoded.ok_bind, Attr.decode_toJson, blocksToJson_eq, hcontent]
  | raw format text | horizontalRule => rfl

/-! ## Lists, however deep -/

/-- **The readers of lists give canonical lists back that nest no deeper than they go.** -/
theorem nodeReaders_reads : ∀ (n : Nat) (l : NodeList), l.Canonical → l.toJson.depth ≤ n →
    (nodeReaders n).Reads l
  | 0, l, _, hd => by
    cases l <;> simp [NodeList.toJson, Json.depth] at hd
  | n + 1, .inlines xs, hl, hd => by
    have hx : ∀ x ∈ xs, Inline.decode (nodeReaders n) x.toJson = .ok x := fun x hx => by
      have hdx : x.toJson.depth < (NodeList.inlines xs).toJson.depth :=
        Json.depth_lt_array (List.mem_map_of_mem hx)
      refine Inline.decode_toJson fun l' hl' => nodeReaders_reads n l' ?_ ?_
      · exact Inline.canonical_iff.mp (NodeList.canonical_inlines.mp hl x hx) l' hl'
      · have := Inline.depth_lists hl'
        omega
    exact Decoded.mapM_map hx
  | n + 1, .blocks xs, hl, hd => by
    have hx : ∀ x ∈ xs, Block.decode (nodeReaders n) x.toJson = .ok x := fun x hx => by
      have hdx : x.toJson.depth < (NodeList.blocks xs).toJson.depth :=
        Json.depth_lt_array (List.mem_map_of_mem hx)
      obtain ⟨hs, hls⟩ := Block.canonical_iff.mp (NodeList.canonical_blocks.mp hl x hx)
      refine Block.decode_toJson hs fun l' hl' => nodeReaders_reads n l' (hls l' hl') ?_
      have := Block.depth_lists hl'
      omega
    exact Decoded.mapM_map hx

theorem inlinesOfJson_toJson {xs : List Inline} (h : (NodeList.inlines xs).Canonical) :
    inlinesOfJson (array (xs.map Inline.toJson)) = .ok xs :=
  nodeReaders_reads _ (.inlines xs) h (Nat.le_refl _)

theorem blocksOfJson_toJson {xs : List Block} (h : (NodeList.blocks xs).Canonical) :
    blocksOfJson (array (xs.map Block.toJson)) = .ok xs :=
  nodeReaders_reads _ (.blocks xs) h (Nat.le_refl _)

theorem inlineOfJson_toJson {x : Inline} (h : x.Canonical) : inlineOfJson x.toJson = .ok x :=
  Inline.decode_toJson fun l hl =>
    nodeReaders_reads _ l (Inline.canonical_iff.mp h l hl) (Nat.le_of_lt (Inline.depth_lists hl))

theorem blockOfJson_toJson {x : Block} (h : x.Canonical) : blockOfJson x.toJson = .ok x :=
  Block.decode_toJson (Block.canonical_iff.mp h).1 fun l hl =>
    nodeReaders_reads _ l ((Block.canonical_iff.mp h).2 l hl) (Nat.le_of_lt (Block.depth_lists hl))

/-! ## Metadata and documents -/

/-- **Canonical metadata values are read back if they nest no deeper than the reader goes.** -/
theorem metaReader_toJson : ∀ (n : Nat) (v : MetaValue), v.Canonical → v.toJson.depth ≤ n →
    metaReader n v.toJson = .ok v
  | 0, v, _, hd => by
    cases v <;> simp [MetaValue.toJson, depth_tagged] at hd
  | n + 1, v, hv, hd => by
    cases v with
    | string s | bool b => rfl
    | inlines content =>
      have hcontent := inlinesOfJson_toJson (MetaValue.canonical_inlines.mp hv)
      simp only [metaReader, MetaValue.decode, MetaValue.toJson, asTagged_tagged, contentOf,
        Decoded.ok_bind, inlinesToJson_eq, hcontent, Decoded.map_ok]
    | blocks content =>
      have hcontent := blocksOfJson_toJson (MetaValue.canonical_blocks.mp hv)
      simp only [metaReader, MetaValue.decode, MetaValue.toJson, asTagged_tagged, contentOf,
        Decoded.ok_bind, blocksToJson_eq, hcontent, Decoded.map_ok]
    | list items =>
      have hitems : (items.map MetaValue.toJson).mapM (metaReader n) = .ok items :=
        Decoded.mapM_map fun v hmem => by
          refine metaReader_toJson n v (MetaValue.canonical_list.mp hv v hmem) ?_
          rw [MetaValue.toJson, depth_tagged, metaItemsToJson_eq] at hd
          have := Json.depth_lt_array (List.mem_map_of_mem (f := MetaValue.toJson) hmem)
          omega
      simp only [metaReader, MetaValue.decode, MetaValue.toJson, asTagged_tagged, contentOf,
        asArray, Decoded.ok_bind, metaItemsToJson_eq, hitems, Decoded.map_ok]
    | map entries =>
      obtain ⟨hasc, hcanon⟩ := MetaValue.canonical_map.mp hv
      have hentries : (entries.map fun e => (e.1, e.2.toJson)).mapM (fun e => do
          let v ← metaReader n e.2
          .ok (e.1, v)) = .ok entries :=
        Decoded.mapM_map fun e hmem => by
          have hdepth : e.2.toJson.depth ≤ n := by
            rw [MetaValue.toJson, depth_tagged, ofMembers_metaEntriesToJson hasc, Json.depth] at hd
            have := Json.depth_le_depthMembers
              (List.mem_map_of_mem (f := fun e => (e.1, e.2.toJson)) hmem)
            simp only at this
            omega
          rw [metaReader_toJson n e.2 (hcanon e hmem) hdepth, Decoded.ok_bind]
      simp only [metaReader, MetaValue.decode, MetaValue.toJson, asTagged_tagged, contentOf,
        asMap, Decoded.ok_bind, ofMembers_metaEntriesToJson hasc, hentries, Decoded.map_ok]

theorem metaOfJson_toJson {v : MetaValue} (h : v.Canonical) : metaOfJson v.toJson = .ok v :=
  metaReader_toJson _ v h (Nat.le_refl _)

/-- **A canonical document is read back as it was written.** -/
theorem Document.ofJson_toJson {d : Document} (h : d.Canonical) :
    Document.ofJson d.toJson = .ok d := by
  obtain ⟨hmeta, hblocks⟩ := Document.canonical_iff.mp h
  obtain ⟨hasc, hcanon⟩ := MetaValue.canonical_map.mp hmeta
  have hversion : (d.apiVersion.map fun n => number (.integer n.toNat)).mapM
      (asUnsigned .versionNumbers) = .ok d.apiVersion :=
    Decoded.mapM_map fun n _ => asUnsigned_toJson _ n
  have hentries : (d.metadata.map fun e => (e.1, e.2.toJson)).mapM (fun e => do
      let v ← metaOfJson e.2
      .ok (e.1, v)) = .ok d.metadata :=
    Decoded.mapM_map fun e hmem => by rw [metaOfJson_toJson (hcanon e hmem), Decoded.ok_bind]
  have hcontent := blocksOfJson_toJson hblocks
  simp only [Document.ofJson, Document.toJson, asObject, Decoded.ok_bind, find?_version, find?_meta,
    find?_blocks, decodeVersion, asArray, hversion, decodeMetadata, asMap,
    ofMembers_metaEntriesToJson hasc, hentries, member, blocksToJson_eq, hcontent]

end DeckFilter
