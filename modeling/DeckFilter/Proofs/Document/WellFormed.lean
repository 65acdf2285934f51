import DeckFilter.Proofs.Document.Written
import DeckFilter.Proofs.Json.Normal

/-!
# Documents are written well-formed

Every document is written as a well-formed value: integers are of 64 bits, a width that is no finite
number is written as null, and members stand in order.

* `Inline.toJson_wellFormed`, `Block.toJson_wellFormed`: nodes;
* `MetaValue.toJson_wellFormed`, `Document.toJson_wellFormed`: metadata and documents.
-/

namespace DeckFilter

open Json (object array string number wellFormed_array wellFormed_object)

/-! ## Parts without nodes -/

theorem Json.wellFormed_string (s : String) : (string s).WellFormed := trivial

theorem wellFormed_bare (tag : String) : (bare tag).WellFormed :=
  wellFormed_object.mpr ⟨List.pairwise_singleton _ _, List.forall_mem_singleton.mpr trivial⟩

theorem wellFormed_tagged {tag : String} {c : Json} (h : c.WellFormed) :
    (tagged tag c).WellFormed :=
  wellFormed_object.mpr ⟨Json.ascending_pair _ _ (by decide), by
    simpa using ⟨h, Json.wellFormed_string tag⟩⟩

theorem integerToJson_wellFormed (n : Int64) : (integerToJson n).WellFormed := by
  have hmax := n.toInt_le
  have hle : Int64.maxValue.toInt = 9223372036854775807 := rfl
  have hsize : UInt64.size = 18446744073709551616 := rfl
  exact ⟨n.le_toInt, by omega⟩

theorem unsignedToJson_wellFormed (n : UInt64) : (number (.integer n.toNat)).WellFormed := by
  have hlt := n.toNat_lt_size
  have hmin : Int64.minValue.toInt = -9223372036854775808 := rfl
  exact ⟨by omega, by omega⟩

theorem Attr.toJson_wellFormed (a : Attr) : a.toJson.WellFormed := by
  have hclasses : (stringsToJson a.classes).WellFormed :=
    wellFormed_array.mpr (List.forall_mem_map.mpr fun s _ => Json.wellFormed_string s)
  rw [toJson, wellFormed_array]
  simp only [List.mem_cons, List.not_mem_nil, or_false, forall_eq_or_imp, forall_eq]
  refine ⟨Json.wellFormed_string _, hclasses, wellFormed_array.mpr ?_⟩
  exact List.forall_mem_map.mpr fun p _ =>
    wellFormed_array.mpr (by simpa using ⟨Json.wellFormed_string _, Json.wellFormed_string _⟩)

theorem Target.toJson_wellFormed (t : Target) : t.toJson.WellFormed := by
  simp [toJson, wellFormed_array, Json.wellFormed_string]

theorem Numbering.toJson_wellFormed (n : Numbering) : n.toJson.WellFormed := by
  simp [toJson, wellFormed_array, integerToJson_wellFormed, wellFormed_bare]

theorem Column.toJson_wellFormed (c : Column) : c.toJson.WellFormed := by
  obtain ⟨alignment, width⟩ := c
  cases width with
  | default => simp [toJson, ColumnWidth.toJson, wellFormed_array, wellFormed_bare]
  | share x =>
    have hx : (if x.isFinite then number (.double x) else .null).WellFormed := by
      split
      · assumption
      · trivial
    simp [toJson, ColumnWidth.toJson, wellFormed_array, wellFormed_bare, wellFormed_tagged hx]

/-! ## Nodes -/

theorem wellFormed_pair {a b : Json} (ha : a.WellFormed) (hb : b.WellFormed) :
    (array [a, b]).WellFormed :=
  wellFormed_array.mpr (by simpa using ⟨ha, hb⟩)

theorem wellFormed_triple {a b c : Json} (ha : a.WellFormed) (hb : b.WellFormed)
    (hc : c.WellFormed) : (array [a, b, c]).WellFormed :=
  wellFormed_array.mpr (by simpa using ⟨ha, hb, hc⟩)

theorem Citation.wellFormed_members {a b c d e f : Json} (ha : a.WellFormed) (hb : b.WellFormed)
    (hc : c.WellFormed) (hd : d.WellFormed) (he : e.WellFormed) (hf : f.WellFormed) :
    (object [("citationHash", a), ("citationId", b), ("citationMode", c), ("citationNoteNum", d),
      ("citationPrefix", e), ("citationSuffix", f)]).WellFormed :=
  wellFormed_object.mpr ⟨Json.ascending_citation a b c d e f, by
    simpa using ⟨ha, hb, hc, hd, he, hf⟩⟩

mutual

/-- **An inline is written well-formed.** -/
theorem Inline.toJson_wellFormed : ∀ x : Inline, x.toJson.WellFormed
  | .str text => wellFormed_tagged (Json.wellFormed_string text)
  | .styled _ content => wellFormed_tagged (wellFormed_array.mpr (inlinesToJson_wellFormed content))
  | .quoted _ content => wellFormed_tagged (wellFormed_pair (wellFormed_bare _)
      (wellFormed_array.mpr (inlinesToJson_wellFormed content)))
  | .cite citations content => wellFormed_tagged (wellFormed_pair
      (wellFormed_array.mpr (citationsToJson_wellFormed citations))
      (wellFormed_array.mpr (inlinesToJson_wellFormed content)))
  | .code attr text =>
    wellFormed_tagged (wellFormed_pair attr.toJson_wellFormed (Json.wellFormed_string text))
  | .space | .softBreak | .lineBreak => wellFormed_bare _
  | .math _ text =>
    wellFormed_tagged (wellFormed_pair (wellFormed_bare _) (Json.wellFormed_string text))
  | .raw format text => wellFormed_tagged
      (wellFormed_pair (Json.wellFormed_string format) (Json.wellFormed_string text))
  | .link attr content target | .image attr content target =>
    wellFormed_tagged (wellFormed_triple attr.toJson_wellFormed
      (wellFormed_array.mpr (inlinesToJson_wellFormed content)) target.toJson_wellFormed)
  | .note content => wellFormed_tagged (wellFormed_array.mpr (blocksToJson_wellFormed content))
  | .span attr content => wellFormed_tagged (wellFormed_pair attr.toJson_wellFormed
      (wellFormed_array.mpr (inlinesToJson_wellFormed content)))

theorem inlinesToJson_wellFormed : ∀ xs : List Inline, ∀ v ∈ inlinesToJson xs, v.WellFormed
  | [] => fun _ h => absurd h List.not_mem_nil
  | x :: xs => List.forall_mem_cons.mpr ⟨x.toJson_wellFormed, inlinesToJson_wellFormed xs⟩

theorem citationsToJson_wellFormed :
    ∀ cs : List (Citation Inline), ∀ v ∈ citationsToJson cs, v.WellFormed
  | [] => fun _ h => absurd h List.not_mem_nil
  | ⟨id, before, after, mode, noteNumber, hash⟩ :: cs => by
    refine List.forall_mem_cons.mpr ⟨?_, citationsToJson_wellFormed cs⟩
    exact Citation.wellFormed_members (integerToJson_wellFormed hash) (Json.wellFormed_string id)
      (wellFormed_bare mode.tag) (integerToJson_wellFormed noteNumber)
      (wellFormed_array.mpr (inlinesToJson_wellFormed before))
      (wellFormed_array.mpr (inlinesToJson_wellFormed after))

/-- **A block is written well-formed.** -/
theorem Block.toJson_wellFormed : ∀ x : Block, x.toJson.WellFormed
  | .plain content | .para content =>
    wellFormed_tagged (wellFormed_array.mpr (inlinesToJson_wellFormed content))
  | .lineBlock lines => wellFormed_tagged (wellFormed_array.mpr (linesToJson_wellFormed lines))
  | .codeBlock attr text =>
    wellFormed_tagged (wellFormed_pair attr.toJson_wellFormed (Json.wellFormed_string text))
  | .raw format text => wellFormed_tagged
      (wellFormed_pair (Json.wellFormed_string format) (Json.wellFormed_string text))
  | .blockQuote content =>
    wellFormed_tagged (wellFormed_array.mpr (blocksToJson_wellFormed content))
  | .orderedList numbering items => wellFormed_tagged (wellFormed_pair numbering.toJson_wellFormed
      (wellFormed_array.mpr (itemsToJson_wellFormed items)))
  | .bulletList items => wellFormed_tagged (wellFormed_array.mpr (itemsToJson_wellFormed items))
  | .definitionList items =>
    wellFormed_tagged (wellFormed_array.mpr (definitionsToJson_wellFormed items))
  | .header level attr content => wellFormed_tagged (wellFormed_triple
      (unsignedToJson_wellFormed level) attr.toJson_wellFormed
      (wellFormed_array.mpr (inlinesToJson_wellFormed content)))
  | .horizontalRule => wellFormed_bare _
  | .table attr caption columns head bodies foot => by
    have hcolumns : (array (columns.map Column.toJson)).WellFormed :=
      wellFormed_array.mpr (List.forall_mem_map.mpr fun c _ => c.toJson_wellFormed)
    have hbodies := wellFormed_array.mpr (tableBodiesToJson_wellFormed bodies)
    refine wellFormed_tagged (wellFormed_array.mpr ?_)
    simpa only [List.forall_mem_cons, List.not_mem_nil, IsEmpty.forall_iff, implies_true, and_true]
      using ⟨attr.toJson_wellFormed, captionToJson_wellFormed caption, hcolumns,
        tableEndToJson_wellFormed head, hbodies, tableEndToJson_wellFormed foot⟩
  | .figure attr caption content => wellFormed_tagged (wellFormed_triple attr.toJson_wellFormed
      (captionToJson_wellFormed caption) (wellFormed_array.mpr (blocksToJson_wellFormed content)))
  | .div attr content => wellFormed_tagged (wellFormed_pair attr.toJson_wellFormed
      (wellFormed_array.mpr (blocksToJson_wellFormed content)))

theorem blocksToJson_wellFormed : ∀ xs : List Block, ∀ v ∈ blocksToJson xs, v.WellFormed
  | [] => fun _ h => absurd h List.not_mem_nil
  | x :: xs => List.forall_mem_cons.mpr ⟨x.toJson_wellFormed, blocksToJson_wellFormed xs⟩

theorem linesToJson_wellFormed : ∀ xs : List (List Inline), ∀ v ∈ linesToJson xs, v.WellFormed
  | [] => fun _ h => absurd h List.not_mem_nil
  | x :: xs => List.forall_mem_cons.mpr
      ⟨wellFormed_array.mpr (inlinesToJson_wellFormed x), linesToJson_wellFormed xs⟩

theorem itemsToJson_wellFormed : ∀ xs : List (List Block), ∀ v ∈ itemsToJson xs, v.WellFormed
  | [] => fun _ h => absurd h List.not_mem_nil
  | x :: xs => List.forall_mem_cons.mpr
      ⟨wellFormed_array.mpr (blocksToJson_wellFormed x), itemsToJson_wellFormed xs⟩

theorem definitionsToJson_wellFormed :
    ∀ ds : List (Definition Inline Block), ∀ v ∈ definitionsToJson ds, v.WellFormed
  | [] => fun _ h => absurd h List.not_mem_nil
  | ⟨term, definitions⟩ :: ds => List.forall_mem_cons.mpr ⟨wellFormed_pair
      (wellFormed_array.mpr (inlinesToJson_wellFormed term))
      (wellFormed_array.mpr (itemsToJson_wellFormed definitions)), definitionsToJson_wellFormed ds⟩

theorem captionToJson_wellFormed : ∀ c : Caption Inline Block, (captionToJson c).WellFormed
  | ⟨short, long⟩ => wellFormed_pair (shortToJson_wellFormed short) (longToJson_wellFormed long)

theorem shortToJson_wellFormed : ∀ short : Option (List Inline), (shortToJson short).WellFormed
  | none => trivial
  | some content => wellFormed_array.mpr (inlinesToJson_wellFormed content)

theorem longToJson_wellFormed : ∀ long : Option (List Block), (longToJson long).WellFormed
  | none => trivial
  | some content => wellFormed_array.mpr (blocksToJson_wellFormed content)

theorem tableEndToJson_wellFormed : ∀ t : TableEnd Block, (tableEndToJson t).WellFormed
  | ⟨attr, rows⟩ =>
    wellFormed_pair attr.toJson_wellFormed (wellFormed_array.mpr (rowsToJson_wellFormed rows))

theorem tableBodiesToJson_wellFormed :
    ∀ ts : List (TableBody Block), ∀ v ∈ tableBodiesToJson ts, v.WellFormed
  | [] => fun _ h => absurd h List.not_mem_nil
  | ⟨attr, headColumns, head, rows⟩ :: ts => by
    have hhead := wellFormed_array.mpr (rowsToJson_wellFormed head)
    have hrows := wellFormed_array.mpr (rowsToJson_wellFormed rows)
    refine List.forall_mem_cons.mpr ⟨wellFormed_array.mpr ?_, tableBodiesToJson_wellFormed ts⟩
    simpa only [List.forall_mem_cons, List.not_mem_nil, IsEmpty.forall_iff, implies_true, and_true]
      using ⟨attr.toJson_wellFormed, integerToJson_wellFormed headColumns, hhead, hrows⟩

theorem rowsToJson_wellFormed : ∀ rs : List (Row Block), ∀ v ∈ rowsToJson rs, v.WellFormed
  | [] => fun _ h => absurd h List.not_mem_nil
  | ⟨attr, cells⟩ :: rs => List.forall_mem_cons.mpr ⟨wellFormed_pair attr.toJson_wellFormed
      (wellFormed_array.mpr (cellsToJson_wellFormed cells)), rowsToJson_wellFormed rs⟩

theorem cellsToJson_wellFormed : ∀ cs : List (Cell Block), ∀ v ∈ cellsToJson cs, v.WellFormed
  | [] => fun _ h => absurd h List.not_mem_nil
  | ⟨attr, alignment, rowSpan, colSpan, content⟩ :: cs => by
    have hcontent := wellFormed_array.mpr (blocksToJson_wellFormed content)
    refine List.forall_mem_cons.mpr ⟨wellFormed_array.mpr ?_, cellsToJson_wellFormed cs⟩
    simpa only [List.forall_mem_cons, List.not_mem_nil, IsEmpty.forall_iff, implies_true, and_true]
      using ⟨attr.toJson_wellFormed, wellFormed_bare alignment.tag,
        integerToJson_wellFormed rowSpan, integerToJson_wellFormed colSpan, hcontent⟩

end

/-! ## Metadata and documents -/

mutual

/-- **A metadata value is written well-formed.** -/
theorem MetaValue.toJson_wellFormed : ∀ v : MetaValue, v.toJson.WellFormed
  | .string s => wellFormed_tagged (Json.wellFormed_string s)
  | .bool _ => wellFormed_tagged trivial
  | .inlines content => wellFormed_tagged (wellFormed_array.mpr (inlinesToJson_wellFormed content))
  | .blocks content => wellFormed_tagged (wellFormed_array.mpr (blocksToJson_wellFormed content))
  | .list items => wellFormed_tagged (wellFormed_array.mpr (metaItemsToJson_wellFormed items))
  | .map entries =>
    wellFormed_tagged (Json.wellFormed_ofMembers (metaEntriesToJson_wellFormed entries))

theorem metaItemsToJson_wellFormed : ∀ vs : List MetaValue, ∀ v ∈ metaItemsToJson vs, v.WellFormed
  | [] => fun _ h => absurd h List.not_mem_nil
  | v :: vs => List.forall_mem_cons.mpr ⟨v.toJson_wellFormed, metaItemsToJson_wellFormed vs⟩

theorem metaEntriesToJson_wellFormed :
    ∀ es : List (String × MetaValue), ∀ m ∈ metaEntriesToJson es, m.2.WellFormed
  | [] => fun _ h => absurd h List.not_mem_nil
  | (_, v) :: es => List.forall_mem_cons.mpr ⟨v.toJson_wellFormed, metaEntriesToJson_wellFormed es⟩

end

/-- **A document is written well-formed.** -/
theorem Document.toJson_wellFormed (d : Document) : d.toJson.WellFormed := by
  have hversion : (array (d.apiVersion.map fun n => number (.integer n.toNat))).WellFormed :=
    wellFormed_array.mpr (List.forall_mem_map.mpr fun n _ => unsignedToJson_wellFormed n)
  refine wellFormed_object.mpr ⟨Json.ascending_document _ _ _, ?_⟩
  simpa only [List.forall_mem_cons, List.not_mem_nil, IsEmpty.forall_iff, implies_true, and_true]
    using ⟨wellFormed_array.mpr (blocksToJson_wellFormed d.blocks),
      Json.wellFormed_ofMembers (metaEntriesToJson_wellFormed d.metadata), hversion⟩

end DeckFilter
