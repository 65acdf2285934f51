import DeckFilter.Proofs.Document.Canonical
import DeckFilter.Proofs.Document.Faithful
import DeckFilter.Proofs.Double.Finite

/-!
# Writing what was read

What the reader makes of a value is canonical and is written as the normal form of the value. Parts
are read from the inside out: a node is written so if the lists below it are.

* `Attr.decode_faithful`, … `Column.decode_faithful`: parts without nodes;
* `Citation.decode_faithful`, … `TableBody.decode_faithful`: parts with nodes;
* `Inline.decode_faithful`, `Block.decode_faithful`: nodes;
* `nodeReaders_faithful`, `metaReader_faithful`: lists of nodes and metadata values;
* `Document.toJson_of_ofJson`: documents.
-/

namespace DeckFilter

open Json (object array string number normal Place bareTags)

/-! ## Parts without nodes -/

theorem asString_faithful (what : String) :
    Faithful .value (asString what) string fun _ => True := fun v s _ h => by
  rw [asString_eq_ok h]
  exact ⟨rfl, trivial⟩

theorem asInteger_faithful (what : String) :
    Faithful .value (asInteger what) integerToJson fun _ => True := fun v s _ h => by
  rw [asInteger_eq_ok h]
  exact ⟨rfl, trivial⟩

theorem asUnsigned_faithful (expected : Expectation) : Faithful .value (asUnsigned expected)
    (fun n => number (.integer n.toNat)) fun _ => True := fun v n _ h => by
  rw [asUnsigned_eq_ok h]
  exact ⟨rfl, trivial⟩

theorem asOneOf_faithful {α : Type} (what : String) (table : List (String × α)) {tag : α → String}
    (h : ∀ e ∈ table, tag e.2 = e.1 ∧ e.1 ∈ bareTags) :
    Faithful .value (asOneOf what table) (fun x => bare (tag x)) fun _ => True :=
  fun v x hv hread => by
    obtain ⟨⟨t, c⟩, ht, hread⟩ := Decoded.bind_eq_ok.mp hread
    dsimp only at hread
    split at hread
    · rename_i y hy
      cases hread
      obtain ⟨before, after, rfl, -⟩ := List.lookup_eq_some_iff.mp hy
      obtain ⟨htag, hbare⟩ := h (t, x) (by simp)
      refine ⟨?_, trivial⟩
      rw [normal_of_asTagged_bare hv ht hbare]
      exact congrArg bare htag
    · cases hread

theorem QuoteKind.decode_faithful :
    Faithful .value QuoteKind.decode (fun k => bare k.tag) fun _ => True :=
  asOneOf_faithful _ _ (by decide)

theorem MathKind.decode_faithful :
    Faithful .value MathKind.decode (fun k => bare k.tag) fun _ => True :=
  asOneOf_faithful _ _ (by decide)

theorem CitationMode.decode_faithful :
    Faithful .value CitationMode.decode (fun m => bare m.tag) fun _ => True :=
  asOneOf_faithful _ _ (by decide)

theorem NumberStyle.decode_faithful :
    Faithful .value NumberStyle.decode (fun s => bare s.tag) fun _ => True :=
  asOneOf_faithful _ _ (by decide)

theorem NumberDelim.decode_faithful :
    Faithful .value NumberDelim.decode (fun d => bare d.tag) fun _ => True :=
  asOneOf_faithful _ _ (by decide)

theorem Alignment.decode_faithful :
    Faithful .value Alignment.decode (fun a => bare a.tag) fun _ => True :=
  asOneOf_faithful _ _ (by decide)

theorem decodePair_faithful : Faithful .value decodePair
    (fun p => array [string p.1, string p.2]) fun _ => True := fun v p _ h => by
  obtain ⟨⟨a, b⟩, hv, h⟩ := Decoded.bind_eq_ok.mp h
  obtain ⟨key, hkey, h⟩ := Decoded.bind_eq_ok.mp h
  obtain ⟨value, hvalue, h⟩ := Decoded.bind_eq_ok.mp h
  cases h
  rw [asPair_eq_ok hv, asString_eq_ok hkey, asString_eq_ok hvalue]
  exact ⟨rfl, trivial⟩

theorem Attr.decode_faithful : Faithful .value Attr.decode Attr.toJson fun _ => True :=
  fun v attr hv h => by
    obtain ⟨⟨a, b, c⟩, habc, h⟩ := Decoded.bind_eq_ok.mp h
    obtain ⟨id, hid, h⟩ := Decoded.bind_eq_ok.mp h
    obtain ⟨bs, hbs, h⟩ := Decoded.bind_eq_ok.mp h
    obtain ⟨classes, hclasses, h⟩ := Decoded.bind_eq_ok.mp h
    obtain ⟨cs, hcs, h⟩ := Decoded.bind_eq_ok.mp h
    obtain ⟨pairs, hpairs, h⟩ := Decoded.bind_eq_ok.mp h
    cases h
    have hwrite := (asString_faithful "Attr id").triple
      ((asString_faithful "Class").array "Attr classes")
      (decodePair_faithful.array "Attr key-values") hv habc hid
      (Decoded.bind_eq_ok.mpr ⟨bs, hbs, hclasses⟩) (Decoded.bind_eq_ok.mpr ⟨cs, hcs, hpairs⟩)
    exact ⟨hwrite.1, trivial⟩

theorem Target.decode_faithful : Faithful .value Target.decode Target.toJson fun _ => True :=
  fun v target hv h => by
    obtain ⟨⟨a, b⟩, hab, h⟩ := Decoded.bind_eq_ok.mp h
    obtain ⟨url, hurl, h⟩ := Decoded.bind_eq_ok.mp h
    obtain ⟨title, htitle, h⟩ := Decoded.bind_eq_ok.mp h
    cases h
    exact ⟨((asString_faithful _).pair (asString_faithful _) hv hab hurl htitle).1, trivial⟩

theorem Numbering.decode_faithful :
    Faithful .value Numbering.decode Numbering.toJson fun _ => True := fun v numbering hv h => by
  obtain ⟨⟨a, b, c⟩, habc, h⟩ := Decoded.bind_eq_ok.mp h
  obtain ⟨start, hstart, h⟩ := Decoded.bind_eq_ok.mp h
  obtain ⟨style, hstyle, h⟩ := Decoded.bind_eq_ok.mp h
  obtain ⟨delim, hdelim, h⟩ := Decoded.bind_eq_ok.mp h
  cases h
  have hwrite := (asInteger_faithful _).triple NumberStyle.decode_faithful
    NumberDelim.decode_faithful hv habc hstart hstyle hdelim
  exact ⟨hwrite.1, trivial⟩

theorem asWidth_faithful : Faithful .width asWidth (fun x => number (.double x))
    fun x => x.isFinite := fun v x hv h => by
  unfold asWidth at h
  split at h
  · rename_i n
    cases h
    have hn : Int64.minValue.toInt ≤ n ∧ n < UInt64.size := hv
    have hmin : Int64.minValue.toInt = -9223372036854775808 := rfl
    have hsize : UInt64.size = 18446744073709551616 := rfl
    exact ⟨rfl, Double.ofInt_isFinite (by omega)⟩
  · cases h
    exact ⟨rfl, hv⟩
  · cases h

theorem ColumnWidth.decode_faithful :
    Faithful .value ColumnWidth.decode ColumnWidth.toJson ColumnWidth.Finite := fun v w hv h => by
  obtain ⟨⟨tag, c⟩, htag, h⟩ := Decoded.bind_eq_ok.mp h
  split at h
  · rename_i heq
    cases heq
    cases h
    exact ⟨(normal_of_asTagged_bare hv htag (by decide)).symm, trivial⟩
  · rename_i heq
    cases heq
    obtain ⟨c, hc, h⟩ := Decoded.bind_eq_ok.mp h
    obtain ⟨x, hx, rfl⟩ := Decoded.map_eq_ok.mp h
    obtain ⟨hwf, hnormal⟩ := normal_of_contentOf .width hv htag hc (by decide)
    obtain ⟨hwrite, hfinite⟩ := asWidth_faithful hwf hx
    rw [hnormal, ColumnWidth.toJson, if_pos hfinite]
    exact ⟨congrArg (tagged "ColWidth") hwrite, hfinite⟩
  · cases h

theorem Column.decode_faithful :
    Faithful .value Column.decode Column.toJson fun c => c.width.Finite := fun v column hv h => by
  obtain ⟨⟨a, b⟩, hab, h⟩ := Decoded.bind_eq_ok.mp h
  obtain ⟨alignment, halign, h⟩ := Decoded.bind_eq_ok.mp h
  obtain ⟨width, hwidth, h⟩ := Decoded.bind_eq_ok.mp h
  cases h
  obtain ⟨hwrite, -, hfinite⟩ :=
    Alignment.decode_faithful.pair ColumnWidth.decode_faithful hv hab halign hwidth
  exact ⟨hwrite, hfinite⟩

/-! ## Parts with nodes -/

/-- The readers of lists of nodes give canonical lists, which are written as normal forms. -/
structure NodeReaders.Faithful (r : NodeReaders) : Prop where
  inlines : DeckFilter.Faithful .value r.inlines (fun xs => array (xs.map Inline.toJson))
    fun xs => (NodeList.inlines xs).Canonical
  blocks : DeckFilter.Faithful .value r.blocks (fun xs => array (xs.map Block.toJson))
    fun xs => (NodeList.blocks xs).Canonical

variable {r : NodeReaders} (hr : r.Faithful)

include hr

theorem Citation.decode_faithful : Faithful .citation (Citation.decode r) Citation.toJson
    fun c => ∀ l ∈ c.lists, l.Canonical := fun v citation hv h => by
  obtain ⟨members, hm, h⟩ := Decoded.bind_eq_ok.mp h
  rw [asObject_eq_ok hm] at hv ⊢
  obtain ⟨a, ha, h⟩ := Decoded.bind_eq_ok.mp h
  obtain ⟨id, hid, h⟩ := Decoded.bind_eq_ok.mp h
  obtain ⟨b, hb, h⟩ := Decoded.bind_eq_ok.mp h
  obtain ⟨before, hbefore, h⟩ := Decoded.bind_eq_ok.mp h
  obtain ⟨c, hc, h⟩ := Decoded.bind_eq_ok.mp h
  obtain ⟨after, hafter, h⟩ := Decoded.bind_eq_ok.mp h
  obtain ⟨d, hd, h⟩ := Decoded.bind_eq_ok.mp h
  obtain ⟨mode, hmode, h⟩ := Decoded.bind_eq_ok.mp h
  obtain ⟨e, he, h⟩ := Decoded.bind_eq_ok.mp h
  obtain ⟨noteNumber, hnote, h⟩ := Decoded.bind_eq_ok.mp h
  obtain ⟨f, hf, h⟩ := Decoded.bind_eq_ok.mp h
  obtain ⟨hash, hhash, h⟩ := Decoded.bind_eq_ok.mp h
  cases h
  obtain ⟨h₁, hc₁⟩ : array (before.map Inline.toJson) = _ ∧ _ :=
    hr.inlines (hv.find? (member_eq_ok hb)) hbefore
  obtain ⟨h₂, hc₂⟩ : array (after.map Inline.toJson) = _ ∧ _ :=
    hr.inlines (hv.find? (member_eq_ok hc)) hafter
  have h₃ : bare mode.tag = _ :=
    (CitationMode.decode_faithful (hv.find? (member_eq_ok hd)) hmode).1
  have h₄ := (asInteger_faithful _ (hv.find? (member_eq_ok he)) hnote).1
  have h₅ := (asInteger_faithful _ (hv.find? (member_eq_ok hf)) hhash).1
  have h₆ := (asString_faithful _ (hv.find? (member_eq_ok ha)) hid).1
  refine ⟨?_, by simpa [Citation.lists] using ⟨hc₁, hc₂⟩⟩
  rw [Json.normal_citation (Json.wellFormed_object.mp hv).1 (member_eq_ok hf) (member_eq_ok ha)
    (member_eq_ok hd) (member_eq_ok he) (member_eq_ok hb) (member_eq_ok hc), Citation.toJson, h₁,
    h₂, h₃, h₄, h₅, h₆]

theorem decodeItems_faithful : Faithful .value (decodeItems r)
    (fun xs => array (xs.map itemToJson)) fun xs => ∀ x ∈ xs, (NodeList.blocks x).Canonical :=
  hr.blocks.array "List items"

theorem Definition.decode_faithful : Faithful .value (Definition.decode r) Definition.toJson
    fun d => ∀ l ∈ d.lists, l.Canonical := fun v definition hv h => by
  obtain ⟨⟨a, b⟩, hab, h⟩ := Decoded.bind_eq_ok.mp h
  obtain ⟨term, hterm, h⟩ := Decoded.bind_eq_ok.mp h
  obtain ⟨definitions, hdefs, h⟩ := Decoded.bind_eq_ok.mp h
  cases h
  obtain ⟨hwrite, hcanon⟩ := hr.inlines.pair (decodeItems_faithful hr) hv hab hterm hdefs
  exact ⟨hwrite, by simpa [Definition.lists] using hcanon⟩

theorem decodeShort_faithful : Faithful .value (decodeShort r) shortToJson
    fun short => ∀ xs ∈ short, (NodeList.inlines xs).Canonical := fun v short hv h => by
  unfold decodeShort at h
  split at h
  · cases h
    exact ⟨rfl, by simp⟩
  · obtain ⟨xs, hxs, rfl⟩ := Decoded.map_eq_ok.mp h
    obtain ⟨hwrite, hcanon⟩ := hr.inlines hv hxs
    rw [shortToJson, inlinesToJson_eq]
    exact ⟨hwrite, by simpa using hcanon⟩

theorem Caption.decode_faithful : Faithful .value (Caption.decode r) captionToJson
    fun c => c.long.isSome ∧ ∀ l ∈ c.lists, l.Canonical := fun v caption hv h => by
  obtain ⟨⟨a, b⟩, hab, h⟩ := Decoded.bind_eq_ok.mp h
  obtain ⟨short, hshort, h⟩ := Decoded.bind_eq_ok.mp h
  obtain ⟨long, hlong, h⟩ := Decoded.bind_eq_ok.mp h
  cases h
  obtain ⟨hwrite, hcs, hcl⟩ := (decodeShort_faithful hr).pair hr.blocks hv hab hshort hlong
  rw [captionToJson, longToJson, blocksToJson_eq]
  refine ⟨hwrite, rfl, ?_⟩
  cases short <;> simp_all [Caption.lists]

theorem Cell.decode_faithful : Faithful .value (Cell.decode r) Cell.toJson
    fun c => (NodeList.blocks c.content).Canonical := fun v cell hv h => by
  obtain ⟨⟨a, b, c, d, e⟩, habcde, h⟩ := Decoded.bind_eq_ok.mp h
  obtain ⟨ha, hb, hc, hd, he, hnormal⟩ := normal_of_asQuintuple hv habcde
  obtain ⟨attr, hattr, h⟩ := Decoded.bind_eq_ok.mp h
  obtain ⟨alignment, halign, h⟩ := Decoded.bind_eq_ok.mp h
  obtain ⟨rowSpan, hrow, h⟩ := Decoded.bind_eq_ok.mp h
  obtain ⟨colSpan, hcol, h⟩ := Decoded.bind_eq_ok.mp h
  obtain ⟨content, hcontent, h⟩ := Decoded.bind_eq_ok.mp h
  cases h
  have h₁ := (Attr.decode_faithful ha hattr).1
  have h₂ : bare alignment.tag = _ := (Alignment.decode_faithful hb halign).1
  have h₃ := (asInteger_faithful _ hc hrow).1
  have h₄ := (asInteger_faithful _ hd hcol).1
  obtain ⟨h₅, hcanon⟩ : array (content.map Block.toJson) = _ ∧ _ := hr.blocks he hcontent
  rw [hnormal, Cell.toJson, h₁, h₂, h₃, h₄, h₅]
  exact ⟨rfl, hcanon⟩

theorem Row.decode_faithful : Faithful .value (Row.decode r) Row.toJson
    fun row => ∀ l ∈ row.lists, l.Canonical := fun v row hv h => by
  obtain ⟨⟨a, b⟩, hab, h⟩ := Decoded.bind_eq_ok.mp h
  obtain ⟨attr, hattr, h⟩ := Decoded.bind_eq_ok.mp h
  obtain ⟨bs, hbs, h⟩ := Decoded.bind_eq_ok.mp h
  obtain ⟨cells, hcells, h⟩ := Decoded.bind_eq_ok.mp h
  cases h
  obtain ⟨hwrite, -, hcanon⟩ := Attr.decode_faithful.pair
    ((Cell.decode_faithful hr).array "Row cells") hv hab hattr
    (Decoded.bind_eq_ok.mpr ⟨bs, hbs, hcells⟩)
  exact ⟨hwrite, by simpa [Row.lists] using hcanon⟩

theorem decodeRows_faithful : Faithful .value (decodeRows r) (fun rs => array (rs.map Row.toJson))
    fun rs => ∀ l ∈ rs.flatMap Row.lists, l.Canonical := fun v rows hv h => by
  obtain ⟨hwrite, hcanon⟩ := (Row.decode_faithful hr).array "Rows" hv h
  exact ⟨hwrite, List.forall_mem_flatMap.mpr hcanon⟩

theorem TableEnd.decode_faithful (what : String) :
    Faithful .value (TableEnd.decode r what) tableEndToJson
      fun t => ∀ l ∈ t.lists, l.Canonical := fun v t hv h => by
  obtain ⟨⟨a, b⟩, hab, h⟩ := Decoded.bind_eq_ok.mp h
  obtain ⟨attr, hattr, h⟩ := Decoded.bind_eq_ok.mp h
  obtain ⟨rows, hrows, h⟩ := Decoded.bind_eq_ok.mp h
  cases h
  obtain ⟨hwrite, -, hcanon⟩ :=
    Attr.decode_faithful.pair (decodeRows_faithful hr) hv hab hattr hrows
  rw [tableEndToJson, rowsToJson_eq]
  exact ⟨hwrite, hcanon⟩

theorem TableBody.decode_faithful : Faithful .value (TableBody.decode r) TableBody.toJson
    fun t => ∀ l ∈ t.lists, l.Canonical := fun v t hv h => by
  obtain ⟨⟨a, b, c, d⟩, habcd, h⟩ := Decoded.bind_eq_ok.mp h
  obtain ⟨ha, hb, hc, hd, hnormal⟩ := normal_of_asQuadruple hv habcd
  obtain ⟨attr, hattr, h⟩ := Decoded.bind_eq_ok.mp h
  obtain ⟨headColumns, hcolumns, h⟩ := Decoded.bind_eq_ok.mp h
  obtain ⟨head, hhead, h⟩ := Decoded.bind_eq_ok.mp h
  obtain ⟨rows, hrows, h⟩ := Decoded.bind_eq_ok.mp h
  cases h
  have h₁ := (Attr.decode_faithful ha hattr).1
  have h₂ := (asInteger_faithful _ hb hcolumns).1
  obtain ⟨h₃, hc₃⟩ : array (head.map Row.toJson) = _ ∧ _ := decodeRows_faithful hr hc hhead
  obtain ⟨h₄, hc₄⟩ : array (rows.map Row.toJson) = _ ∧ _ := decodeRows_faithful hr hd hrows
  rw [hnormal, TableBody.toJson, h₁, h₂, h₃, h₄]
  exact ⟨rfl, List.forall_mem_append.mpr ⟨hc₃, hc₄⟩⟩

/-! ## Nodes -/

omit hr in
theorem Style.tag_of_ofTag? {tag : String} {s : Style} (h : Style.ofTag? tag = some s) :
    s.tag = tag := by
  have h := List.find?_some h
  exact beq_iff_eq.mp h

omit hr in
theorem Style.tag_not_bare (s : Style) : s.tag ∉ bareTags ∧ Json.contentPlace s.tag = .value := by
  cases s <;> decide

theorem citations_faithful {what what' : String} {v a b : Json} {vs : List Json}
    {citations : List (Citation Inline)} {content : List Inline} (hv : v.WellFormed)
    (hab : asPair what v = .ok (a, b)) (hvs : asArray what' a = .ok vs)
    (hcitations : vs.mapM (Citation.decode r) = .ok citations)
    (hcontent : r.inlines b = .ok content) :
    array [array (citations.map Citation.toJson), array (content.map Inline.toJson)] =
        normal .cite v ∧
      (∀ c ∈ citations, ∀ l ∈ c.lists, l.Canonical) ∧ (NodeList.inlines content).Canonical := by
  rw [asPair_eq_ok hab, asArray_eq_ok hvs] at hv ⊢
  have hwf := Json.wellFormed_array.mp hv
  obtain ⟨h₁, hc₁⟩ :=
    (Citation.decode_faithful hr).mapM (Json.wellFormed_array.mp (hwf _ (by simp))) hcitations
  obtain ⟨h₂, hc₂⟩ : array (content.map Inline.toJson) = _ ∧ _ :=
    hr.inlines (hwf b (by simp)) hcontent
  rw [h₁, h₂, ← Json.normalItems_self]
  exact ⟨rfl, hc₁, hc₂⟩

/-- **An inline that is no plain wrapper is undone**, tag by tag. -/
theorem Inline.decodeTagged_faithful {v : Json} {tag : String} {c : Option Json} {x : Inline}
    (hv : v.WellFormed) (htag : asTagged "Inline" v = .ok (tag, c))
    (h : Inline.decodeTagged r tag c = .ok x) :
    x.toJson = normal .value v ∧ ∀ l ∈ x.lists, l.Canonical := by
  unfold Inline.decodeTagged at h
  split at h
  · obtain ⟨text, rfl, hwrite, -⟩ := (asString_faithful _).content hv htag (by decide) h
    exact ⟨hwrite, by simp [Inline.lists]⟩
  · cases h
    exact ⟨(normal_of_asTagged_bare hv htag (by decide)).symm, by simp [Inline.lists]⟩
  · cases h
    exact ⟨(normal_of_asTagged_bare hv htag (by decide)).symm, by simp [Inline.lists]⟩
  · cases h
    exact ⟨(normal_of_asTagged_bare hv htag (by decide)).symm, by simp [Inline.lists]⟩
  · obtain ⟨kind, content, rfl, hwrite, -, hcanon⟩ :=
      QuoteKind.decode_faithful.contentPair hr.inlines hv htag (by decide) h
    rw [Inline.toJson, inlinesToJson_eq]
    exact ⟨hwrite, by simpa [Inline.lists] using hcanon⟩
  · obtain ⟨w, hc, h⟩ := Decoded.bind_eq_ok.mp h
    obtain ⟨⟨a, b⟩, hab, h⟩ := Decoded.bind_eq_ok.mp h
    obtain ⟨vs, hvs, h⟩ := Decoded.bind_eq_ok.mp h
    obtain ⟨citations, hcitations, h⟩ := Decoded.bind_eq_ok.mp h
    obtain ⟨content, hcontent, h⟩ := Decoded.bind_eq_ok.mp h
    cases h
    obtain ⟨hwf, hnormal⟩ := normal_of_contentOf .cite hv htag hc (by decide)
    obtain ⟨hwrite, hcanon⟩ := citations_faithful hr hwf hab hvs hcitations hcontent
    rw [hnormal, Inline.toJson, citationsToJson_eq, inlinesToJson_eq, hwrite]
    refine ⟨rfl, List.forall_mem_append.mpr ⟨List.forall_mem_flatMap.mpr hcanon.1, ?_⟩⟩
    exact List.forall_mem_singleton.mpr hcanon.2
  · obtain ⟨attr, text, rfl, hwrite, -⟩ :=
      Attr.decode_faithful.contentPair (asString_faithful _) hv htag (by decide) h
    exact ⟨hwrite, by simp [Inline.lists]⟩
  · obtain ⟨kind, text, rfl, hwrite, -⟩ :=
      MathKind.decode_faithful.contentPair (asString_faithful _) hv htag (by decide) h
    exact ⟨hwrite, by simp [Inline.lists]⟩
  · obtain ⟨format, text, rfl, hwrite, -⟩ :=
      (asString_faithful _).contentPair (asString_faithful _) hv htag (by decide) h
    exact ⟨hwrite, by simp [Inline.lists]⟩
  · obtain ⟨attr, content, target, rfl, hwrite, -, hcanon, -⟩ :=
      Attr.decode_faithful.contentTriple hr.inlines Target.decode_faithful hv htag (by decide) h
    rw [Inline.toJson, inlinesToJson_eq]
    exact ⟨hwrite, by simpa [Inline.lists] using hcanon⟩
  · obtain ⟨attr, content, target, rfl, hwrite, -, hcanon, -⟩ :=
      Attr.decode_faithful.contentTriple hr.inlines Target.decode_faithful hv htag (by decide) h
    rw [Inline.toJson, inlinesToJson_eq]
    exact ⟨hwrite, by simpa [Inline.lists] using hcanon⟩
  · obtain ⟨content, rfl, hwrite, hcanon⟩ := hr.blocks.content hv htag (by decide) h
    rw [Inline.toJson, blocksToJson_eq]
    exact ⟨hwrite, by simpa [Inline.lists] using hcanon⟩
  · obtain ⟨attr, content, rfl, hwrite, -, hcanon⟩ :=
      Attr.decode_faithful.contentPair hr.inlines hv htag (by decide) h
    rw [Inline.toJson, inlinesToJson_eq]
    exact ⟨hwrite, by simpa [Inline.lists] using hcanon⟩
  · cases h

theorem Inline.decode_faithful :
    Faithful .value (Inline.decode r) Inline.toJson Inline.Canonical := fun v x hv h => by
  obtain ⟨⟨tag, c⟩, htag, h⟩ := Decoded.bind_eq_ok.mp h
  rw [Inline.canonical_iff]
  dsimp only at h
  split at h
  · rename_i style hstyle
    obtain rfl := Style.tag_of_ofTag? hstyle
    obtain ⟨content, rfl, hwrite, hcanon⟩ := hr.inlines.content hv htag style.tag_not_bare h
    rw [Inline.toJson, inlinesToJson_eq]
    exact ⟨hwrite, by simpa [Inline.lists] using hcanon⟩
  · exact Inline.decodeTagged_faithful hr hv htag h

theorem table_faithful {what tag : String} {v : Json} {c : Option Json} {x : Block}
    (hv : v.WellFormed) (htag : asTagged what v = .ok (tag, c)) (hplace : tag = "Table")
    (h : Block.decodeTagged r tag c = .ok x) :
    x.toJson = normal .value v ∧ x.WellShaped ∧ ∀ l ∈ x.lists, l.Canonical := by
  subst hplace
  obtain ⟨w, hc, h⟩ := Decoded.bind_eq_ok.mp h
  obtain ⟨⟨a, b, d, e, f, g⟩, htuple, h⟩ := Decoded.bind_eq_ok.mp h
  obtain ⟨attr, hattr, h⟩ := Decoded.bind_eq_ok.mp h
  obtain ⟨caption, hcaption, h⟩ := Decoded.bind_eq_ok.mp h
  obtain ⟨ds, hds, h⟩ := Decoded.bind_eq_ok.mp h
  obtain ⟨columns, hcolumns, h⟩ := Decoded.bind_eq_ok.mp h
  obtain ⟨head, hhead, h⟩ := Decoded.bind_eq_ok.mp h
  obtain ⟨fs, hfs, h⟩ := Decoded.bind_eq_ok.mp h
  obtain ⟨bodies, hbodies, h⟩ := Decoded.bind_eq_ok.mp h
  obtain ⟨foot, hfoot, h⟩ := Decoded.bind_eq_ok.mp h
  cases h
  obtain ⟨hwf, hnormal⟩ := normal_of_contentOf .value hv htag hc (by decide)
  obtain ⟨ha, hb, hd, he, hf, hg, hnormal'⟩ := normal_of_asSextuple hwf htuple
  have h₁ := (Attr.decode_faithful ha hattr).1
  obtain ⟨h₂, hlong, hc₂⟩ := Caption.decode_faithful hr hb hcaption
  obtain ⟨h₃, hfinite⟩ : array (columns.map Column.toJson) = _ ∧ _ :=
    Column.decode_faithful.array _ hd (Decoded.bind_eq_ok.mpr ⟨ds, hds, hcolumns⟩)
  obtain ⟨h₄, hc₄⟩ := TableEnd.decode_faithful hr _ he hhead
  obtain ⟨h₅, hc₅⟩ : array (bodies.map TableBody.toJson) = _ ∧ _ :=
    (TableBody.decode_faithful hr).array _ hf (Decoded.bind_eq_ok.mpr ⟨fs, hfs, hbodies⟩)
  obtain ⟨h₆, hc₆⟩ := TableEnd.decode_faithful hr _ hg hfoot
  rw [hnormal, hnormal', Block.toJson, tableBodiesToJson_eq, h₁, h₂, h₃, h₄, h₅, h₆]
  refine ⟨rfl, ⟨hlong, hfinite⟩, ?_⟩
  simp only [Block.lists, List.forall_mem_append]
  exact ⟨⟨⟨hc₂, hc₄⟩, List.forall_mem_flatMap.mpr hc₅⟩, hc₆⟩

theorem Block.decode_faithful :
    Faithful .value (Block.decode r) Block.toJson Block.Canonical := fun v x hv h => by
  obtain ⟨⟨tag, c⟩, htag, h⟩ := Decoded.bind_eq_ok.mp h
  rw [Block.canonical_iff]
  have hx : Block.decodeTagged r tag c = .ok x := h
  dsimp only at h
  unfold Block.decodeTagged at h
  split at h
  · obtain ⟨content, rfl, hwrite, hcanon⟩ := hr.inlines.content hv htag (by decide) h
    rw [Block.toJson, inlinesToJson_eq]
    exact ⟨hwrite, trivial, by simpa [Block.lists] using hcanon⟩
  · obtain ⟨content, rfl, hwrite, hcanon⟩ := hr.inlines.content hv htag (by decide) h
    rw [Block.toJson, inlinesToJson_eq]
    exact ⟨hwrite, trivial, by simpa [Block.lists] using hcanon⟩
  · obtain ⟨w, hc, h⟩ := Decoded.bind_eq_ok.mp h
    obtain ⟨vs, hvs, h⟩ := Decoded.bind_eq_ok.mp h
    obtain ⟨lines, hlines, h⟩ := Decoded.bind_eq_ok.mp h
    cases h
    obtain ⟨hwf, hnormal⟩ := normal_of_contentOf .value hv htag hc (by decide)
    obtain ⟨hwrite, hcanon⟩ := hr.inlines.array _ hwf (Decoded.bind_eq_ok.mpr ⟨vs, hvs, hlines⟩)
    rw [hnormal, Block.toJson, linesToJson_eq]
    exact ⟨congrArg _ hwrite, trivial, by simpa [Block.lists] using hcanon⟩
  · obtain ⟨attr, text, rfl, hwrite, -⟩ :=
      Attr.decode_faithful.contentPair (asString_faithful _) hv htag (by decide) h
    exact ⟨hwrite, trivial, by simp [Block.lists]⟩
  · obtain ⟨format, text, rfl, hwrite, -⟩ :=
      (asString_faithful _).contentPair (asString_faithful _) hv htag (by decide) h
    exact ⟨hwrite, trivial, by simp [Block.lists]⟩
  · obtain ⟨content, rfl, hwrite, hcanon⟩ := hr.blocks.content hv htag (by decide) h
    rw [Block.toJson, blocksToJson_eq]
    exact ⟨hwrite, trivial, by simpa [Block.lists] using hcanon⟩
  · obtain ⟨numbering, items, rfl, hwrite, -, hcanon⟩ :=
      Numbering.decode_faithful.contentPair (decodeItems_faithful hr) hv htag (by decide) h
    rw [Block.toJson, itemsToJson_eq]
    exact ⟨hwrite, trivial, by simpa [Block.lists] using hcanon⟩
  · obtain ⟨items, rfl, hwrite, hcanon⟩ :=
      (decodeItems_faithful hr).content hv htag (by decide) h
    rw [Block.toJson, itemsToJson_eq]
    exact ⟨hwrite, trivial, by simpa [Block.lists] using hcanon⟩
  · obtain ⟨w, hc, h⟩ := Decoded.bind_eq_ok.mp h
    obtain ⟨vs, hvs, h⟩ := Decoded.bind_eq_ok.mp h
    obtain ⟨items, hitems, h⟩ := Decoded.bind_eq_ok.mp h
    cases h
    obtain ⟨hwf, hnormal⟩ := normal_of_contentOf .value hv htag hc (by decide)
    obtain ⟨hwrite, hcanon⟩ := (Definition.decode_faithful hr).array _ hwf
      (Decoded.bind_eq_ok.mpr ⟨vs, hvs, hitems⟩)
    rw [hnormal, Block.toJson, definitionsToJson_eq]
    exact ⟨congrArg _ hwrite, trivial, List.forall_mem_flatMap.mpr hcanon⟩
  · obtain ⟨level, attr, content, rfl, hwrite, -, -, hcanon⟩ :=
      (asUnsigned_faithful _).contentTriple Attr.decode_faithful hr.inlines hv htag (by decide) h
    rw [Block.toJson, inlinesToJson_eq]
    exact ⟨hwrite, trivial, by simpa [Block.lists] using hcanon⟩
  · cases h
    exact ⟨(normal_of_asTagged_bare hv htag (by decide)).symm, trivial, by simp [Block.lists]⟩
  · exact table_faithful hr hv htag rfl hx
  · obtain ⟨attr, caption, content, rfl, hwrite, -, ⟨hlong, hc₁⟩, hc₂⟩ :=
      Attr.decode_faithful.contentTriple (Caption.decode_faithful hr) hr.blocks hv htag
        (by decide) h
    rw [Block.toJson, blocksToJson_eq]
    refine ⟨hwrite, hlong, ?_⟩
    exact List.forall_mem_append.mpr ⟨hc₁, List.forall_mem_singleton.mpr hc₂⟩
  · obtain ⟨attr, content, rfl, hwrite, -, hcanon⟩ :=
      Attr.decode_faithful.contentPair hr.blocks hv htag (by decide) h
    rw [Block.toJson, blocksToJson_eq]
    exact ⟨hwrite, trivial, by simpa [Block.lists] using hcanon⟩
  · cases h

omit hr in
/-- **Lists of nodes are undone, however deep they nest.** -/
theorem nodeReaders_faithful : ∀ n : Nat, (nodeReaders n).Faithful
  | 0 => ⟨fun _ _ _ h => (nomatch h), fun _ _ _ h => (nomatch h)⟩
  | n + 1 => by
    have hr := nodeReaders_faithful n
    refine ⟨fun v xs hv h => ?_, fun v xs hv h => ?_⟩
    · obtain ⟨hwrite, hcanon⟩ := (Inline.decode_faithful hr).array "Inlines" hv h
      exact ⟨hwrite, NodeList.canonical_inlines.mpr hcanon⟩
    · obtain ⟨hwrite, hcanon⟩ := (Block.decode_faithful hr).array "Blocks" hv h
      exact ⟨hwrite, NodeList.canonical_blocks.mpr hcanon⟩

/-! ## Metadata and documents -/

omit hr in
theorem inlinesOfJson_faithful : Faithful .value inlinesOfJson
    (fun xs => array (xs.map Inline.toJson)) fun xs => (NodeList.inlines xs).Canonical :=
  fun v => @(nodeReaders_faithful v.depth).inlines v

omit hr in
theorem blocksOfJson_faithful : Faithful .value blocksOfJson
    (fun xs => array (xs.map Block.toJson)) fun xs => (NodeList.blocks xs).Canonical :=
  fun v => @(nodeReaders_faithful v.depth).blocks v

omit hr in
theorem entries_faithful {entry : Json → Decoded MetaValue}
    (hentry : Faithful .value entry MetaValue.toJson MetaValue.Canonical) {what : String} {v : Json}
    {members : List (String × Json)} {entries : List (String × MetaValue)} (hv : v.WellFormed)
    (hmembers : asMap what v = .ok members)
    (h : (members.mapM fun (k, v) => do
      let v ← entry v
      Except.ok (k, v)) = .ok entries) :
    Json.ofMembers (metaEntriesToJson entries) = normal .entries v ∧
      (MetaValue.map entries).Canonical := by
  rw [asMap_eq_ok hmembers] at hv ⊢
  obtain ⟨hasc, hwf⟩ := Json.wellFormed_object.mp hv
  have hread := Decoded.mapM_eq_ok.mp h
  have hall : (entries.map fun e => (e.1, e.2.toJson)) =
      members.map (fun m => (m.1, normal .value m.2)) ∧ ∀ e ∈ entries, e.2.Canonical := by
    clear h hasc hv hmembers
    induction hread with
    | nil => simp
    | @cons m e _ _ hm _ ih =>
      obtain ⟨w, hw, he⟩ := Decoded.bind_eq_ok.mp hm
      cases he
      obtain ⟨hwrite, hcanon⟩ := hentry (hwf m List.mem_cons_self) hw
      obtain ⟨hwrites, hcanons⟩ := ih fun m hm => hwf m (List.mem_cons_of_mem _ hm)
      rw [List.map_cons, List.map_cons, hwrite, hwrites]
      exact ⟨rfl, List.forall_mem_cons.mpr ⟨hcanon, hcanons⟩⟩
  have hkeys : entries.map Prod.fst = members.map Prod.fst := by
    have := congrArg (List.map Prod.fst) hall.1
    simpa [Function.comp_def] using this
  have hentries : Json.Ascending entries := by
    have := List.pairwise_map.mpr hasc
    rw [← hkeys] at this
    exact List.pairwise_map.mp this
  refine ⟨?_, MetaValue.canonical_map.mpr ⟨hentries, hall.2⟩⟩
  rw [ofMembers_metaEntriesToJson hentries, hall.1, normal, Place.ofMember,
    Json.normalMembers_entries]

omit hr in
/-- **Metadata values are undone, however deep they nest.** -/
theorem metaReader_faithful : ∀ n : Nat,
    Faithful .value (metaReader n) MetaValue.toJson MetaValue.Canonical
  | 0 => fun _ _ _ h => nomatch h
  | n + 1 => fun v x hv h => by
    have ih := metaReader_faithful n
    obtain ⟨⟨tag, c⟩, htag, h⟩ := Decoded.bind_eq_ok.mp h
    dsimp only at h
    split at h
    · obtain ⟨w, hc, h⟩ := Decoded.bind_eq_ok.mp h
      obtain ⟨text, htext, rfl⟩ := Decoded.map_eq_ok.mp h
      obtain ⟨hwf, hnormal⟩ := normal_of_contentOf .value hv htag hc (by decide)
      rw [hnormal, asString_eq_ok htext]
      exact ⟨rfl, trivial, by simp [MetaValue.lists]⟩
    · obtain ⟨w, hc, h⟩ := Decoded.bind_eq_ok.mp h
      obtain ⟨b, hb, rfl⟩ := Decoded.map_eq_ok.mp h
      obtain ⟨hwf, hnormal⟩ := normal_of_contentOf .value hv htag hc (by decide)
      rw [hnormal, asBool_eq_ok hb]
      exact ⟨rfl, trivial, by simp [MetaValue.lists]⟩
    · obtain ⟨w, hc, h⟩ := Decoded.bind_eq_ok.mp h
      obtain ⟨content, hcontent, rfl⟩ := Decoded.map_eq_ok.mp h
      obtain ⟨hwf, hnormal⟩ := normal_of_contentOf .value hv htag hc (by decide)
      obtain ⟨hwrite, hcanon⟩ := inlinesOfJson_faithful hwf hcontent
      rw [hnormal, MetaValue.toJson, inlinesToJson_eq]
      exact ⟨congrArg _ hwrite, MetaValue.canonical_inlines.mpr hcanon⟩
    · obtain ⟨w, hc, h⟩ := Decoded.bind_eq_ok.mp h
      obtain ⟨content, hcontent, rfl⟩ := Decoded.map_eq_ok.mp h
      obtain ⟨hwf, hnormal⟩ := normal_of_contentOf .value hv htag hc (by decide)
      obtain ⟨hwrite, hcanon⟩ := blocksOfJson_faithful hwf hcontent
      rw [hnormal, MetaValue.toJson, blocksToJson_eq]
      exact ⟨congrArg _ hwrite, MetaValue.canonical_blocks.mpr hcanon⟩
    · obtain ⟨w, hc, h⟩ := Decoded.bind_eq_ok.mp h
      obtain ⟨vs, hvs, h⟩ := Decoded.bind_eq_ok.mp h
      obtain ⟨items, hitems, rfl⟩ := Decoded.map_eq_ok.mp h
      obtain ⟨hwf, hnormal⟩ := normal_of_contentOf .value hv htag hc (by decide)
      obtain ⟨hwrite, hcanon⟩ := ih.array _ hwf (Decoded.bind_eq_ok.mpr ⟨vs, hvs, hitems⟩)
      rw [hnormal, MetaValue.toJson, metaItemsToJson_eq]
      exact ⟨congrArg _ hwrite, MetaValue.canonical_list.mpr hcanon⟩
    · obtain ⟨w, hc, h⟩ := Decoded.bind_eq_ok.mp h
      obtain ⟨members, hmembers, h⟩ := Decoded.bind_eq_ok.mp h
      obtain ⟨entries, hentries, rfl⟩ := Decoded.map_eq_ok.mp h
      obtain ⟨hwf, hnormal⟩ := normal_of_contentOf .entries hv htag hc (by decide)
      obtain ⟨hwrite, hcanon⟩ := entries_faithful ih hwf hmembers hentries
      rw [hnormal, MetaValue.toJson]
      exact ⟨congrArg _ hwrite, hcanon⟩
    · cases h

omit hr in
theorem metaOfJson_faithful :
    Faithful .value metaOfJson MetaValue.toJson MetaValue.Canonical :=
  fun v => @metaReader_faithful v.depth v

omit hr in
theorem decodeVersion_faithful {v : Option Json} {version : List UInt64}
    (hv : ∀ w ∈ v, w.WellFormed) (h : decodeVersion v = .ok version) :
    array (version.map fun n => number (.integer n.toNat)) =
      (v.map (normal .value)).getD Json.defaultVersion := by
  cases v with
  | none =>
    cases h
    rfl
  | some w => exact ((asUnsigned_faithful .versionNumbers).array _ (hv w rfl) h).1

omit hr in
theorem Document.ofJson_eq_ok {v : Json} {d : Document} (h : Document.ofJson v = .ok d) :
    ∃ members b, v = object members ∧
      decodeVersion (Json.find? "pandoc-api-version" members) = .ok d.apiVersion ∧
      (∀ w ∈ Json.find? "meta" members, decodeMetadata w = .ok d.metadata) ∧
      (Json.find? "meta" members = none → d.metadata = []) ∧
      Json.find? "blocks" members = some b ∧ blocksOfJson b = .ok d.blocks := by
  obtain ⟨members, hmembers, h⟩ := Decoded.bind_eq_ok.mp h
  obtain ⟨version, hversion, h⟩ := Decoded.bind_eq_ok.mp h
  dsimp only at h
  split at h
  · rename_i hmeta
    obtain ⟨metadata, hnone, h⟩ := Decoded.bind_eq_ok.mp h
    obtain ⟨b, hb, h⟩ := Decoded.bind_eq_ok.mp h
    obtain ⟨blocks, hblocks, h⟩ := Decoded.bind_eq_ok.mp h
    cases hnone
    cases h
    exact ⟨members, b, asObject_eq_ok hmembers, hversion, by simp [hmeta], fun _ => rfl,
      member_eq_ok hb, hblocks⟩
  · rename_i w hmeta
    obtain ⟨metadata, hw, h⟩ := Decoded.bind_eq_ok.mp h
    obtain ⟨b, hb, h⟩ := Decoded.bind_eq_ok.mp h
    obtain ⟨blocks, hblocks, h⟩ := Decoded.bind_eq_ok.mp h
    cases h
    exact ⟨members, b, asObject_eq_ok hmembers, hversion, by simpa [hmeta] using hw,
      by simp [hmeta], member_eq_ok hb, hblocks⟩

omit hr in
/-- **What is read as a document is canonical and is written as its normal form.** -/
theorem Document.toJson_of_ofJson {v : Json} {d : Document} (hv : v.WellFormed)
    (h : Document.ofJson v = .ok d) : d.toJson = v.normalDocument ∧ d.Canonical := by
  obtain ⟨members, b, rfl, hversion, hsome, hnone, hb, hblocks⟩ := Document.ofJson_eq_ok h
  have h₁ := decodeVersion_faithful (fun w hw => hv.find? hw) hversion
  obtain ⟨h₂, hcanon₂⟩ : Json.ofMembers (metaEntriesToJson d.metadata) =
      ((Json.find? "meta" members).map (normal .entries)).getD (object []) ∧
        (MetaValue.map d.metadata).Canonical := by
    cases hmeta : Json.find? "meta" members with
    | none =>
      rw [hnone hmeta]
      exact ⟨rfl, MetaValue.canonical_map.mpr ⟨List.Pairwise.nil, by simp⟩⟩
    | some w =>
      obtain ⟨ms, hms, hread⟩ := Decoded.bind_eq_ok.mp (hsome w hmeta)
      exact entries_faithful metaOfJson_faithful (hv.find? hmeta) hms hread
  obtain ⟨h₃, hcanon₃⟩ : array (d.blocks.map Block.toJson) = _ ∧ _ :=
    blocksOfJson_faithful (hv.find? hb) hblocks
  rw [Json.normalDocument_object (Json.wellFormed_object.mp hv).1 hb, Document.toJson,
    blocksToJson_eq, h₁, h₂, h₃]
  exact ⟨rfl, Document.canonical_iff.mpr ⟨hcanon₂, hcanon₃⟩⟩

end DeckFilter
