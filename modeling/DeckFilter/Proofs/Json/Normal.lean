import DeckFilter.Document.Encode
import DeckFilter.Proofs.Json.WellFormed

/-!
# The normal form of a document's JSON

Of the many values that are read as one document, the normal form is the one that is written. It
differs from the others in four ways only: members that are not known are gone, tags that go without
content have none, the version and the metadata of a document are there, and column widths are
binary64 numbers.

* `Json.Place`: which members of an object are known depends on where it stands;
* `Json.normal`, `Json.normalDocument`: the normal form of a value at a place, and of a document;
* `Json.Normal`, `Json.NormalDocument`: there is nothing to change;
* `Json.normal_eq_of_normal`, `Json.normalDocument_eq_iff`: what is normal stays as it is;
* `Json.normal_of_bare`, `Json.normal_of_content`, `Json.normal_citation`,
  `Json.normalDocument_object`: objects in normal form;
* `Json.depth_normal_le`: a normal form nests no deeper.
-/

namespace DeckFilter

namespace Json

/-! ## Places -/

/-- Where a value stands: most places are alike, but metadata entries, the parts of a citation and
column widths have rules of their own. -/
inductive Place where
  | value
  | entries
  | width
  | cite
  | citations
  | citation
  deriving DecidableEq, Repr

/-- The tags that go without content. -/
def bareTags : List String :=
  ["Space", "SoftBreak", "LineBreak", "HorizontalRule", "ColWidthDefault", "SingleQuote",
    "DoubleQuote", "InlineMath", "DisplayMath", "DefaultStyle", "Example", "Decimal", "LowerRoman",
    "UpperRoman", "LowerAlpha", "UpperAlpha", "DefaultDelim", "Period", "OneParen", "TwoParens",
    "AlignLeft", "AlignRight", "AlignCenter", "AlignDefault", "AuthorInText", "SuppressAuthor",
    "NormalCitation"]

/-- The members of a citation. -/
def citationKeys : List String :=
  ["citationHash", "citationId", "citationMode", "citationNoteNum", "citationPrefix",
    "citationSuffix"]

/-- The place of the content of a tag. -/
def contentPlace (tag : String) : Place :=
  if tag = "MetaMap" then .entries
  else if tag = "ColWidth" then .width
  else if tag = "Cite" then .cite
  else .value

namespace Place

/-- The place of the first item of an array. -/
def first : Place → Place
  | cite => citations
  | citations => citation
  | _ => value

/-- The place of the other items of an array. -/
def rest : Place → Place
  | citations => citation
  | _ => value

/-- The place of a member of a tagged object, if it is known. -/
def ofTagged (tag key : String) : Option Place :=
  if key = "t" then some value
  else if key = "c" ∧ tag ∉ bareTags then some (contentPlace tag)
  else none

/-- The place of a member of a citation, if it is known. -/
def ofCitation (key : String) : Option Place := if key ∈ citationKeys then some value else none

/-- The place of a member of a document, if it is known. -/
def ofDocument (key : String) : Option Place :=
  if key = "meta" then some entries
  else if key = "blocks" ∨ key = "pandoc-api-version" then some value
  else none

/-- The place of a member of an object, if it is known: all metadata entries are, and else it
depends on the tag. -/
def ofMember (p : Place) (members : List (String × Json)) : String → Option Place :=
  match p with
  | entries => fun _ => some value
  | citation => ofCitation
  | _ =>
    match find? "t" members with
    | some (string tag) => ofTagged tag
    | _ => fun _ => none

/-- A number at a place: widths are binary64 numbers. -/
def number : Place → Number → Number
  | width, .integer n => .double (Double.ofInt n)
  | _, n => n

end Place

/-! ## Normal forms -/

mutual

/-- The normal form of a value at a place. -/
def normal (p : Place) : Json → Json
  | number n => number (p.number n)
  | array items => array (normalItems p.first p.rest items)
  | object members => object (normalMembers (p.ofMember members) members)
  | v => v

/-- The normal forms of the items of an array, the first at another place than the others. -/
def normalItems (first rest : Place) : List Json → List Json
  | [] => []
  | v :: vs => normal first v :: normalItems rest rest vs

/-- The members that are known, in normal form. -/
def normalMembers (known : String → Option Place) :
    List (String × Json) → List (String × Json)
  | [] => []
  | (k, v) :: ms =>
    match known k with
    | some p => (k, normal p v) :: normalMembers known ms
    | none => normalMembers known ms

end

/-- Put a member in its place unless there is one of the same key. -/
def insertMissing (key : String) (value : Json) (members : List (String × Json)) :
    List (String × Json) :=
  if (find? key members).isSome then members else insert key value members

/-- The version of a document that does not name one, as it is written. -/
def defaultVersion : Json :=
  array [number (.integer 1), number (.integer 23), number (.integer 1)]

/-- The normal form of a document. -/
def normalDocument : Json → Json
  | object members =>
    object (insertMissing "meta" (object []) (insertMissing "pandoc-api-version" defaultVersion
      (normalMembers Place.ofDocument members)))
  | v => v

/-! ## Values in normal form -/

mutual

/-- All members are known, no tag has content that goes without, and no width is an integer. -/
def Normal (p : Place) : Json → Prop
  | number n => p.number n = n
  | array items => ItemsNormal p.first p.rest items
  | object members => MembersNormal (p.ofMember members) members
  | _ => True

/-- The items of an array are in normal form. -/
def ItemsNormal (first rest : Place) : List Json → Prop
  | [] => True
  | v :: vs => Normal first v ∧ ItemsNormal rest rest vs

/-- The members of an object are known and in normal form. -/
def MembersNormal (known : String → Option Place) : List (String × Json) → Prop
  | [] => True
  | (k, v) :: ms =>
    (match known k with
      | some p => Normal p v
      | none => False) ∧ MembersNormal known ms

end

/-- All three members of a document are there, and no others, and they are in normal form. -/
def NormalDocument : Json → Prop
  | object members => MembersNormal Place.ofDocument members ∧
      (find? "meta" members).isSome ∧ (find? "pandoc-api-version" members).isSome
  | _ => True

mutual

/-- **A value in normal form is its own normal form.** -/
theorem normal_eq_of_normal (p : Place) : ∀ v : Json, Normal p v → normal p v = v
  | array items, h => by rw [normal, normalItems_eq_of_normal _ _ items h]
  | object members, h => by rw [normal, normalMembers_eq_of_normal _ members h]
  | number n, h => by
    have hn : p.number n = n := h
    rw [normal, hn]
  | null, _ | bool _, _ | string _, _ => rfl

theorem normalItems_eq_of_normal : ∀ (first rest : Place) (items : List Json),
    ItemsNormal first rest items → normalItems first rest items = items
  | _, _, [], _ => rfl
  | first, rest, v :: vs, h => by
    obtain ⟨hv, hvs⟩ := h
    rw [normalItems, normal_eq_of_normal first v hv, normalItems_eq_of_normal rest rest vs hvs]

theorem normalMembers_eq_of_normal : ∀ (known : String → Option Place)
    (members : List (String × Json)), MembersNormal known members →
      normalMembers known members = members
  | _, [], _ => rfl
  | known, (k, v) :: ms, h => by
    obtain ⟨hv, hms⟩ := h
    cases hp : known k with
    | some p =>
      rw [hp] at hv
      simp only [normalMembers, hp, normal_eq_of_normal p v hv,
        normalMembers_eq_of_normal known ms hms]
    | none =>
      rw [hp] at hv
      exact hv.elim

end

theorem length_normalMembers_le (known : String → Option Place) :
    ∀ members : List (String × Json), (normalMembers known members).length ≤ members.length
  | [] => Nat.le_refl _
  | (k, v) :: ms => by
    have := length_normalMembers_le known ms
    rw [normalMembers]
    split <;> simp only [List.length_cons] <;> omega

mutual

/-- **Only a value in normal form is its own normal form.** -/
theorem normal_of_normal_eq (p : Place) : ∀ v : Json, normal p v = v → Normal p v
  | array items, h => itemsNormal_of_normalItems_eq _ _ items (array.inj h)
  | object members, h => membersNormal_of_normalMembers_eq _ members (object.inj h)
  | number _, h => number.inj h
  | null, _ | bool _, _ | string _, _ => trivial

theorem itemsNormal_of_normalItems_eq : ∀ (first rest : Place) (items : List Json),
    normalItems first rest items = items → ItemsNormal first rest items
  | _, _, [], _ => trivial
  | first, rest, v :: vs, h => by
    obtain ⟨hv, hvs⟩ := List.cons.inj h
    exact ⟨normal_of_normal_eq first v hv, itemsNormal_of_normalItems_eq rest rest vs hvs⟩

theorem membersNormal_of_normalMembers_eq : ∀ (known : String → Option Place)
    (members : List (String × Json)), normalMembers known members = members →
      MembersNormal known members
  | _, [], _ => trivial
  | known, (k, v) :: ms, h => by
    rw [normalMembers] at h
    rw [MembersNormal]
    cases hp : known k with
    | some p =>
      rw [hp] at h
      obtain ⟨hv, hms⟩ := List.cons.inj h
      exact ⟨normal_of_normal_eq p v (Prod.mk.inj hv).2,
        membersNormal_of_normalMembers_eq known ms hms⟩
    | none =>
      -- A member has gone, so the two lists cannot be equally long.
      rw [hp] at h
      have h := congrArg List.length h
      have := length_normalMembers_le known ms
      simp only [List.length_cons] at h
      omega

end

/-! ## Members of normal forms -/

theorem find?_normalMembers (known : String → Option Place) (k : String) :
    ∀ members : List (String × Json), find? k (normalMembers known members) =
      (known k).bind fun p => (find? k members).map (normal p)
  | [] => by cases known k <;> rfl
  | (k', v) :: ms => by
    have ih := find?_normalMembers known k ms
    by_cases hk : k' = k
    · subst hk
      cases h : known k' with
      | some p => simp [normalMembers, find?, h]
      | none => rw [normalMembers, h, ih, h]; rfl
    · cases h : known k' with
      | some p => simp only [normalMembers, find?, h, hk, if_false, ih]
      | none => simp only [normalMembers, find?, h, hk, if_false, ih]

theorem mem_normalMembers {known : String → Option Place} {m : String × Json} :
    ∀ {members : List (String × Json)}, m ∈ normalMembers known members →
      ∃ n ∈ members, ∃ p, known n.1 = some p ∧ m = (n.1, normal p n.2)
  | (k, v) :: ms, h => by
    rw [normalMembers] at h
    cases hk : known k with
    | some p =>
      rw [hk] at h
      rcases List.mem_cons.mp h with rfl | h
      · exact ⟨(k, v), List.mem_cons_self, p, hk, rfl⟩
      · obtain ⟨n, hn, hm⟩ := mem_normalMembers h
        exact ⟨n, List.mem_cons_of_mem _ hn, hm⟩
    | none =>
      rw [hk] at h
      obtain ⟨n, hn, hm⟩ := mem_normalMembers h
      exact ⟨n, List.mem_cons_of_mem _ hn, hm⟩

theorem Ascending.normalMembers (known : String → Option Place) :
    ∀ {members : List (String × Json)}, Ascending members → Ascending (normalMembers known members)
  | [], _ => List.Pairwise.nil
  | (k, v) :: ms, h => by
    obtain ⟨hk, hms⟩ := List.pairwise_cons.mp h
    rw [Json.normalMembers]
    split
    · refine List.pairwise_cons.mpr ⟨fun m hm => ?_, Ascending.normalMembers known hms⟩
      obtain ⟨n, hn, p, -, rfl⟩ := mem_normalMembers hm
      exact hk n hn
    · exact Ascending.normalMembers known hms

theorem normalMembers_entries (members : List (String × Json)) :
    normalMembers (fun _ => some .value) members =
      members.map fun m => (m.1, normal .value m.2) := by
  induction members with
  | nil => rfl
  | cons m ms ih => rw [normalMembers, ih, List.map_cons]

theorem normalItems_self (p : Place) (items : List Json) :
    normalItems p p items = items.map (normal p) := by
  induction items with
  | nil => rfl
  | cons v vs ih => rw [normalItems, ih, List.map_cons]

theorem normal_array (items : List Json) :
    normal .value (array items) = array (items.map (normal .value)) :=
  congrArg array (normalItems_self .value items)

theorem Place.ofDocument_meta : Place.ofDocument "meta" = some .entries := rfl

theorem Place.ofDocument_blocks : Place.ofDocument "blocks" = some .value := rfl

theorem Place.ofDocument_version : Place.ofDocument "pandoc-api-version" = some .value := rfl

theorem Place.ofDocument_eq_none {k : String} (hmeta : "meta" ≠ k) (hblocks : "blocks" ≠ k)
    (hversion : "pandoc-api-version" ≠ k) : Place.ofDocument k = none := by
  rw [Place.ofDocument, if_neg hmeta.symm, if_neg (not_or.mpr ⟨hblocks.symm, hversion.symm⟩)]

theorem find?_insertMissing (k : String) (v : Json) (j : String) (members : List (String × Json)) :
    find? j (insertMissing k v members) =
      if k = j then some ((find? j members).getD v) else find? j members := by
  rw [insertMissing]
  split_ifs with hm hk hk
  · subst hk
    obtain ⟨w, hw⟩ := Option.isSome_iff_exists.mp hm
    rw [hw, Option.getD_some]
  · rfl
  · subst hk
    rw [find?_insert, if_pos rfl, Option.not_isSome_iff_eq_none.mp hm, Option.getD_none]
  · rw [find?_insert, if_neg hk]

theorem Ascending.insertMissing (k : String) (v : Json) {members : List (String × Json)}
    (h : Ascending members) : Ascending (insertMissing k v members) := by
  rw [Json.insertMissing]
  split_ifs
  · exact h
  · exact h.insert k v

theorem insertMissing_of_isSome {k : String} {v : Json} {members : List (String × Json)}
    (h : (find? k members).isSome) : insertMissing k v members = members := by
  rw [insertMissing, if_pos h]

/-- **A document is its own normal form just when it is in normal form.** -/
theorem normalDocument_eq_iff : ∀ {v : Json}, v.normalDocument = v ↔ v.NormalDocument
  | object members => by
    have hmeta := find?_normalMembers Place.ofDocument "meta" members
    have hversion := find?_normalMembers Place.ofDocument "pandoc-api-version" members
    constructor
    · intro h
      have h := object.inj h
      have h₁ : (find? "meta" members).isSome := by
        rw [← h, find?_insertMissing, if_pos rfl, Option.isSome_some]
      have h₂ : (find? "pandoc-api-version" members).isSome := by
        rw [← h, find?_insertMissing, if_neg (by decide), find?_insertMissing, if_pos rfl,
          Option.isSome_some]
      refine ⟨membersNormal_of_normalMembers_eq _ members ?_, h₁, h₂⟩
      rw [insertMissing_of_isSome, insertMissing_of_isSome] at h
      · exact h
      · rw [hversion, Place.ofDocument_version, Option.bind_some, Option.isSome_map]
        exact h₂
      · rw [find?_insertMissing, if_neg (by decide), hmeta, Place.ofDocument_meta,
          Option.bind_some, Option.isSome_map]
        exact h₁
    · rintro ⟨hms, h₁, h₂⟩
      rw [normalDocument, normalMembers_eq_of_normal _ members hms, insertMissing_of_isSome h₂,
        insertMissing_of_isSome h₁]
  | null | bool _ | number _ | string _ | array _ => ⟨fun _ => trivial, fun _ => rfl⟩

/-! ## Objects in normal form -/

theorem ascending_tagged (c t : Json) : Ascending [("c", c), ("t", t)] :=
  ascending_pair c t (by decide)

theorem normal_of_tag {members : List (String × Json)} {tag : String}
    (ht : find? "t" members = some (string tag)) :
    normal .value (object members) = object (normalMembers (Place.ofTagged tag) members) := by
  rw [normal]
  simp only [Place.ofMember, ht]

/-- **The normal form of a tag that goes without content.** -/
theorem normal_of_bare {members : List (String × Json)} {tag : String} (h : Ascending members)
    (ht : find? "t" members = some (string tag)) (htag : tag ∈ bareTags) :
    normal .value (object members) = bare tag := by
  rw [normal_of_tag ht]
  refine congrArg object (Ascending.ext (h.normalMembers _) (List.pairwise_singleton _ _)
    fun k => ?_)
  rw [find?_normalMembers]
  by_cases hk : "t" = k
  · subst hk
    simp [Place.ofTagged, find?, ht, normal]
  · have hnone : Place.ofTagged tag k = none := by
      simp [Place.ofTagged, Ne.symm hk, htag]
    simp [hnone, find?, hk]

/-- **The normal form of a tag with its content.** -/
theorem normal_of_content {members : List (String × Json)} {tag : String} {c : Json}
    (h : Ascending members) (ht : find? "t" members = some (string tag)) (htag : tag ∉ bareTags)
    (hc : find? "c" members = some c) :
    normal .value (object members) = tagged tag (normal (contentPlace tag) c) := by
  rw [normal_of_tag ht]
  refine congrArg object (Ascending.ext (h.normalMembers _) (ascending_tagged _ _) fun k => ?_)
  rw [find?_normalMembers]
  by_cases hk : "t" = k
  · subst hk
    simp [Place.ofTagged, find?, ht, normal]
  · by_cases hk' : "c" = k
    · subst hk'
      simp [Place.ofTagged, find?, hc, htag]
    · have hnone : Place.ofTagged tag k = none := by
        simp [Place.ofTagged, Ne.symm hk, Ne.symm hk']
      simp [hnone, find?, hk, hk']

theorem ascending_citation (a b c d e f : Json) : Ascending [("citationHash", a), ("citationId", b),
    ("citationMode", c), ("citationNoteNum", d), ("citationPrefix", e), ("citationSuffix", f)] := by
  simp only [Ascending, List.pairwise_cons, List.mem_cons, List.not_mem_nil, or_false,
    forall_eq_or_imp, forall_eq, IsEmpty.forall_iff, implies_true, List.Pairwise.nil, and_true]
  decide

/-- **The normal form of a citation** has its six members. -/
theorem normal_citation {members : List (String × Json)} {a b c d e f : Json}
    (h : Ascending members) (ha : find? "citationHash" members = some a)
    (hb : find? "citationId" members = some b) (hc : find? "citationMode" members = some c)
    (hd : find? "citationNoteNum" members = some d) (he : find? "citationPrefix" members = some e)
    (hf : find? "citationSuffix" members = some f) :
    normal .citation (object members) =
      object [("citationHash", normal .value a), ("citationId", normal .value b),
        ("citationMode", normal .value c), ("citationNoteNum", normal .value d),
        ("citationPrefix", normal .value e), ("citationSuffix", normal .value f)] := by
  refine congrArg object (Ascending.ext (h.normalMembers _) (ascending_citation _ _ _ _ _ _)
    fun k => ?_)
  rw [find?_normalMembers, Place.ofMember, Place.ofCitation]
  by_cases hk : k ∈ citationKeys
  · rw [if_pos hk]
    simp only [citationKeys, List.mem_cons, List.not_mem_nil, or_false] at hk
    rcases hk with rfl | rfl | rfl | rfl | rfl | rfl <;>
      simp only [ha, hb, hc, hd, he, hf, Option.bind_some, Option.map_some] <;> rfl
  · rw [if_neg hk]
    refine (find?_eq_none fun m hm e => hk ?_).symm
    rw [← e]
    exact List.mem_map_of_mem (f := Prod.fst) hm

theorem ascending_document (b m v : Json) :
    Ascending [("blocks", b), ("meta", m), ("pandoc-api-version", v)] :=
  ascending_triple b m v (by decide) (by decide)

/-- **The normal form of a document** has three members. -/
theorem normalDocument_object {members : List (String × Json)} {b : Json} (h : Ascending members)
    (hb : find? "blocks" members = some b) :
    normalDocument (object members) = object [("blocks", normal .value b),
      ("meta", ((find? "meta" members).map (normal .entries)).getD (object [])),
      ("pandoc-api-version",
        ((find? "pandoc-api-version" members).map (normal .value)).getD defaultVersion)] := by
  refine congrArg object (Ascending.ext
    (((h.normalMembers _).insertMissing _ _).insertMissing _ _) (ascending_document _ _ _)
    fun k => ?_)
  rw [find?_insertMissing, find?_insertMissing, find?_normalMembers]
  by_cases hk : "meta" = k
  · subst hk
    rw [Place.ofDocument_meta, if_pos rfl, if_neg (by decide)]
    rfl
  by_cases hk' : "pandoc-api-version" = k
  · subst hk'
    rw [Place.ofDocument_version, if_neg (by decide), if_pos rfl]
    rfl
  rw [if_neg hk, if_neg hk']
  by_cases hk'' : "blocks" = k
  · subst hk''
    rw [Place.ofDocument_blocks, Option.bind_some, hb]
    rfl
  · rw [Place.ofDocument_eq_none hk hk'' hk']
    rw [find?, if_neg hk'', find?, if_neg hk, find?, if_neg hk']
    rfl

/-! ## Depth -/

mutual

/-- **A normal form nests no deeper than the value.** -/
theorem depth_normal_le (p : Place) : ∀ v : Json, (normal p v).depth ≤ v.depth
  | array items => by
    have := depth_normalItems_le p.first p.rest items
    simp only [normal, depth]
    omega
  | object members => by
    have := depth_normalMembers_le (p.ofMember members) members
    simp only [normal, depth]
    omega
  | null | bool _ | number _ | string _ => Nat.le_refl _

theorem depth_normalItems_le (first rest : Place) : ∀ items : List Json,
    depthItems (normalItems first rest items) ≤ depthItems items
  | [] => Nat.le_refl _
  | v :: vs => by
    have h₁ := depth_normal_le first v
    have h₂ := depth_normalItems_le rest rest vs
    simp only [normalItems, depthItems]
    omega

theorem depth_normalMembers_le (known : String → Option Place) : ∀ members : List (String × Json),
    depthMembers (normalMembers known members) ≤ depthMembers members
  | [] => Nat.le_refl _
  | (k, v) :: ms => by
    have h₂ := depth_normalMembers_le known ms
    rw [normalMembers]
    split
    · rename_i p _
      have h₁ := depth_normal_le p v
      simp only [depthMembers]
      omega
    · simp only [depthMembers]
      omega

end

theorem depthMembers_insert_le (k : String) (v : Json) : ∀ members : List (String × Json),
    depthMembers (insert k v members) ≤ max v.depth (depthMembers members)
  | [] => by simp [insert, depthMembers]
  | (k', v') :: ms => by
    have := depthMembers_insert_le k v ms
    rw [insert]
    split_ifs <;> simp only [depthMembers] <;> omega

theorem depthMembers_insertMissing_le (k : String) (v : Json) (members : List (String × Json)) :
    depthMembers (insertMissing k v members) ≤ max v.depth (depthMembers members) := by
  rw [insertMissing]
  split_ifs
  · exact Nat.le_max_right _ _
  · exact depthMembers_insert_le k v members

/-- **The normal form of a document nests no deeper than the document**, which has an array in
it. -/
theorem depth_normalDocument_le {v : Json} (h : 2 ≤ v.depth) :
    v.normalDocument.depth ≤ v.depth := by
  cases v with
  | object members =>
    have h₁ := depthMembers_insertMissing_le "meta" (object [])
      (insertMissing "pandoc-api-version" defaultVersion (normalMembers Place.ofDocument members))
    have h₂ := depthMembers_insertMissing_le "pandoc-api-version" defaultVersion
      (normalMembers Place.ofDocument members)
    have h₃ := depth_normalMembers_le Place.ofDocument members
    have hversion : defaultVersion.depth = 1 := rfl
    have hmeta : (object []).depth = 1 := rfl
    simp only [normalDocument, depth] at h ⊢
    omega
  | _ => exact Nat.le_refl _

end Json

end DeckFilter
