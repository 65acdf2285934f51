import DeckFilter.Proofs.Document.ReadWritten
import DeckFilter.Proofs.Document.WellFormed
import DeckFilter.Proofs.Document.WriteRead

/-!
# What the reader can produce

The reader produces canonical documents and nodes, and all of these.

* `Inline.Readable`, `Block.Readable`, `Document.Readable`: read of some well-formed value;
* `Inline.readable_iff`, `Block.readable_iff`, `Document.readable_iff`: just the canonical ones are.
-/

namespace DeckFilter

/-- An inline is read of some value. -/
def Inline.Readable (x : Inline) : Prop := ∃ v : Json, v.WellFormed ∧ inlineOfJson v = .ok x

/-- A block is read of some value. -/
def Block.Readable (x : Block) : Prop := ∃ v : Json, v.WellFormed ∧ blockOfJson v = .ok x

/-- A document is read of some value. -/
def Document.Readable (d : Document) : Prop := ∃ v : Json, v.WellFormed ∧ Document.ofJson v = .ok d

theorem Inline.readable_iff {x : Inline} : x.Readable ↔ x.Canonical := by
  constructor
  · rintro ⟨v, hv, h⟩
    exact (Inline.decode_faithful (nodeReaders_faithful _) hv h).2
  · intro h
    exact ⟨x.toJson, x.toJson_wellFormed, inlineOfJson_toJson h⟩

theorem Block.readable_iff {x : Block} : x.Readable ↔ x.Canonical := by
  constructor
  · rintro ⟨v, hv, h⟩
    exact (Block.decode_faithful (nodeReaders_faithful _) hv h).2
  · intro h
    exact ⟨x.toJson, x.toJson_wellFormed, blockOfJson_toJson h⟩

theorem Document.readable_iff {d : Document} : d.Readable ↔ d.Canonical := by
  constructor
  · rintro ⟨v, hv, h⟩
    exact (Document.toJson_of_ofJson hv h).2
  · intro h
    exact ⟨d.toJson, d.toJson_wellFormed, Document.ofJson_toJson h⟩

end DeckFilter
