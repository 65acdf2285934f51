import DeckFilter.Proofs.Document.Nodes
import DeckFilter.Proofs.Document.Traversal

/-!
# What an editor is asked

An editor can keep a record of the nodes it is asked about. It answers as before, so a walk with the
record has the result of the walk without.

* `Editor.recording`: the editor that keeps a record;
* `Document.walk_recording`: its walks.
-/

namespace DeckFilter

variable {σ : Type}

/-- The editor that does what `r` does and keeps a record of the nodes it is asked about. -/
def Editor.recording (r : Editor σ) : Editor (σ × List Node) where
  inline x := fun (s, asked) =>
    let (answer, s') := (r.inline x).run s
    (answer, (s', asked ++ [.inline x]))
  block x := fun (s, asked) =>
    let (answer, s') := (r.block x).run s
    (answer, (s', asked ++ [.block x]))

/-- The second walk is the first one with a record. -/
def Records {α : Type} (a : Walk σ α) (b : Walk (σ × List Node) α) : Prop :=
  ∀ s asked, (b.run (s, asked)).map (fun p => (p.1, p.2.1)) = a.run s

theorem compatible_records : Compatible (@Records σ) where
  pure _ _ _ := rfl
  bind {_ _ a b f g} hab hfg s asked := by
    rw [StateT.run_bind, StateT.run_bind, ← hab s asked]
    cases hb : b.run (s, asked) with
    | none => rfl
    | some p => exact hfg p.1 p.2.1 p.2.2

theorem Editor.recording_inline (r : Editor σ) (x : Inline) :
    Records (ask (r.inline x)) (ask (r.recording.inline x)) := fun _ _ => rfl

theorem Editor.recording_block (r : Editor σ) (x : Block) :
    Records (ask (r.block x)) (ask (r.recording.block x)) := fun _ _ => rfl

theorem walkLists_recording (r : Editor σ) : ∀ n : Nat,
    (∀ xs, Records (walkInlines r n xs) (walkInlines r.recording n xs)) ∧
      ∀ xs, Records (walkBlocks r n xs) (walkBlocks r.recording n xs)
  | 0 => ⟨fun _ _ _ => rfl, fun _ _ _ => rfl⟩
  | n + 1 => by
    obtain ⟨hi, hb⟩ := walkLists_recording r n
    have hR := @compatible_records σ
    refine ⟨fun xs => ?_, fun xs => ?_⟩
    · rw [walkInlines, walkInlines]
      exact spliceM_related hR (fun x => hR.bind (r.recording_inline x) fun _ =>
        hR.mapM (Inline.traverse_related hR hi hb) _) xs
    · rw [walkBlocks, walkBlocks]
      exact spliceM_related hR (fun x => hR.bind (r.recording_block x) fun _ =>
        hR.mapM (Block.traverse_related hR hi hb) _) xs

/-- **A walk with a record has the result of the walk without.** -/
theorem Document.walk_recording (r : Editor σ) (n : Nat) (d : Document) :
    Records (d.walk r n) (d.walk r.recording n) :=
  have ⟨hi, hb⟩ := walkLists_recording r n
  Document.traverse_related compatible_records hi hb d

end DeckFilter
