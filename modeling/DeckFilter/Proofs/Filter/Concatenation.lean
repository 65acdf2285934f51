import DeckFilter.Proofs.Filter.Results

/-!
# Every node is filtered for itself

What stands in a list is filtered as if it stood there alone, whatever was reported before, and its
diagnostics come after those that are there.

* `Setup.filterMetaValue`: a metadata value, filtered alone;
* `Context.joined`: two results in a context;
* `nodes_are_filtered_alone`: lists are filtered piece by piece, and documents value by value.
-/

namespace DeckFilter

namespace Setup

variable (s : Setup)

/-- A metadata value, filtered. -/
def filterMetaValue (v : MetaValue) (ctx : Context) : MetaValue × Context :=
  ((v.traverse (walkInlines s.editor (reach v.height)) (walkBlocks s.editor (reach v.height))).run
    ctx).getD (v, ctx)

theorem walkMetaValue_run (v : MetaValue) (ctx : Context) :
    (v.traverse (walkInlines s.editor (reach v.height))
        (walkBlocks s.editor (reach v.height))).run ctx =
      some (v.mapLists (s.answers ctx.format).inlinesAfter (s.answers ctx.format).blocksAfter,
        ctx.append (s.saidAll ctx.format (v.lists.flatMap (s.answers ctx.format).asked))) := by
  have h := MetaValue.walk_yields (s.editor_steady ctx.format) (s.answers_ends ctx.format) (v := v)
    fun l hl => s.endsWithin_reach ctx.format (v.height_le.mp (Nat.le_refl _) l hl)
  exact s.run_of_yields h rfl

theorem filterMetaValue_eq (v : MetaValue) (ctx : Context) : s.filterMetaValue v ctx =
    (v.mapLists (s.answers ctx.format).inlinesAfter (s.answers ctx.format).blocksAfter,
      ctx.append (s.saidAll ctx.format (v.lists.flatMap (s.answers ctx.format).asked))) := by
  rw [filterMetaValue, walkMetaValue_run, Option.getD_some]

theorem saidAll_entries (format : String) (entries : List (String × MetaValue)) :
    (s.saidAll format ((metaEntriesLists entries).flatMap (s.answers format).asked)).diagnostics =
      entries.flatMap fun e => (s.filterMetaValue e.2 (.start format)).2.diagnostics := by
  rw [metaEntriesLists_eq, List.flatMap_assoc]
  induction entries with
  | nil => rfl
  | cons e entries ih =>
    rw [List.flatMap_cons, List.flatMap_cons, saidAll_append, ← ih, filterMetaValue_eq]
    rfl

end Setup

/-- Two results in a context, one after the other: what is reported comes after what is there. -/
def Context.joined {α : Type} (ctx : Context) (first second : List α × Context) :
    List α × Context :=
  (first.1 ++ second.1,
    ⟨ctx.format, ctx.diagnostics ++ first.2.diagnostics ++ second.2.diagnostics,
      ctx.log ++ first.2.log ++ second.2.log⟩)

theorem Context.joined_append {α : Type} {format : String} (ctx : Context) (xs ys : List α)
    (added added' : Context) :
    ctx.joined (xs, (start format).append added) (ys, (start format).append added') =
      (xs ++ ys, ctx.append (added.append added')) := by
  simp [joined, append, start]

/-- **No state passes from one node to another.** In every context, the walk through two lists after
each other gives the results that the two have alone, from the start of a run in the same format:
their nodes after each other, and their diagnostics after those that are there. A document is its
metadata values filtered alone, and then its blocks. -/
theorem nodes_are_filtered_alone (s : Setup) :
    (∀ (ctx : Context) (a b : List Block),
      (walkBlocks s.editor (Setup.reach (blocksHeight (a ++ b))) (a ++ b)).run ctx =
        some (ctx.joined (s.filterBlocks a (.start ctx.format))
          (s.filterBlocks b (.start ctx.format)))) ∧
    (∀ (ctx : Context) (a b : List Inline),
      (walkInlines s.editor (Setup.reach (inlinesHeight (a ++ b))) (a ++ b)).run ctx =
        some (ctx.joined (s.filterInlines a (.start ctx.format))
          (s.filterInlines b (.start ctx.format)))) ∧
    ∀ (format : String) (d : Document),
      (s.filterDocument format d).1 =
        { d with
          metadata := d.metadata.map fun e => (e.1, (s.filterMetaValue e.2 (.start format)).1)
          blocks := (s.filterBlocks d.blocks (.start format)).1 } ∧
      (s.filterDocument format d).2.format = format ∧
      (s.filterDocument format d).2.diagnostics =
        (d.metadata.flatMap fun e => (s.filterMetaValue e.2 (.start format)).2.diagnostics) ++
          (s.filterBlocks d.blocks (.start format)).2.diagnostics := by
  refine ⟨fun ctx a b => ?_, fun ctx a b => ?_, fun format d => ⟨?_, ?_, ?_⟩⟩
  · rw [s.walkBlocks_run _ (Nat.le_refl _), Answers.blocksAfter_append (s.answers_ends _),
      Answers.asked_blocks_append (s.answers_ends _), s.saidAll_append, s.filterBlocks_eq,
      s.filterBlocks_eq]
    exact congrArg some (ctx.joined_append _ _ _ _).symm
  · rw [s.walkInlines_run _ (Nat.le_refl _), Answers.inlinesAfter_append (s.answers_ends _),
      Answers.asked_inlines_append (s.answers_ends _), s.saidAll_append, s.filterInlines_eq,
      s.filterInlines_eq]
    exact congrArg some (ctx.joined_append _ _ _ _).symm
  · simp only [s.filterDocument_eq, s.filterMetaValue_eq, s.filterBlocks_eq]
    rw [Answers.document, Document.mapLists, mapEntryLists_eq]
    rfl
  · rw [s.filterDocument_eq]
    exact s.saidAll_format format _
  · have hentries := s.saidAll_entries format d.metadata
    rw [s.filterDocument_eq, Document.lists, List.flatMap_append, s.saidAll_append,
      s.filterBlocks_eq, List.flatMap_singleton, ← hentries]
    rfl

end DeckFilter
