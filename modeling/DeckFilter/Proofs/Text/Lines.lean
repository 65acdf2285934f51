import DeckFilter.Text.Lines
import Mathlib.Data.List.Infix
import Mathlib.Tactic.SplitIfs

/-!
# Cutting texts

What the functions that cut texts give, said without cutting.

* `Text.AreLines`, **`Text.areLines_iff`**: a text has lines in one way only;
* `Text.contains_iff`: a text contains what is a part of it;
* **`Text.pieces_eq_iff`**, `Text.intercalate_pieces`, `Text.length_pieces`: the pieces of a text
  between separators;
* `Text.Runs`, **`Text.runs_iff`**: its runs, which are the pieces that are not empty.
-/

namespace DeckFilter.Text

/-! ## Lines -/

/-- These are the lines of a text: they make up the text, none of them is empty, a line feed stands
nowhere but at the end of one, and only the last one may lack it. -/
structure AreLines (lines : List (List Char)) (text : List Char) : Prop where
  whole : lines.flatten = text
  nonempty : ∀ l ∈ lines, l ≠ []
  feed_last : ∀ l ∈ lines, '\n' ∉ l.dropLast
  ended : ∀ l ∈ lines.dropLast, l.getLast? = some '\n'

theorem lines_append {l : List Char} (hne : l ≠ []) (hfeed : '\n' ∉ l.dropLast) {rest : List Char}
    (hend : l.getLast? = some '\n' ∨ rest = []) : lines (l ++ rest) = l :: lines rest := by
  induction l with
  | nil => exact absurd rfl hne
  | cons c l ih =>
    cases l with
    | nil =>
      by_cases hc : c = '\n'
      · rw [List.singleton_append, lines, if_pos hc]
      · obtain rfl : rest = [] := hend.resolve_left fun h => hc (Option.some.inj h)
        simp [lines, hc]
    | cons d l =>
      rw [List.dropLast_cons_cons, List.mem_cons, not_or] at hfeed
      have hrest := ih (List.cons_ne_nil d l) hfeed.2 (by rwa [List.getLast?_cons_cons] at hend)
      rw [List.cons_append, lines, if_neg fun h => hfeed.1 h.symm, hrest]

theorem AreLines.tail {l : List Char} {ls : List (List Char)} {text : List Char}
    (h : AreLines (l :: ls) text) : AreLines ls ls.flatten where
  whole := rfl
  nonempty := fun l' hl' => h.nonempty l' (List.mem_cons_of_mem l hl')
  feed_last := fun l' hl' => h.feed_last l' (List.mem_cons_of_mem l hl')
  ended := by
    intro l' hl'
    refine h.ended l' ?_
    rw [List.dropLast_cons_of_ne_nil (List.ne_nil_of_mem (List.dropLast_subset ls hl'))]
    exact List.mem_cons_of_mem l hl'

theorem AreLines.eq_lines {ls : List (List Char)} {text : List Char} (h : AreLines ls text) :
    ls = lines text := by
  induction ls generalizing text with
  | nil =>
    obtain rfl := h.whole
    rfl
  | cons l ls ih =>
    have hend : l.getLast? = some '\n' ∨ ls.flatten = [] := by
      cases ls with
      | nil => exact Or.inr rfl
      | cons l' ls => exact Or.inl (h.ended l (by simp))
    rw [← h.whole, List.flatten_cons,
      lines_append (h.nonempty l List.mem_cons_self) (h.feed_last l List.mem_cons_self) hend,
      ← ih h.tail]

theorem areLines_lines (text : List Char) : AreLines (lines text) text := by
  induction text with
  | nil => exact ⟨rfl, nofun, nofun, nofun⟩
  | cons c text ih =>
    rw [lines]
    generalize lines text = ls at ih ⊢
    by_cases hc : c = '\n'
    · rw [if_pos hc]
      refine ⟨congrArg (c :: ·) ih.whole,
        List.forall_mem_cons.mpr ⟨List.cons_ne_nil _ _, ih.nonempty⟩,
        List.forall_mem_cons.mpr ⟨List.not_mem_nil, ih.feed_last⟩, ?_⟩
      cases ls with
      | nil => exact nofun
      | cons l ls => exact List.forall_mem_cons.mpr ⟨congrArg some hc, ih.ended⟩
    · rw [if_neg hc]
      cases ls with
      | nil =>
        obtain rfl := ih.whole
        exact ⟨rfl, by simp, by simp, nofun⟩
      | cons l ls =>
        obtain ⟨d, l, rfl⟩ := List.exists_cons_of_ne_nil (ih.nonempty l List.mem_cons_self)
        refine ⟨congrArg (c :: ·) ih.whole, ?_, ?_, ?_⟩
        · exact List.forall_mem_cons.mpr
            ⟨List.cons_ne_nil _ _, (List.forall_mem_cons.mp ih.nonempty).2⟩
        · obtain ⟨hfirst, hothers⟩ := List.forall_mem_cons.mp ih.feed_last
          refine List.forall_mem_cons.mpr ⟨?_, hothers⟩
          rw [List.dropLast_cons_cons, List.mem_cons, not_or]
          exact ⟨fun h => hc h.symm, hfirst⟩
        · cases ls with
          | nil => exact nofun
          | cons l' ls =>
            obtain ⟨hfirst, hothers⟩ := List.forall_mem_cons.mp ih.ended
            exact List.forall_mem_cons.mpr ⟨List.getLast?_cons_cons.trans hfirst, hothers⟩

/-- **A text has lines in one way only**, and `lines` finds them. -/
theorem areLines_iff {ls : List (List Char)} {text : List Char} :
    AreLines ls text ↔ ls = lines text := by
  refine ⟨AreLines.eq_lines, ?_⟩
  rintro rfl
  exact areLines_lines text

/-! ## Parts -/

/-- **A text contains what is a part of it.** -/
theorem contains_iff {part text : List Char} : contains part text = true ↔ part <:+: text := by
  induction text with
  | nil => rw [contains, List.isEmpty_iff, List.infix_nil]
  | cons c text ih =>
    rw [contains, Bool.or_eq_true, List.isPrefixOf_iff_prefix, ih, List.infix_cons_iff]

/-! ## Pieces -/

section Pieces

variable {α : Type} {p : α → Bool}

theorem length_splitOnP (p : α → Bool) (xs : List α) :
    (xs.splitOnP p).length = xs.countP p + 1 := by
  induction xs with
  | nil => rfl
  | cons x xs ih =>
    rw [List.splitOnP_cons_eq_if_modifyHead, List.countP_cons]
    split_ifs with hx
    · rw [List.length_cons, ih]
    · rw [List.length_modifyHead, ih]

theorem plain_of_mem_splitOnP {xs piece : List α} (h : piece ∈ xs.splitOnP p) :
    ∀ x ∈ piece, p x = false := by
  induction xs generalizing piece with
  | nil =>
    obtain rfl := List.mem_singleton.mp h
    exact nofun
  | cons x xs ih =>
    rw [List.splitOnP_cons_eq_if_modifyHead] at h
    split_ifs at h with hx
    · rcases List.mem_cons.mp h with rfl | h
      · exact nofun
      · exact ih h
    · obtain ⟨first, others, hxs⟩ := List.exists_cons_of_ne_nil (List.splitOnP_ne_nil p xs)
      rw [hxs] at ih h
      rw [List.modifyHead_cons] at h
      rcases List.mem_cons.mp h with rfl | h
      · exact List.forall_mem_cons.mpr ⟨Bool.eq_false_iff.mpr hx, ih List.mem_cons_self⟩
      · exact ih (List.mem_cons_of_mem first h)

/-- **A text has pieces in one way only**: there is at least one, a separator is in none, and with
separators between them they are the text. -/
theorem splitOn_eq_iff [DecidableEq α] {sep : α} {xs : List α} {pieces : List (List α)} :
    xs.splitOn sep = pieces ↔
      pieces ≠ [] ∧ (∀ piece ∈ pieces, sep ∉ piece) ∧ [sep].intercalate pieces = xs := by
  constructor
  · rintro rfl
    refine ⟨List.splitOn_ne_nil sep xs, fun piece hpiece hsep => ?_, List.intercalate_splitOn sep⟩
    rw [List.splitOn_eq_splitOnP] at hpiece
    exact absurd (plain_of_mem_splitOnP hpiece sep hsep) (by simp)
  · rintro ⟨hne, hplain, rfl⟩
    exact List.splitOn_intercalate sep hplain hne

/-- **A text is cut at a separator in one way only.** -/
theorem pieces_eq_iff {sep : Char} {text : String} {parts : List String} :
    pieces sep text = parts ↔ parts ≠ [] ∧ (∀ part ∈ parts, sep ∉ part.toList) ∧
      (String.singleton sep).intercalate parts = text := by
  have hpieces : pieces sep text = parts ↔ text.toList.splitOn sep = parts.map String.toList := by
    rw [pieces]
    constructor
    · rintro rfl
      simp
    · intro h
      simp [h]
  rw [hpieces, splitOn_eq_iff, ← String.toList_inj, String.toList_intercalate]
  simp

theorem intercalate_pieces (sep : Char) (text : String) :
    (String.singleton sep).intercalate (pieces sep text) = text :=
  (pieces_eq_iff.mp rfl).2.2

theorem length_pieces (sep : Char) (text : String) :
    (pieces sep text).length = text.toList.count sep + 1 := by
  rw [pieces, List.length_map, List.splitOn_eq_splitOnP, length_splitOnP]
  rfl

end Pieces

/-! ## Runs -/

section Runs

variable {α : Type} {sep : α → Prop}

/-- These are the runs of a text, in order: its longest parts without separators that are not
empty. -/
inductive Runs (sep : α → Prop) : List α → List (List α) → Prop
  | nil : Runs sep [] []
  | separator {x : α} {xs : List α} {runs : List (List α)} (hx : sep x) (hxs : Runs sep xs runs) :
      Runs sep (x :: xs) runs
  | last {run : List α} (hne : run ≠ []) (hplain : ∀ y ∈ run, ¬sep y) : Runs sep run [run]
  | run {run : List α} {x : α} {xs : List α} {runs : List (List α)} (hne : run ≠ [])
      (hplain : ∀ y ∈ run, ¬sep y) (hx : sep x) (hxs : Runs sep xs runs) :
      Runs sep (run ++ x :: xs) (run :: runs)

theorem exists_runs (sep : α → Prop) (xs : List α) : ∃ runs, Runs sep xs runs := by
  induction xs with
  | nil => exact ⟨[], .nil⟩
  | cons x xs ih =>
    obtain ⟨runs, hruns⟩ := ih
    by_cases hx : sep x
    · exact ⟨runs, .separator hx hruns⟩
    have hsingle : ∀ y ∈ [x], ¬sep y := List.forall_mem_singleton.mpr hx
    cases hruns with
    | nil => exact ⟨[[x]], .last (List.cons_ne_nil x []) hsingle⟩
    | separator hy hys => exact ⟨[x] :: runs, .run (List.cons_ne_nil x []) hsingle hy hys⟩
    | last hne hplain =>
      exact ⟨[x :: xs], .last (List.cons_ne_nil x xs) (List.forall_mem_cons.mpr ⟨hx, hplain⟩)⟩
    | @run run y ys runs hne hplain hy hys =>
      exact ⟨(x :: run) :: runs,
        .run (List.cons_ne_nil x run) (List.forall_mem_cons.mpr ⟨hx, hplain⟩) hy hys⟩

/-- **The runs of a text are its pieces that are not empty.** -/
theorem runs_iff [DecidablePred sep] {xs : List α} {runs : List (List α)} :
    Runs sep xs runs ↔ runs = (xs.splitOnP fun x => sep x).filter (· ≠ []) := by
  have hpieces {xs : List α} {runs : List (List α)} (h : Runs sep xs runs) :
      runs = (xs.splitOnP fun x => sep x).filter (· ≠ []) := by
    induction h with
    | nil => rfl
    | separator hx _ ih =>
      rw [List.splitOnP_cons_eq_if_modifyHead, if_pos (decide_eq_true hx), ih]
      rfl
    | last hne hplain =>
      rw [List.splitOnP_eq_singleton fun y hy => decide_eq_false (hplain y hy),
        List.filter_cons_of_pos (by simpa using hne), List.filter_nil]
    | run hne hplain hx _ ih =>
      rw [List.splitOnP_append_cons_of_forall_mem (fun y hy => decide_eq_false (hplain y hy)) _
        (decide_eq_true hx), List.filter_cons_of_pos (by simpa using hne), ih]
  refine ⟨hpieces, ?_⟩
  rintro rfl
  obtain ⟨runs, hruns⟩ := exists_runs sep xs
  exact hpieces hruns ▸ hruns

end Runs

end DeckFilter.Text
