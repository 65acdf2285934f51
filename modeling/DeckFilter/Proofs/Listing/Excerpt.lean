import DeckFilter.Listing
import DeckFilter.Proofs.Text.Lines

/-!
# Excerpts

An excerpt is a run of the lines of a text, with their line feeds. Where the run starts and ends is
said here by line numbers, without the two searches that find them.

* `Listing.HasMarker`, `Listing.NextMarked`, `Listing.StartsAt`: the numbers of the lines;
* `Listing.excerpt_of_startsAt`, `Listing.excerpt_of_not_startsAt`: the lines of an excerpt;
* `Listing.excerpt_splits`: what is left out comes before and after;
* `excerpts_are_marked_runs`: all of it.
-/

namespace DeckFilter

namespace Listing

/-! ## Lines with a marker -/

/-- There is a marker, it is not empty, and the line has it. -/
def HasMarker (marker : Option String) (line : List Char) : Prop :=
  ∃ m, marker = some m ∧ m ≠ "" ∧ m.toList <:+: line

/-- The first line with the marker from line `i` on is line `j`; if there is no such line, `j` is
the number of lines. -/
structure NextMarked (marker : Option String) (lines : List (List Char)) (i j : ℕ) : Prop where
  le : i ≤ j
  le_length : j ≤ lines.length
  unmarked : ∀ k, i ≤ k → k < j → ∀ line, lines[k]? = some line → ¬HasMarker marker line
  marked : ∀ line, lines[j]? = some line → HasMarker marker line

/-- An excerpt starts at line `i`: at the first line if there is no marker, else right after the
first line that has it. -/
def StartsAt (marker : Option String) (lines : List (List Char)) (i : ℕ) : Prop :=
  (marker = none ∧ i = 0) ∨ ∃ k, NextMarked marker lines 0 k ∧ k < lines.length ∧ i = k + 1

variable {marker : Option String} {lines : List (List Char)} {i j : ℕ}

theorem NextMarked.unique {j' : ℕ} (h : NextMarked marker lines i j)
    (h' : NextMarked marker lines i j') : j = j' := by
  have hlt {j j' : ℕ} (h : NextMarked marker lines i j) (h' : NextMarked marker lines i j') :
      ¬j < j' := by
    intro hj
    have hlt : j < lines.length := lt_of_lt_of_le hj h'.le_length
    have hline : lines[j]? = some lines[j] := List.getElem?_eq_getElem hlt
    exact h'.unmarked j h.le hj _ hline (h.marked _ hline)
  have := hlt h h'
  have := hlt h' h
  omega

/-! ## Searching for markers -/

/-- A line has a marker, decided. -/
def hasMarker (marker : Option String) (line : List Char) : Bool :=
  marker.any fun m => marked m.toList line

theorem hasMarker_iff {line : List Char} :
    hasMarker marker line = true ↔ HasMarker marker line := by
  cases marker with
  | none => exact ⟨nofun, fun ⟨m, hm, _⟩ => nomatch hm⟩
  | some m =>
    simp [hasMarker, marked, HasMarker, Text.contains_iff]

theorem linesBefore_eq_take (lines : List (List Char)) (marker : Option String) :
    linesBefore lines marker = lines.take (lines.findIdx (hasMarker marker)) := by
  cases marker with
  | none =>
    have hnone : lines.findIdx (hasMarker none) = lines.length :=
      List.findIdx_eq_length_of_false fun _ _ => rfl
    rw [hnone, List.take_length]
    rfl
  | some m =>
    rw [linesBefore, List.takeWhile_eq_take_findIdx_not]
    simp only [Bool.not_not]
    rfl

theorem linesAfter_eq_drop (lines : List (List Char)) (m : String) :
    linesAfter lines (some m) = lines.drop (lines.findIdx (hasMarker (some m)) + 1) := by
  rw [linesAfter, List.dropWhile_eq_drop_findIdx_not, List.drop_drop]
  simp only [Bool.not_not]
  rfl

theorem nextMarked_findIdx (marker : Option String) (h : i ≤ lines.length) :
    NextMarked marker lines i (i + (lines.drop i).findIdx (hasMarker marker)) where
  le := Nat.le_add_right _ _
  le_length := by
    have hle : (lines.drop i).findIdx (hasMarker marker) ≤ (lines.drop i).length :=
      List.findIdx_le_length
    rw [List.length_drop] at hle
    omega
  unmarked := by
    intro k hik hk line hline hmarker
    have hlt : k - i < (lines.drop i).findIdx (hasMarker marker) := by omega
    have hat : (lines.drop i)[k - i]? = some line := by
      rw [List.getElem?_drop, Nat.add_sub_cancel' hik, hline]
    obtain ⟨_, rfl⟩ := List.getElem?_eq_some_iff.mp hat
    rw [← hasMarker_iff, List.not_of_lt_findIdx hlt] at hmarker
    cases hmarker
  marked := by
    intro line hline
    rw [← List.getElem?_drop] at hline
    obtain ⟨_, rfl⟩ := List.getElem?_eq_some_iff.mp hline
    exact hasMarker_iff.mp List.findIdx_getElem

theorem nextMarked_zero (marker : Option String) (lines : List (List Char)) :
    NextMarked marker lines 0 (lines.findIdx (hasMarker marker)) := by
  simpa using nextMarked_findIdx marker (Nat.zero_le lines.length)

/-! ## The lines of an excerpt -/

theorem linesAfter_of_startsAt (h : StartsAt marker lines i) :
    i ≤ lines.length ∧ linesAfter lines marker = lines.drop i := by
  rcases h with ⟨rfl, rfl⟩ | ⟨k, hk, hlt, rfl⟩
  · exact ⟨Nat.zero_le _, rfl⟩
  · obtain ⟨m, rfl, -⟩ := hk.marked _ (List.getElem?_eq_getElem hlt)
    have hfirst := hk.unique (nextMarked_zero (some m) lines)
    exact ⟨hlt, by rw [linesAfter_eq_drop, hfirst]⟩

theorem not_startsAt_iff : (∀ i, ¬StartsAt marker lines i) ↔
    ∃ m, marker = some m ∧ (m = "" ∨ ∀ line ∈ lines, ¬m.toList <:+: line) := by
  cases marker with
  | none => exact iff_of_false (fun h => h 0 (Or.inl ⟨rfl, rfl⟩)) fun ⟨m, hm, _⟩ => nomatch hm
  | some m =>
    have hfirst := nextMarked_zero (some m) lines
    have hnowhere : (∀ i, ¬StartsAt (some m) lines i) ↔
        lines.findIdx (hasMarker (some m)) = lines.length := by
      constructor
      · intro h
        by_contra hne
        exact h _ (Or.inr ⟨_, hfirst, lt_of_le_of_ne List.findIdx_le_length hne, rfl⟩)
      · rintro h i (⟨hnone, -⟩ | ⟨k, hk, hlt, -⟩)
        · cases hnone
        · rw [hk.unique hfirst, h] at hlt
          exact absurd hlt (lt_irrefl _)
    rw [hnowhere, List.findIdx_eq_length]
    constructor
    · intro h
      refine ⟨m, rfl, or_iff_not_imp_left.mpr fun hne line hline hpart => ?_⟩
      have hmarker := hasMarker_iff.mpr ⟨m, rfl, hne, hpart⟩
      rw [h line hline] at hmarker
      cases hmarker
    · rintro ⟨m', hm, h⟩ line hline
      obtain rfl := Option.some.inj hm
      rw [Bool.eq_false_iff, ne_eq, hasMarker_iff]
      rintro ⟨m', hm, hne, hpart⟩
      obtain rfl := Option.some.inj hm
      exact h.elim hne fun h => h line hline hpart

variable {text : String} {startAfter endBefore : Option String}

/-- **The lines of an excerpt** are those from its start to the next line with the end marker. -/
theorem excerpt_of_startsAt (hstart : StartsAt startAfter (Text.lines text.toList) i)
    (hend : NextMarked endBefore (Text.lines text.toList) i j) :
    excerpt text startAfter endBefore =
      String.ofList (((Text.lines text.toList).take j).drop i).flatten := by
  obtain ⟨hi, hafter⟩ := linesAfter_of_startsAt hstart
  have hj := hend.unique (nextMarked_findIdx endBefore hi)
  rw [excerpt, hafter, linesBefore_eq_take, List.drop_take]
  congr 3
  omega

theorem excerpt_of_not_startsAt (h : ∀ i, ¬StartsAt startAfter (Text.lines text.toList) i) :
    excerpt text startAfter endBefore = "" := by
  obtain ⟨m, rfl, -⟩ := not_startsAt_iff.mp h
  have hafter : linesAfter (Text.lines text.toList) (some m) = [] := by
    rw [linesAfter_eq_drop, List.drop_eq_nil_iff]
    by_contra hlt
    exact h _ (Or.inr ⟨_, nextMarked_zero (some m) _, by omega, rfl⟩)
  rw [excerpt, hafter, linesBefore_eq_take]
  rfl

/-- **What an excerpt leaves out** comes before and after it, and is made of whole lines. -/
theorem excerpt_splits (text : String) (startAfter endBefore : Option String) :
    ∃ before middle after, Text.lines text.toList = before ++ middle ++ after ∧
      excerpt text startAfter endBefore = String.ofList middle.flatten := by
  by_cases h : ∃ i, StartsAt startAfter (Text.lines text.toList) i
  · obtain ⟨i, hstart⟩ := h
    obtain ⟨j, hend⟩ : ∃ j, NextMarked endBefore (Text.lines text.toList) i j :=
      ⟨_, nextMarked_findIdx endBefore (linesAfter_of_startsAt hstart).1⟩
    refine ⟨(Text.lines text.toList).take i, ((Text.lines text.toList).take j).drop i,
      (Text.lines text.toList).drop j, ?_, excerpt_of_startsAt hstart hend⟩
    have htake : (Text.lines text.toList).take i = ((Text.lines text.toList).take j).take i := by
      rw [List.take_take, min_eq_left hend.le]
    rw [htake, List.take_append_drop, List.take_append_drop]
  · exact ⟨Text.lines text.toList, [], [], by simp,
      excerpt_of_not_startsAt fun i hi => h ⟨i, hi⟩⟩

theorem excerpt_of_areLines {before after : List (List Char)} {start : List Char}
    (hlines : Text.AreLines (before ++ start :: after) text.toList)
    (hbefore : ∀ line ∈ before, ¬HasMarker startAfter line) (hstart : HasMarker startAfter start) :
    excerpt text startAfter endBefore = String.ofList (linesBefore after endBefore).flatten := by
  obtain ⟨m, rfl, hne, hpart⟩ := hstart
  have hbefore' : ∀ line ∈ before, (!marked m.toList line) = true := by
    intro line hline
    rw [Bool.not_eq_true', Bool.eq_false_iff]
    exact fun h => hbefore line hline (hasMarker_iff.mp h)
  have hstart' : ¬(!marked m.toList start) = true := by
    rw [Bool.not_eq_true', Bool.not_eq_false]
    exact hasMarker_iff.mpr ⟨m, rfl, hne, hpart⟩
  have hafter : linesAfter (before ++ start :: after) (some m) = after := by
    rw [linesAfter, List.dropWhile_append_of_pos hbefore',
      List.dropWhile_cons_of_neg (p := fun line => !marked m.toList line) hstart', List.drop_one,
      List.tail_cons]
  rw [excerpt, ← Text.areLines_iff.mp hlines, hafter]

theorem excerpt_none (text : String) : excerpt text none none = text := by
  rw [excerpt, linesBefore, linesAfter, (Text.areLines_lines text.toList).whole,
    String.ofList_toList]

end Listing

open Listing in
/-- **An excerpt is the run of lines that its markers select.** It goes from the line after the
first one with the start marker, or from the first line if there is no such marker, to the next line
with the end marker, or to the end. A start marker that is empty or in no line selects nothing. What
is left out are whole lines before and after; the line with the start marker is not in the excerpt,
and whether it has the end marker too makes no difference. -/
theorem excerpts_are_marked_runs (text : String) (startAfter endBefore : Option String) :
    let lines := Text.lines text.toList
    let result := excerpt text startAfter endBefore
    (∀ ls, Text.AreLines ls text.toList ↔ ls = lines) ∧
    (∀ i j, StartsAt startAfter lines i → NextMarked endBefore lines i j →
      result = String.ofList ((lines.take j).drop i).flatten) ∧
    (∀ i, StartsAt startAfter lines i → ∃ j, NextMarked endBefore lines i j) ∧
    ((∀ i, ¬StartsAt startAfter lines i) ↔
      ∃ m, startAfter = some m ∧ (m = "" ∨ ∀ line ∈ lines, ¬m.toList <:+: line)) ∧
    ((∀ i, ¬StartsAt startAfter lines i) → result = "") ∧
    (∃ before middle after, lines = before ++ middle ++ after ∧
      result = String.ofList middle.flatten ∧
      text = String.ofList before.flatten ++ result ++ String.ofList after.flatten) ∧
    (∀ text' before start start' after, Text.AreLines (before ++ start :: after) text.toList →
      Text.AreLines (before ++ start' :: after) text'.toList →
      (∀ line ∈ before, ¬HasMarker startAfter line) →
      HasMarker startAfter start → HasMarker startAfter start' →
      excerpt text' startAfter endBefore = result) ∧
    excerpt text none none = text := by
  intro lines result
  refine ⟨fun ls => Text.areLines_iff, fun i j => excerpt_of_startsAt, fun i hstart => ?_,
    not_startsAt_iff, excerpt_of_not_startsAt, ?_, ?_, excerpt_none text⟩
  · exact ⟨_, nextMarked_findIdx endBefore (linesAfter_of_startsAt hstart).1⟩
  · obtain ⟨before, middle, after, hlines, hresult⟩ := excerpt_splits text startAfter endBefore
    refine ⟨before, middle, after, hlines, hresult, ?_⟩
    have hwhole := (Text.areLines_lines text.toList).whole
    rw [hlines, List.flatten_append, List.flatten_append] at hwhole
    rw [show result = String.ofList middle.flatten from hresult, ← String.ofList_append,
      ← String.ofList_append, hwhole, String.ofList_toList]
  · intro text' before start start' after hlines hlines' hbefore hstart hstart'
    rw [excerpt_of_areLines hlines' hbefore hstart']
    exact (excerpt_of_areLines hlines hbefore hstart).symm

/-- A text with both markers on its second line, and the end marker again two lines below. -/
def markedText : String := "use\n-- begin, not -- end\nbody\r\n-- end\nrest"

theorem excerpts_are_marked_runs_begin :
    Listing.StartsAt (some "-- begin") (Text.lines markedText.toList) 2 ∧
      Listing.NextMarked (some "-- end") (Text.lines markedText.toList) 2 3 ∧
      Listing.excerpt markedText (some "-- begin") (some "-- end") = "body\r\n" ∧
      Listing.excerpt markedText (some "") (some "-- end") = "" := by
  have hbegin : (Text.lines markedText.toList).findIdx (Listing.hasMarker (some "-- begin")) =
      1 := by
    decide +kernel
  have hend : ((Text.lines markedText.toList).drop 2).findIdx (Listing.hasMarker (some "-- end")) =
      1 := by
    decide +kernel
  have hstart : Listing.StartsAt (some "-- begin") (Text.lines markedText.toList) 2 :=
    Or.inr ⟨1, hbegin ▸ Listing.nextMarked_zero _ _, by decide +kernel, rfl⟩
  have hnext : Listing.NextMarked (some "-- end") (Text.lines markedText.toList) 2 3 := by
    have h := Listing.nextMarked_findIdx (some "-- end")
      (show 2 ≤ (Text.lines markedText.toList).length by decide +kernel)
    rwa [hend] at h
  obtain ⟨-, hrun, -⟩ := excerpts_are_marked_runs markedText (some "-- begin") (some "-- end")
  obtain ⟨-, -, -, hnowhere, hempty, -⟩ :=
    excerpts_are_marked_runs markedText (some "") (some "-- end")
  refine ⟨hstart, hnext, (hrun 2 3 hstart hnext).trans (by decide +kernel), hempty ?_⟩
  exact hnowhere.mpr ⟨"", rfl, Or.inl rfl⟩

end DeckFilter
