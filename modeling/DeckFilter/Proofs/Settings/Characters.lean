import DeckFilter.Proofs.Settings.Scalars
import Mathlib.Data.String.Basic

/-!
# The characters that are written

A text is written in characters that may stand in a file as they are, without line breaks if it has
none, and in at most four times as many bytes as it has, quotes aside.

* `Settings.isWritten`, `Settings.mem_inlineText`: the characters of a written text;
* `Settings.utf8Len_inlineText_le`: their size.
-/

namespace DeckFilter.Settings

/-- A character that a line of a file may hold. -/
def isWritten (c : Char) : Bool := isAllowed c && !isBreak c

theorem isWritten_of_not_isEscaped {c : Char} (h : isEscaped c = false) : isWritten c = true := by
  obtain ⟨hescape, hbreak⟩ := Bool.or_eq_false_iff.mp h
  have hallowed : isAllowed c = true := by
    simp only [needsEscape, Bool.not_eq_false', Bool.or_eq_true, Bool.and_eq_true,
      decide_eq_true_eq, beq_iff_eq, bne_iff_ne] at hescape
    simp only [isAllowed, Bool.or_eq_true, Bool.and_eq_true, decide_eq_true_eq, beq_iff_eq]
    omega
  rw [isWritten, hallowed, hbreak]
  rfl

/-! ## Texts between double quotes -/

theorem doubleChar_isWritten (c : Char) : (doubleChar c).all isWritten = true := by
  induction c using doubleChar_cases with
  | quote => rfl
  | slash => rfl
  | escaped c hescaped =>
    exact of_isEscaped (p := fun c => (doubleChar c).all isWritten = true) (by decide +kernel)
      (by decide +kernel) hescaped
  | plain c _ _ hescaped =>
    rw [List.all_cons, isWritten_of_not_isEscaped hescaped]
    rfl

theorem utf8Len_doubleChar_le (c : Char) : String.utf8Len (doubleChar c) ≤ 4 * c.utf8Size := by
  induction c using doubleChar_cases with
  | quote => decide
  | slash => decide
  | escaped c hescaped =>
    exact of_isEscaped (p := fun c => String.utf8Len (doubleChar c) ≤ 4 * c.utf8Size)
      (by decide +kernel) (by decide +kernel) hescaped
  | plain c _ _ _ =>
    rw [String.utf8Len_cons, String.utf8Len_nil]
    omega

/-! ## Texts in the style they are written in -/

theorem singleText_eq (indent : Nat) {cs : List Char} (hcs : ∀ c ∈ cs, isBreak c = false) :
    singleText indent false cs =
      cs.flatMap (fun c => if c = '\'' then ['\'', '\''] else [c]) ++ ['\''] := by
  induction cs with
  | nil => rfl
  | cons c cs ih =>
    obtain ⟨hc, hcs⟩ := List.forall_mem_cons.mp hcs
    rw [singleText, if_neg (by simp [hc]), ih hcs, List.flatMap_cons, if_neg (by decide),
      List.nil_append, List.append_assoc]

theorem not_isEscaped_of_single {s : String} (hline : OneLine s) (h : styleOf s = .single) :
    ∀ c ∈ s.toList, isEscaped c = false := by
  intro c hc
  rw [styleOf] at h
  split_ifs at h with hfeed hliteral hplain hsingle
  simp only [allowsSingle, Bool.not_eq_true', Bool.or_eq_false_iff, List.any_eq_false,
    Bool.not_eq_true] at hsingle
  rw [isEscaped, hsingle.1.1 c hc, hline c hc]
  rfl

/-- **What is written for a text may stand in a line.** -/
theorem mem_inlineText {s : String} (h : OneLine s) {indent : Nat} {c : Char}
    (hc : c ∈ inlineText indent s) : isWritten c = true := by
  cases hs : styleOf s with
  | literal => exact absurd hs h.styleOf_ne_literal
  | plain =>
    rw [inlineText_of_plain hs] at hc
    obtain ⟨hescape, hbreak⟩ := (of_styleOf_eq_plain hs).2.chars c hc
    exact isWritten_of_not_isEscaped (by rw [isEscaped, hescape, hbreak]; rfl)
  | single =>
    rw [inlineText_of_single hs, singleText_eq indent h] at hc
    have hquoted : ∀ d ∈ s.toList, ∀ c ∈ (if d = '\'' then ['\'', '\''] else [d]),
        isWritten c = true := by
      intro d hd c hc
      split_ifs at hc with hquote
      · simp only [List.mem_cons, List.not_mem_nil, or_false, or_self] at hc
        rw [hc]
        rfl
      · rw [List.mem_singleton.mp hc]
        exact isWritten_of_not_isEscaped (not_isEscaped_of_single h hs d hd)
    rcases List.mem_cons.mp hc with rfl | hc
    · rfl
    rcases List.mem_append.mp hc with hc | hc
    · obtain ⟨d, hd, hc⟩ := List.mem_flatMap.mp hc
      exact hquoted d hd c hc
    · rw [List.mem_singleton.mp hc]
      rfl
  | double =>
    rw [inlineText_of_double hs] at hc
    rcases List.mem_append.mp hc with hc | hc
    · rcases List.mem_cons.mp hc with rfl | hc
      · rfl
      · obtain ⟨d, -, hc⟩ := List.mem_flatMap.mp hc
        exact List.all_eq_true.mp (doubleChar_isWritten d) c hc
    · rw [List.mem_singleton.mp hc]
      rfl

theorem utf8Len_flatMap_le {f : Char → List Char}
    (hf : ∀ c, String.utf8Len (f c) ≤ 4 * c.utf8Size) (cs : List Char) :
    String.utf8Len (cs.flatMap f) ≤ 4 * String.utf8Len cs := by
  induction cs with
  | nil => exact Nat.zero_le _
  | cons c cs ih =>
    have hc := hf c
    rw [List.flatMap_cons, String.utf8Len_append, String.utf8Len_cons]
    omega

/-- **A text is written in at most four times its bytes**, and two quotes. -/
theorem utf8Len_inlineText_le {s : String} (h : OneLine s) (indent : Nat) :
    String.utf8Len (inlineText indent s) ≤ 4 * s.utf8ByteSize + 2 := by
  have hsize : s.utf8ByteSize = String.utf8Len s.toList := by
    rw [← String.utf8ByteSize_ofList, String.ofList_toList]
  rw [hsize]
  cases hs : styleOf s with
  | literal => exact absurd hs h.styleOf_ne_literal
  | plain =>
    rw [inlineText_of_plain hs]
    omega
  | single =>
    have hchar (c : Char) :
        String.utf8Len (if c = '\'' then ['\'', '\''] else [c]) ≤ 4 * c.utf8Size := by
      split_ifs with hc
      · subst hc
        decide
      · rw [String.utf8Len_cons, String.utf8Len_nil]
        omega
    have hchars := utf8Len_flatMap_le hchar s.toList
    rw [inlineText_of_single hs, singleText_eq indent h, String.utf8Len_cons,
      String.utf8Len_append]
    have hquote : String.utf8Len ['\''] = 1 := rfl
    have hquote' : Char.utf8Size '\'' = 1 := rfl
    omega
  | double =>
    have hchars := utf8Len_flatMap_le utf8Len_doubleChar_le s.toList
    rw [inlineText_of_double hs, String.utf8Len_append, String.utf8Len_cons]
    have hquote : String.utf8Len ['"'] = 1 := rfl
    have hquote' : Char.utf8Size '"' = 1 := rfl
    omega

end DeckFilter.Settings
