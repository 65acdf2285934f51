import DeckFilter.Proofs.Role.Formats
import Mathlib.Data.List.Infix

/-!
# Raw markup

A role of raw markup puts commands around its literal. The commands are the same for every literal,
so they can be read as a frame, and whether the braces match is a matter of the frame alone: a text
with matching braces may stand anywhere between matching braces. The literal itself is escaped,
which can be undone, so no two literals give the same markup. Explanations that are left out are the
one exception.

* `Latex.Balanced`, **`Latex.Balanced.insert`**: texts whose braces match;
* `Latex.slash`, `Latex.toList_escape`, **`Latex.escape_injective`**: how literals are escaped;
* `Latex.Frame`, `Role.frame?`, **`Role.render_eq_around`**: the markup around a literal;
* `raw_markup_keeps_its_literal`: all of it.
-/

namespace DeckFilter

namespace Latex

/-! ## Braces -/

/-- The braces of a text match: no prefix closes more than it opens, and the text closes all. -/
structure Balanced (cs : List Char) : Prop where
  closed_le : ∀ before, before <+: cs → before.count '\x7d' ≤ before.count '\x7b'
  total : cs.count '\x7d' = cs.count '\x7b'

instance (cs : List Char) : Decidable (Balanced cs) :=
  decidable_of_iff
    ((∀ before ∈ cs.inits, before.count '\x7d' ≤ before.count '\x7b') ∧
      cs.count '\x7d' = cs.count '\x7b')
    ⟨fun h => ⟨fun before hbefore => h.1 before ((List.mem_inits before cs).mpr hbefore), h.2⟩,
      fun h => ⟨fun before hbefore => h.closed_le before ((List.mem_inits before cs).mp hbefore),
        h.total⟩⟩

/-- The character is a brace. -/
def isBrace (c : Char) : Bool := c == '\x7b' || c == '\x7d'

theorem count_of_braces {cs ds : List Char} (h : ds.filter isBrace = cs.filter isBrace)
    {brace : Char} (hbrace : isBrace brace) : ds.count brace = cs.count brace := by
  rw [← List.count_filter hbrace, h, List.count_filter hbrace]

theorem Balanced.of_braces {cs ds : List Char} (h : Balanced cs)
    (hbraces : ds.filter isBrace = cs.filter isBrace) : Balanced ds where
  closed_le before hbefore := by
    obtain ⟨before', hbefore', hfilter⟩ :=
      List.prefix_filter_iff.mp (hbraces ▸ hbefore.filter isBrace)
    rw [count_of_braces hfilter rfl, count_of_braces hfilter rfl]
    exact h.closed_le before' hbefore'
  total := by
    rw [count_of_braces hbraces rfl, count_of_braces hbraces rfl]
    exact h.total

theorem prefix_append_iff {before cs ds : List Char} : before <+: cs ++ ds ↔
    before <+: cs ∨ ∃ rest, rest <+: ds ∧ cs ++ rest = before := by
  constructor
  · rintro ⟨after, h⟩
    rcases List.append_eq_append_iff.mp h with ⟨rest, hcs, -⟩ | ⟨rest, hbefore, hds⟩
    · exact Or.inl ⟨rest, hcs.symm⟩
    · exact Or.inr ⟨rest, ⟨after, hds.symm⟩, hbefore.symm⟩
  · rintro (h | ⟨rest, h, rfl⟩)
    · exact h.trans (List.prefix_append cs ds)
    · exact (List.prefix_append_right_inj cs).mpr h

/-- **Braces match around a text whose braces match**, wherever it stands: what it opens it closes,
so the count after it is the count before it. -/
theorem Balanced.insert {before text after : List Char} (h : Balanced (before ++ after))
    (htext : Balanced text) : Balanced (before ++ text ++ after) where
  closed_le first hfirst := by
    rw [List.append_assoc] at hfirst
    rcases prefix_append_iff.mp hfirst with hfirst | ⟨rest, hrest, rfl⟩
    · exact h.closed_le first (hfirst.trans (List.prefix_append before after))
    have hbefore := h.closed_le before (List.prefix_append before after)
    rcases prefix_append_iff.mp hrest with hrest | ⟨last, hlast, rfl⟩
    · have hle := htext.closed_le rest hrest
      simp only [List.count_append]
      omega
    · have hle := h.closed_le (before ++ last) ((List.prefix_append_right_inj before).mpr hlast)
      have htotal := htext.total
      simp only [List.count_append] at hle ⊢
      omega
  total := by
    have htotal := h.total
    have htotal' := htext.total
    simp only [List.count_append] at htotal ⊢
    omega

/-! ## Escapes -/

/-- A text with a backslash before every occurrence of a character. -/
def slash (special : Char) (cs : List Char) : List Char :=
  cs.flatMap fun c => if c = special then ['\\', c] else [c]

/-- A text without the backslashes that stand directly before a character. -/
def unslash (special : Char) : List Char → List Char
  | [] => []
  | [c] => [c]
  | c :: d :: cs =>
    if c = '\\' ∧ d = special then unslash special (d :: cs) else c :: unslash special (d :: cs)

theorem toList_escape (text : String) :
    (escape text).toList = slash '&' (slash '_' text.toList) := by
  rw [escape, String.toList_ofList, slash, slash, List.flatMap_assoc]
  refine List.flatMap_congr fun c _ => ?_
  unfold escapeChar
  by_cases hunderscore : c = '_'
  · subst hunderscore
    rfl
  · by_cases hampersand : c = '&'
    · subst hampersand
      rfl
    · simp [hunderscore, hampersand]

section Slash

variable {special : Char}

theorem slash_cons (c : Char) (cs : List Char) :
    slash special (c :: cs) = (if c = special then ['\\', c] else [c]) ++ slash special cs :=
  List.flatMap_cons

theorem head?_slash (hspecial : special ≠ '\\') (cs : List Char) :
    (slash special cs).head? ≠ some special := by
  cases cs with
  | nil => exact nofun
  | cons c cs =>
    rw [slash_cons]
    split_ifs with hc
    · exact fun h => hspecial (Option.some.inj h).symm
    · exact fun h => hc (Option.some.inj h)

theorem unslash_cons {c : Char} {cs : List Char} (h : c ≠ '\\' ∨ cs.head? ≠ some special) :
    unslash special (c :: cs) = c :: unslash special cs := by
  cases cs with
  | nil => rfl
  | cons d cs =>
    rw [unslash, if_neg]
    rintro ⟨hc, hd⟩
    exact h.elim (fun h => h hc) fun h => h (congrArg some hd)

/-- **An escape can be undone**: a backslash directly before the character is never one of the
text, because the character has its own. -/
theorem unslash_slash (hspecial : special ≠ '\\') (cs : List Char) :
    unslash special (slash special cs) = cs := by
  induction cs with
  | nil => rfl
  | cons c cs ih =>
    rw [slash_cons]
    split_ifs with hc
    · subst hc
      show unslash c ('\\' :: c :: slash c cs) = c :: cs
      rw [unslash, if_pos ⟨rfl, rfl⟩, unslash_cons (Or.inl hspecial), ih]
    · rw [List.singleton_append, unslash_cons (Or.inr (head?_slash hspecial cs)), ih]

theorem filter_isBrace_slash (special : Char) (cs : List Char) :
    (slash special cs).filter isBrace = cs.filter isBrace := by
  induction cs with
  | nil => rfl
  | cons c cs ih =>
    rw [slash_cons, List.filter_append, ih]
    split_ifs with hc
    · rw [List.filter_cons_of_neg (by decide), ← List.filter_append, List.singleton_append]
    · rw [← List.filter_append, List.singleton_append]

end Slash

theorem Balanced.escape {text : String} (h : Balanced text.toList) :
    Balanced (escape text).toList := by
  refine h.of_braces ?_
  rw [toList_escape, filter_isBrace_slash, filter_isBrace_slash]

/-- **Literals that differ are escaped differently.** -/
theorem escape_injective : Function.Injective escape := by
  intro text text' h
  have hlists := congrArg String.toList h
  rw [toList_escape, toList_escape] at hlists
  have hunderscores := congrArg (unslash '&') hlists
  rw [unslash_slash (by decide), unslash_slash (by decide)] at hunderscores
  have htexts := congrArg (unslash '_') hunderscores
  rw [unslash_slash (by decide), unslash_slash (by decide)] at htexts
  exact String.toList_inj.mp htexts

/-! ## Frames -/

/-- Markup that goes before a text and after it. -/
structure Frame where
  before : String
  after : String

namespace Frame

/-- A text in a frame. -/
def around (frame : Frame) (text : String) : String := frame.before ++ text ++ frame.after

/-- The braces of a frame match with nothing in it. -/
def IsBalanced (frame : Frame) : Prop := Balanced (frame.before.toList ++ frame.after.toList)

theorem IsBalanced.around {frame : Frame} (h : frame.IsBalanced) {text : String}
    (htext : Balanced text.toList) : Balanced (frame.around text).toList := by
  rw [Frame.around, String.toList_append, String.toList_append]
  exact Balanced.insert h htext

theorem around_injective (frame : Frame) : Function.Injective frame.around := by
  intro text text' h
  have hlists := congrArg String.toList h
  simp only [around, String.toList_append] at hlists
  exact String.toList_inj.mp (List.append_cancel_left (List.append_cancel_right hlists))

end Frame

end Latex

/-! ## Roles -/

namespace Role

open Latex

/-- The markup that a format puts around its literals. Emphasis has none, and neither have
explanations without an instructor. -/
def frame? (config : Config) (env : Environment) : RoleFormat → Option Frame
  | .menu => some ⟨"\\colorbox\x7b" ++ config.boxColor ++ "\x7d\x7b\\textcolor\x7bwhite\x7d\x7b",
      "\x7d\x7d"⟩
  | .command => some ⟨"\\colorbox\x7bblack\x7d\x7b\\textcolor\x7bwhite\x7d\x7b\\texttt\x7b",
      "\x7d\x7d\x7d"⟩
  | .filename => some ⟨"\\textbf\x7b\\textit\x7b", "\x7d\x7d"⟩
  | .answer =>
    if env.instructor then
      some ⟨"\\textit<2>\x7b\\textbf<2>\x7b\\textcolor<2>\x7bgreen!65!black\x7d\x7b",
        "\x7d\x7d\x7d"⟩
    else some ⟨"", ""⟩
  | .animate => if env.instructor then some ⟨"\\onslide<2->\x7b", "\x7d"⟩ else none
  | .smallCaps => none
  | .strong => none

/-- The format is that of explanations, and there is no instructor to see them. -/
def LeavesOut (env : Environment) (f : RoleFormat) : Prop := f = .animate ∧ ¬env.instructor

variable {config : Config} {env : Environment} {f : RoleFormat}

theorem exists_frame (hraw : f.isRaw) (hseen : ¬LeavesOut env f) (config : Config) :
    ∃ frame, frame? config env f = some frame := by
  unfold frame?
  cases f with
  | menu | command | filename => exact ⟨_, rfl⟩
  | answer => split_ifs <;> exact ⟨_, rfl⟩
  | animate =>
    have hinstructor : env.instructor := by_contra fun h => hseen ⟨rfl, h⟩
    exact ⟨_, if_pos hinstructor⟩
  | smallCaps | strong => cases hraw

/-- **A literal is escaped and put into its frame.** -/
theorem render_eq_around {frame : Frame} (h : frame? config env f = some frame)
    (literal : String) : render config env f literal = some (frame.around (escape literal)) := by
  unfold frame? at h
  unfold render
  cases f with
  | menu | command | filename =>
    obtain rfl := Option.some.inj h
    refine congrArg some (String.toList_inj.mp ?_)
    simp [colorbox, textcolor, monospace, boldItalic, group, Frame.around]
  | answer =>
    dsimp only at h ⊢
    split_ifs at h ⊢ with hinstructor
    · obtain rfl := Option.some.inj h
      refine congrArg some (String.toList_inj.mp ?_)
      simp [answerHighlight, group, Frame.around]
    · obtain rfl := Option.some.inj h
      rw [Frame.around, String.empty_append, String.append_empty]
  | animate =>
    dsimp only at h ⊢
    split_ifs at h ⊢ with hinstructor
    obtain rfl := Option.some.inj h
    refine congrArg some (String.toList_inj.mp ?_)
    simp [onslide, group, Frame.around]
  | smallCaps | strong => cases h

theorem frame?_isBalanced {frame : Frame} (h : frame? config env f = some frame)
    (hcolor : Balanced config.boxColor.toList) : frame.IsBalanced := by
  unfold frame? at h
  cases f with
  | menu =>
    obtain rfl := Option.some.inj h
    have hboxes : Balanced ("\\colorbox\x7b".toList ++
        ("\x7d\x7b\\textcolor\x7bwhite\x7d\x7b".toList ++ "\x7d\x7d".toList)) := by
      decide +kernel
    unfold Frame.IsBalanced
    rw [String.toList_append, String.toList_append, List.append_assoc]
    exact hboxes.insert hcolor
  | command | filename =>
    obtain rfl := Option.some.inj h
    unfold Frame.IsBalanced
    decide +kernel
  | answer =>
    dsimp only at h
    split_ifs at h <;>
    · obtain rfl := Option.some.inj h
      unfold Frame.IsBalanced
      decide +kernel
  | animate =>
    dsimp only at h
    split_ifs at h
    obtain rfl := Option.some.inj h
    unfold Frame.IsBalanced
    decide +kernel
  | smallCaps | strong => cases h

theorem render_of_leavesOut (h : LeavesOut env f) (config : Config) (literal : String) :
    render config env f literal = some " " := by
  obtain ⟨rfl, hstudent⟩ := h
  unfold render
  dsimp only
  rw [if_neg hstudent]

end Role

open Role in
/-- **Raw markup keeps its literal.** Every literal has markup, with braces that match if those of
the literal and of the color of boxes do. Explanations become a blank without an instructor. All
other markup is the escaped literal between a text before it and one after it that are the same for
every literal, so literals that differ have markup that differs. -/
theorem raw_markup_keeps_its_literal (config : Config) (env : Environment) {f : RoleFormat}
    (hraw : f.isRaw) :
    (∀ literal, ∃ text, render config env f literal = some text ∧
      (Latex.Balanced literal.toList → Latex.Balanced config.boxColor.toList →
        Latex.Balanced text.toList)) ∧
    (f = .animate ∧ ¬env.instructor → ∀ literal, render config env f literal = some " ") ∧
    (¬(f = .animate ∧ ¬env.instructor) →
      (∃ before after : String, ∀ literal,
        render config env f literal = some (before ++ Latex.escape literal ++ after)) ∧
      ∀ literal literal', literal ≠ literal' →
        render config env f literal ≠ render config env f literal') ∧
    ∀ literal, (Latex.escape literal).toList =
      Latex.slash '&' (Latex.slash '_' literal.toList) := by
  refine ⟨fun literal => ?_, fun h => render_of_leavesOut h config, fun hseen => ?_,
    Latex.toList_escape⟩
  · by_cases hseen : LeavesOut env f
    · refine ⟨" ", render_of_leavesOut hseen config literal, fun _ _ => ?_⟩
      decide
    · obtain ⟨frame, hframe⟩ := exists_frame hraw hseen config
      refine ⟨_, render_eq_around hframe literal, fun hliteral hcolor => ?_⟩
      exact (frame?_isBalanced hframe hcolor).around hliteral.escape
  · obtain ⟨frame, hframe⟩ := exists_frame hraw hseen config
    refine ⟨⟨frame.before, frame.after, render_eq_around hframe⟩, ?_⟩
    intro literal literal' hne h
    rw [render_eq_around hframe, render_eq_around hframe] at h
    exact hne (Latex.escape_injective (frame.around_injective (Option.some.inj h)))

open Role in
/-- A menu whose literal has braces and two escapes in it, and an explanation for students. -/
theorem raw_markup_keeps_its_literal_menu :
    (∃ text, render .default .empty .menu "a_\x7b&\x7d" = some text ∧ Latex.Balanced text.toList) ∧
      (∃ before after, render .default .empty .menu "a_\x7b&\x7d" =
        some (before ++ "a\\_\x7b\\&\x7d" ++ after)) ∧
      render .default .empty .menu "a_\x7b&\x7d" ≠ render .default .empty .menu "a\\_\x7b&\x7d" ∧
      render .default .empty .animate "because" = some " " := by
  obtain ⟨hmarkup, -, hkept, -⟩ :=
    raw_markup_keeps_its_literal .default .empty (show RoleFormat.menu.isRaw from rfl)
  obtain ⟨⟨before, after, hframed⟩, hdiffer⟩ := hkept (by decide)
  obtain ⟨-, hblank, -⟩ :=
    raw_markup_keeps_its_literal .default .empty (show RoleFormat.animate.isRaw from rfl)
  obtain ⟨text, htext, hbalanced⟩ := hmarkup "a_\x7b&\x7d"
  refine ⟨⟨text, htext, hbalanced (by decide +kernel) (by decide +kernel)⟩, ⟨before, after, ?_⟩,
    hdiffer _ _ (by decide), hblank (by decide) "because"⟩
  exact hframed "a_\x7b&\x7d"

end DeckFilter
