import DeckFilter.Proofs.Settings.Characters
import DeckFilter.Settings.Block
import DeckFilter.Settings.Print

/-!
# Reading scalars and keys as they were written

A scalar is written on one line. What is read is its text, whatever follows the line, as long as
that is not indented as far as the scalar would be; the same goes for a key, up to its colon.

* `Settings.Scalar.IsWritable`, `Settings.Scalar.reread`: scalars, and what they are read back as;
* `Settings.StartsScalar`: nothing else is taken for the start of a scalar;
* `Settings.Scalar.read_line`, `Settings.Scalar.read_colon`: scalars up to a line break or a colon;
* `Settings.key_of_short`, `Settings.key_keyBody`: keys.
-/

namespace DeckFilter.Settings

/-! ## Scalars -/

/-- A scalar of one line: a text, or a word that needs no quotes. -/
structure Scalar.IsWritable (s : Scalar) : Prop where
  oneLine : OneLine s.text
  word : s.plain → s.text ≠ "" ∧ IsPlain s.text.toList

namespace Scalar

/-- What a scalar is read back as: it is without quotes if it was written without them. -/
def reread (s : Scalar) : Scalar := ⟨s.text, s.plain || styleOf s.text == .plain⟩

/-- A scalar on its line. -/
def inline (indent : Nat) (s : Scalar) : List Char :=
  if s.plain then s.text.toList else inlineText indent s.text

variable {s : Scalar} (h : s.IsWritable)
include h

theorem IsWritable.line_eq (indent : Nat) : s.line indent = s.inline indent ++ ['\n'] := by
  rw [line, inline]
  split_ifs
  · rfl
  · rw [blockText, if_neg h.oneLine.styleOf_ne_literal]

theorem IsWritable.cases (indent : Nat) :
    (s.text.toList ≠ [] ∧ IsPlain s.text.toList ∧ s.inline indent = s.text.toList ∧
        s.reread = ⟨s.text, true⟩) ∨
      (styleOf s.text ≠ .plain ∧ s.inline indent = inlineText indent s.text ∧
        s.reread = ⟨s.text, false⟩) := by
  cases hplain : s.plain with
  | true =>
    obtain ⟨hne, hchars⟩ := h.word hplain
    refine Or.inl ⟨fun hnil => hne (String.toList_eq_nil_iff.mp hnil), hchars, ?_, ?_⟩
    · rw [inline, hplain, if_pos rfl]
    · rw [reread, hplain, Bool.true_or]
  | false =>
    have hinline : s.inline indent = inlineText indent s.text := by
      rw [inline, hplain, if_neg (by decide)]
    by_cases hstyle : styleOf s.text = .plain
    · obtain ⟨hambiguous, hchars⟩ := of_styleOf_eq_plain hstyle
      refine Or.inl ⟨?_, hchars, ?_, ?_⟩
      · intro hnil
        rw [String.toList_eq_nil_iff.mp hnil] at hambiguous
        exact absurd hambiguous (by decide)
      · rw [hinline, inlineText_of_plain hstyle]
      · rw [reread, hplain, hstyle]
        rfl
    · refine Or.inr ⟨hstyle, hinline, ?_⟩
      rw [reread, hplain, beq_false_of_ne hstyle, Bool.false_or]

/-- **A scalar is read from its line**, whatever the next token is, if that is not indented as far
as the scalar. -/
theorem IsWritable.read_line (indent : Nat) {n column : Nat} (hn : n < column) {next : List Char}
    (hnext : AtToken next) :
    scalar false column (s.inline indent ++ '\n' :: (pad n ++ next)) =
      some (s.reread, ⟨true, n⟩, next) := by
  rcases h.cases indent with ⟨hne, hplain, hinline, hreread⟩ | ⟨hstyle, hinline, hreread⟩
  · obtain ⟨_, hread⟩ := scalar_of_plain hne hplain column ('\n' :: (pad n ++ next))
    rw [hinline, hreread, hread, plain_newline hnext hn, Option.map_some,
      skipGap_of_atToken hnext, List.reverse_reverse, String.ofList_toList]
  · rw [hinline, hreread, scalar_of_quoted h.oneLine hstyle indent column (by simp),
      skipGap_newline hnext]

/-- **A scalar is read up to its colon.** -/
theorem IsWritable.read_colon (indent column : Nat) {rest : List Char} (hrest : atGap rest = true) :
    ∃ g, scalar false column (s.inline indent ++ ':' :: rest) =
      some (s.reread, g, ':' :: rest) := by
  have hcolon : AtToken (':' :: rest) := .cons rfl rfl (by decide) (by decide)
  rcases h.cases indent with ⟨hne, hplain, hinline, hreread⟩ | ⟨hstyle, hinline, hreread⟩
  · obtain ⟨column', hread⟩ := scalar_of_plain hne hplain column (':' :: rest)
    refine ⟨⟨false, column'⟩, ?_⟩
    rw [hinline, hreread, hread, plain_colon hrest, Option.map_some, skipGap_of_atToken hcolon,
      List.reverse_reverse, String.ofList_toList]
  · refine ⟨.none, ?_⟩
    rw [hinline, hreread, scalar_of_quoted h.oneLine hstyle indent column (by simp),
      skipGap_of_atToken hcolon]

theorem IsWritable.mem_inline {indent : Nat} {c : Char} (hc : c ∈ s.inline indent) :
    isWritten c = true := by
  rcases h.cases indent with ⟨-, hplain, hinline, -⟩ | ⟨-, hinline, -⟩
  · rw [hinline] at hc
    obtain ⟨hescape, hbreak⟩ := hplain.chars c hc
    exact isWritten_of_not_isEscaped (by rw [isEscaped, hescape, hbreak]; rfl)
  · rw [hinline] at hc
    exact mem_inlineText h.oneLine hc

end Scalar

/-! ## Starts of scalars -/

/-- A text starts with an entry: nothing else is taken for its start. -/
structure StartsEntry (cs : List Char) : Prop where
  ne_nil : cs ≠ []
  token : AtToken cs
  no_marker : isMarker cs = false
  no_bracket : atBracket cs = false
  no_dash : atDash cs = false

/-- A text starts with a scalar, which is no long key. -/
structure StartsScalar (cs : List Char) : Prop extends StartsEntry cs where
  no_question : ∀ rest, cs = '?' :: rest → atGap rest = false

theorem StartsEntry.isEmpty_eq {cs : List Char} (h : StartsEntry cs) : cs.isEmpty = false :=
  List.isEmpty_eq_false_iff.mpr h.ne_nil

theorem StartsScalar.of_quote {c : Char} (hc : c = '\'' ∨ c = '"') (cs : List Char) :
    StartsScalar (c :: cs) := by
  rcases hc with rfl | rfl
  · exact ⟨⟨List.cons_ne_nil _ _, .cons rfl rfl (by decide) (by decide), rfl, rfl, rfl⟩, nofun⟩
  · exact ⟨⟨List.cons_ne_nil _ _, .cons rfl rfl (by decide) (by decide), rfl, rfl, rfl⟩, nofun⟩

theorem exists_of_isMarker {cs : List Char} (h : isMarker cs = true) :
    ∃ c rest, (c = '-' ∨ c = '.') ∧ cs = c :: c :: c :: rest := by
  unfold isMarker at h
  split at h
  · exact ⟨'-', _, Or.inl rfl, rfl⟩
  · exact ⟨'.', _, Or.inr rfl, rfl⟩
  · cases h

theorem StartsScalar.key_eq {cs : List Char} (h : StartsScalar cs) (column : Nat) :
    key column cs = shortKey column cs := by
  unfold key
  split
  · rename_i rest
    rw [if_neg (by simp [h.no_question rest rfl])]
  · rfl

theorem isMarker_append {cs : List Char} (hne : cs ≠ []) (hstarts : startsSpecial cs = false)
    {more : List Char} (hmore : ∀ c ∈ more.head?, c ≠ '-' ∧ c ≠ '.') :
    isMarker (cs ++ more) = false := by
  rw [← Bool.not_eq_true]
  intro hmarker
  obtain ⟨c, rest, hc, heq⟩ := exists_of_isMarker hmarker
  have hcut {xs : List Char} (h : more = c :: xs) : False := by
    have hfirst := hmore c (by rw [h, List.head?_cons]; rfl)
    exact hc.elim hfirst.1 hfirst.2
  match cs, hne with
  | [a], _ => exact hcut (List.cons.inj heq).2
  | [a, b], _ => exact hcut (List.cons.inj (List.cons.inj heq).2).2
  | a :: b :: d :: cs, _ =>
    obtain ⟨rfl, heq⟩ := List.cons.inj heq
    obtain ⟨rfl, heq⟩ := List.cons.inj heq
    obtain ⟨rfl, -⟩ := List.cons.inj heq
    rw [startsSpecial, Bool.or_eq_false_iff] at hstarts
    rcases hc with rfl | rfl
    · exact absurd hstarts.1 (by simp)
    · exact absurd hstarts.1 (by simp)

theorem Scalar.IsWritable.starts {s : Scalar} (h : s.IsWritable) (indent : Nat)
    (more : List Char) (hmore : ∀ c ∈ more.head?, c ≠ '-' ∧ c ≠ '.') :
    StartsScalar (s.inline indent ++ more) := by
  rcases h.cases indent with ⟨hne, hplain, hinline, -⟩ | ⟨hstyle, hinline, -⟩
  · rw [hinline]
    have hmarker := isMarker_append hne hplain.starts hmore
    generalize s.text.toList = cs at hne hplain hmarker
    cases cs with
    | nil => exact absurd rfl hne
    | cons c cs =>
      obtain ⟨hblank, hbreak, hhead⟩ := hplain.head
      have hindicator {d : Char} (hd : isIndicator d = true) (hd' : d ∉ ['?', ':', '-']) :
          c ≠ d := by
        rintro rfl
        rcases hhead with ⟨hc, -⟩ | ⟨-, hc⟩
        · exact hd' hc
        · rw [hd] at hc
          cases hc
      have hgap {d : Char} (hd : d ∈ ['?', ':', '-']) (hc : c = d) :
          atGap (cs ++ more) = false := by
        rcases hhead with ⟨-, hgap⟩ | ⟨hnot, -⟩
        · exact atGap_append hgap more
        · exact absurd (hc ▸ hd) hnot
      have hescape : needsEscape c = false := (hplain.chars c List.mem_cons_self).1
      have hmark : c ≠ byteOrderMark := by
        rintro rfl
        cases hescape
      refine ⟨⟨List.cons_ne_nil _ _, .cons hblank hbreak (hindicator (by decide) (by decide)) hmark,
        hmarker, ?_, ?_⟩, ?_⟩
      · unfold atBracket
        split
        · rename_i heq
          exact absurd (List.cons.inj heq).1 (hindicator (by decide) (by decide))
        · rename_i heq
          exact absurd (List.cons.inj heq).1 (hindicator (by decide) (by decide))
        · rfl
      · unfold atDash
        split
        · rename_i heq
          obtain ⟨hc, rfl⟩ := List.cons.inj heq
          exact hgap (by decide) hc
        · rfl
      · intro rest heq
        obtain ⟨hc, rfl⟩ := List.cons.inj heq
        exact hgap (by decide) hc
  · rw [hinline]
    cases hs : styleOf s.text with
    | plain => exact absurd hs hstyle
    | literal => exact absurd hs h.oneLine.styleOf_ne_literal
    | single =>
      rw [inlineText_of_single hs]
      exact .of_quote (Or.inl rfl) _
    | double =>
      rw [inlineText_of_double hs]
      exact .of_quote (Or.inr rfl) _

/-! ## Keys -/

/-- A key with its colon, from its first character on. -/
def keyBody (indent : Nat) (key : Scalar) : List Char :=
  if key.text.utf8ByteSize ≤ shortKeyBytes then
    inlineText (indent + indentStep) key.text ++ [':']
  else '?' :: ' ' :: (key.line (indent + indentStep) ++ pad indent ++ [':'])

/-- A key is a text that can be written on one line. -/
structure Scalar.IsKey (key : Scalar) : Prop where
  oneLine : OneLine key.text
  quoted : key.plain = false

namespace Scalar.IsKey

variable {k : Scalar} (h : k.IsKey)
include h

theorem isWritable : k.IsWritable :=
  ⟨h.oneLine, fun hplain => absurd hplain (by rw [h.quoted]; decide)⟩

theorem inline_eq (indent : Nat) : k.inline indent = inlineText indent k.text := by
  rw [inline, h.quoted, if_neg (by decide)]

theorem keyText_eq (indent : Nat) : keyText indent k = pad indent ++ keyBody indent k := by
  have hany : k.text.toList.any isBreak = false :=
    List.any_eq_false.mpr fun c hc => by rw [h.oneLine c hc]; decide
  rw [keyText, keyBody, hany]
  by_cases hshort : k.text.utf8ByteSize ≤ shortKeyBytes
  · rw [if_pos hshort, if_pos (by simpa using hshort), List.append_assoc]
  · rw [if_neg hshort, if_neg (by simpa using hshort)]
    simp only [List.append_assoc, List.cons_append, List.nil_append]

theorem isKeyText_inline (hshort : k.text.utf8ByteSize ≤ shortKeyBytes) (indent : Nat)
    (rest : List Char) : isKeyText (k.inline indent ++ rest) rest = true := by
  have hused : (k.inline indent ++ rest).take ((k.inline indent ++ rest).length - rest.length) =
      k.inline indent := by
    rw [List.length_append, Nat.add_sub_cancel, List.take_left]
  have hsize := utf8Len_inlineText_le h.oneLine indent
  rw [isKeyText, hused, Bool.and_eq_true, decide_eq_true_eq, String.utf8ByteSize_ofList,
    List.all_eq_true]
  refine ⟨?_, fun c hc => ?_⟩
  · rw [h.inline_eq, keyLimit]
    rw [shortKeyBytes] at hshort
    omega
  · have hc := h.isWritable.mem_inline hc
    rw [isWritten, Bool.and_eq_true] at hc
    exact hc.2

/-- **A short key is read back.** -/
theorem key_of_short (hshort : k.text.utf8ByteSize ≤ shortKeyBytes) (indent column : Nat)
    {rest : List Char} (hrest : atGap rest = true) :
    key column (k.inline indent ++ ':' :: rest) = some (k.reread, .colon false rest) := by
  have hstarts := h.isWritable.starts indent (':' :: rest) (by simp)
  obtain ⟨g, hread⟩ := h.isWritable.read_colon indent (column + 1) hrest
  rw [hstarts.key_eq, shortKey, hread, Option.bind_eq_bind, Option.bind_some]
  dsimp only
  rw [h.isKeyText_inline hshort, if_neg (by decide)]
  exact if_pos hrest

theorem longKey_read (indent column : Nat) {rest : List Char} (hrest : atGap rest = true) :
    longKey column (' ' :: (k.inline indent ++ '\n' :: (pad column ++ ':' :: rest))) =
      some (k.reread, .colon true rest) := by
  have hcolon : AtToken (':' :: rest) := .cons rfl rfl (by decide) (by decide)
  have hstarts := h.isWritable.starts indent
    ('\n' :: (pad column ++ ':' :: rest)) (by simp)
  have hread := h.isWritable.read_line indent (Nat.lt_succ_self column) hcolon
  rw [longKey, skipGap_blank, skipGap_of_atToken hstarts.token]
  dsimp only
  rw [if_neg (by simp [hstarts.isEmpty_eq, Gap.isBelow]), hread, Option.bind_eq_bind,
    Option.bind_some]
  dsimp only
  rw [afterLongKey, if_pos (by simp [hrest])]

/-- **A key is read back.** The colon of a long key stands on a line of its own. -/
theorem key_keyBody (indent : Nat) {rest : List Char} (hrest : atGap rest = true) :
    key indent (keyBody indent k ++ rest) = some (k.reread,
      .colon (!decide (k.text.utf8ByteSize ≤ shortKeyBytes)) rest) := by
  rw [keyBody]
  by_cases hshort : k.text.utf8ByteSize ≤ shortKeyBytes
  · rw [if_pos hshort, decide_eq_true hshort, List.append_assoc, ← h.inline_eq]
    exact h.key_of_short hshort (indent + indentStep) indent hrest
  · rw [if_neg hshort, decide_eq_false hshort, h.isWritable.line_eq]
    have hread := h.longKey_read (indent + indentStep) indent hrest
    simp only [List.append_assoc, List.cons_append, List.nil_append] at hread ⊢
    rw [key, if_pos (by rfl)]
    exact hread

theorem keyBody_starts (indent : Nat) (more : List Char) :
    StartsEntry (keyBody indent k ++ more) := by
  rw [keyBody]
  split_ifs with hshort
  · rw [List.append_assoc, ← h.inline_eq]
    exact (h.isWritable.starts (indent + indentStep) (':' :: more) (by simp)).toStartsEntry
  · exact ⟨List.cons_ne_nil _ _, .cons rfl rfl (by decide) (by decide), rfl, rfl, rfl⟩

end Scalar.IsKey

end DeckFilter.Settings
