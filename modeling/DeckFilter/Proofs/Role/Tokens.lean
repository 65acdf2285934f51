import DeckFilter.Container
import DeckFilter.Proofs.Text.Lines
import DeckFilter.Role

/-!
# The words of a literal

A literal is split at its blanks into words, and inlines are flattened into the text of their words
and blanks. Flattening undoes splitting. It is undone by splitting as long as words and blanks take
turns and there is no blank within a word, so a literal can be split in one way only.

* `spaced`, **`join_spaced`**: words with a blank between any two, and their text;
* `Alternates`, `alternates_iff`: inlines in which words and blanks take turns;
* `IsSplit`, **`isSplit_iff`**: the split of a text;
* `literals_split_in_one_way`: it is unique, and so is the text.
-/

namespace DeckFilter

/-! ## Words and blanks -/

/-- Words with a blank between any two. -/
def spaced (words : List String) : List Inline := (words.map Inline.str).intersperse .space

theorem tokenize_eq_spaced (text : String) : tokenize text = spaced (Text.pieces ' ' text) := rfl

theorem spaced_cons_cons (word word' : String) (words : List String) :
    spaced (word :: word' :: words) = .str word :: .space :: spaced (word' :: words) := rfl

theorem str_mem_spaced {word : String} :
    ∀ {words : List String}, .str word ∈ spaced words ↔ word ∈ words
  | [] => by simp [spaced]
  | [first] => by simp [spaced]
  | first :: second :: words => by
    have ih : .str word ∈ spaced (second :: words) ↔ word ∈ second :: words := str_mem_spaced
    rw [spaced_cons_cons, List.mem_cons, List.mem_cons, ih, List.mem_cons]
    simp

/-- The inline is a blank. -/
def Inline.isBlank : Inline → Bool
  | space => true
  | _ => false

theorem countP_spaced : ∀ {words : List String}, words ≠ [] →
    (spaced words).countP Inline.isBlank + 1 = words.length
  | [], h => absurd rfl h
  | [_], _ => rfl
  | word :: word' :: words, _ => by
    have ih := countP_spaced (List.cons_ne_nil word' words)
    rw [spaced_cons_cons, List.countP_cons_of_neg Bool.false_ne_true,
      List.countP_cons_of_pos rfl, ih]
    rfl

/-- **Words with blanks between them spell their text**, whatever else inlines would say. -/
theorem join_spaced (say : Inline → String) (hword : ∀ word, say (.str word) = word)
    (hblank : say .space = " ") : ∀ words : List String,
      String.join ((spaced words).map say) = " ".intercalate words
  | [] => rfl
  | [word] => by simp [spaced, hword]
  | word :: word' :: words => by
    have ih := join_spaced say hword hblank (word' :: words)
    rw [spaced_cons_cons, List.map_cons, List.map_cons, String.join_cons, String.join_cons, ih,
      hword, hblank, String.intercalate_cons_cons, String.append_assoc]

/-! ## Taking turns -/

/-- Words and blanks take turns, from the first word to the last. -/
inductive Alternates : List Inline → Prop where
  | last (word : String) : Alternates [.str word]
  | word (word : String) {tokens : List Inline} (h : Alternates tokens) :
      Alternates (.str word :: .space :: tokens)

theorem alternates_spaced : ∀ {words : List String}, words ≠ [] → Alternates (spaced words)
  | [], h => absurd rfl h
  | [word], _ => .last word
  | word :: word' :: words, _ => .word word (alternates_spaced (List.cons_ne_nil word' words))

theorem alternates_iff {tokens : List Inline} :
    Alternates tokens ↔ ∃ words, words ≠ [] ∧ tokens = spaced words := by
  constructor
  · intro h
    induction h with
    | last word => exact ⟨[word], List.cons_ne_nil _ _, rfl⟩
    | word word _ ih =>
      obtain ⟨words, hne, rfl⟩ := ih
      obtain ⟨word', words, rfl⟩ := List.exists_cons_of_ne_nil hne
      exact ⟨word :: word' :: words, List.cons_ne_nil _ _, rfl⟩
  · rintro ⟨words, hne, rfl⟩
    exact alternates_spaced hne

theorem Alternates.mem {tokens : List Inline} (h : Alternates tokens) {x : Inline}
    (hx : x ∈ tokens) : x = .space ∨ ∃ word, x = .str word := by
  induction h with
  | last word => exact Or.inr ⟨word, List.mem_singleton.mp hx⟩
  | word word _ ih =>
    rcases List.mem_cons.mp hx with rfl | hx
    · exact Or.inr ⟨word, rfl⟩
    rcases List.mem_cons.mp hx with rfl | hx
    · exact Or.inl rfl
    · exact ih hx

theorem Alternates.leftOut {tokens : List Inline} (h : Alternates tokens) :
    Container.leftOut tokens = [] := by
  induction h with
  | last word => rfl
  | word word _ ih => exact ih

theorem Alternates.flatten_run {tokens : List Inline} (h : Alternates tokens) (ctx : Context) :
    (Container.flatten tokens).run ctx = (Container.plainText tokens, ctx) := by
  show (Container.plainText tokens,
    (Container.leftOut tokens).foldl (fun ctx i => ctx.record i) ctx) = _
  rw [h.leftOut]
  rfl

/-! ## Splits -/

/-- These tokens are a split of the text: words and blanks take turns, there are as many blanks as
in the text, none of them is within a word, and flattening the tokens gives the text without
recording anything. -/
structure IsSplit (text : String) (tokens : List Inline) : Prop where
  alternates : Alternates tokens
  blanks : tokens.countP Inline.isBlank = text.toList.count ' '
  unbroken : ∀ word, .str word ∈ tokens → ' ' ∉ word.toList
  spelled : ∀ ctx, (Container.flatten tokens).run ctx = (text, ctx)

theorem isSplit_tokenize (text : String) : IsSplit text (tokenize text) := by
  obtain ⟨hne, hplain, htext⟩ := Text.pieces_eq_iff.mp (rfl : Text.pieces ' ' text = _)
  have hlength := Text.length_pieces ' ' text
  rw [tokenize_eq_spaced]
  generalize Text.pieces ' ' text = words at hne hplain htext hlength
  have halternates := alternates_spaced hne
  refine ⟨halternates, ?_, fun word hword => hplain word (str_mem_spaced.mp hword), fun ctx => ?_⟩
  · have hblanks := countP_spaced hne
    omega
  · rw [halternates.flatten_run, Container.plainText,
      join_spaced Container.inlineText (fun _ => rfl) rfl]
    exact congrArg (·, ctx) htext

theorem mem_tokenize {text : String} {x : Inline} (h : x ∈ tokenize text) :
    x = .space ∨ ∃ word, x = .str word :=
  (isSplit_tokenize text).alternates.mem h

/-- **A text has one split**: the words of any other are the pieces of the text between its blanks
too. -/
theorem isSplit_iff {text : String} {tokens : List Inline} :
    IsSplit text tokens ↔ tokens = tokenize text := by
  constructor
  · intro h
    obtain ⟨words, hne, rfl⟩ := alternates_iff.mp h.alternates
    have hspelled := congrArg Prod.fst (h.spelled (.start ""))
    rw [h.alternates.flatten_run, Container.plainText,
      join_spaced Container.inlineText (fun _ => rfl) rfl] at hspelled
    have hpieces : Text.pieces ' ' text = words :=
      Text.pieces_eq_iff.mpr ⟨hne, fun word hword => h.unbroken word (str_mem_spaced.mpr hword),
        hspelled⟩
    rw [tokenize_eq_spaced, hpieces]
  · rintro rfl
    exact isSplit_tokenize text

/-- **Literals split in one way.** The tokens of a literal take turns as words and blanks, with as
many blanks as the literal has and none within a word, and flattening them gives the literal back
without recording anything. No other list of inlines does all of that, and literals that differ have
tokens that differ. -/
theorem literals_split_in_one_way :
    (∀ text tokens, IsSplit text tokens ↔ tokens = tokenize text) ∧
      Function.Injective tokenize := by
  refine ⟨fun text tokens => isSplit_iff, fun text text' h => ?_⟩
  have hspelled := (isSplit_tokenize text).spelled (.start "")
  rw [h, (isSplit_tokenize text').spelled] at hspelled
  exact (congrArg Prod.fst hspelled).symm

/-- A blank at the start, two in a row, and white space that is none. -/
example : tokenize " a  b\tc" =
    [.str "", .space, .str "a", .space, .str "", .space, .str "b\tc"] := by
  rfl

end DeckFilter
