import DeckFilter.Settings.Scan
import DeckFilter.Settings.Style
import Mathlib.Data.List.Basic

/-!
# Reading texts as they were written

A text without line breaks is read back from each style it can be written in. The reader keeps what
it has read in reverse, with the blanks it has passed since; it is at the same place in all styles
once these two are put together.

* `Settings.AtToken`, `Settings.skipGap_newline`: gaps;
* `Settings.plain_append`, `Settings.scalar_of_plain`: texts without quotes;
* `Settings.singleQuoted_singleText`, `Settings.doubleQuoted_flatMap`: texts between quotes;
* `Settings.scalar_of_quoted`: texts that are not written plainly.
-/

namespace DeckFilter.Settings

/-! ## Gaps -/

/-- A token comes next, or the end. -/
def AtToken (cs : List Char) : Prop :=
  ∀ c ∈ cs.head?, isBlank c = false ∧ isBreak c = false ∧ c ≠ '#' ∧ c ≠ byteOrderMark

theorem AtToken.cons {c : Char} {cs : List Char} (hblank : isBlank c = false)
    (hbreak : isBreak c = false) (hcomment : c ≠ '#') (hmark : c ≠ byteOrderMark) :
    AtToken (c :: cs) := by
  intro d hd
  obtain rfl := Option.some.inj hd
  exact ⟨hblank, hbreak, hcomment, hmark⟩

theorem atToken_nil : AtToken [] := nofun

theorem skipGap_of_atToken {cs : List Char} (h : AtToken cs) (tabs : Bool) (g : Gap) :
    skipGap false tabs false g cs = (g, cs) := by
  cases cs with
  | nil => rfl
  | cons c cs =>
    obtain ⟨hblank, hbreak, hcomment, hmark⟩ := h c rfl
    have hspace : ¬(c = ' ' ∨ c = '\t' ∧ tabs = true) := by
      rintro (rfl | ⟨rfl, -⟩) <;> cases hblank
    rw [skipGap, if_neg (by simp [hbreak]), if_neg (by simp), if_neg fun h => hmark h.1,
      if_neg hspace, if_neg hcomment]

theorem skipGap_blank (tabs : Bool) (g : Gap) (cs : List Char) :
    skipGap false tabs false g (' ' :: cs) =
      skipGap false tabs false { g with column := g.column + 1 } cs := by
  rw [skipGap, if_neg (by decide), if_neg (by decide), if_neg fun h => absurd h.1 (by decide),
    if_pos (Or.inl rfl)]

theorem skipGap_pad (tabs : Bool) (n : Nat) (g : Gap) (cs : List Char) :
    skipGap false tabs false g (pad n ++ cs) =
      skipGap false tabs false { g with column := g.column + n } cs := by
  induction n generalizing g with
  | zero => rfl
  | succ n ih =>
    rw [pad, List.replicate_succ, List.cons_append, skipGap_blank]
    refine (ih _).trans ?_
    rw [Nat.add_assoc, Nat.add_comm 1 n]

theorem skipGap_newline {next : List Char} (h : AtToken next) (tabs : Bool) (g : Gap) (n : Nat) :
    skipGap false tabs false g ('\n' :: (pad n ++ next)) = (⟨true, n⟩, next) := by
  rw [skipGap, if_pos (by decide), skipGap_pad, skipGap_of_atToken h, Nat.zero_add]

theorem atGap_append {cs : List Char} (h : atGap cs = false) (more : List Char) :
    atGap (cs ++ more) = false := by
  cases cs with
  | nil => cases h
  | cons c cs => exact h

/-! ## Texts without quotes -/

theorem eq_space_of_isBlank {c : Char} (hblank : isBlank c = true) (h : needsEscape c = false) :
    c = ' ' := by
  rcases Bool.or_eq_true _ _ ▸ hblank with hc | hc
  · exact eq_of_beq hc
  · obtain rfl := eq_of_beq hc
    cases h

/-- What the text of a scalar without quotes is like. -/
structure IsPlain (cs : List Char) : Prop where
  chars : ∀ c ∈ cs, needsEscape c = false ∧ isBreak c = false
  first : cs.head? ≠ some ' '
  last : cs.getLast? ≠ some ' '
  starts : startsSpecial cs = false
  holds : holdsSpecial cs = false

theorem isPlain_of_allowsPlain {cs : List Char} (h : allowsPlain cs = true) : IsPlain cs := by
  simp only [allowsPlain, Bool.not_eq_true', Bool.or_eq_false_iff, beq_eq_false_iff_ne,
    List.any_eq_false, Bool.not_eq_true] at h
  obtain ⟨⟨⟨⟨⟨hescape, hbreak⟩, hfirst⟩, hlast⟩, hstarts⟩, hholds⟩ := h
  exact ⟨fun c hc => ⟨hescape c hc, hbreak c hc⟩, hfirst, hlast, hstarts, hholds⟩

theorem plain_blank (indent : Nat) (text blanks : List Char) (column : Nat) (cs : List Char) :
    plain false indent text (.blanks blanks) column (' ' :: cs) =
      plain false indent text (.blanks (' ' :: blanks)) (column + 1) cs := by
  rw [plain, if_pos (by decide), if_neg (by simp [Fold.broke])]
  rfl

theorem plain_char (indent : Nat) (text blanks : List Char) (column : Nat) {c : Char}
    {cs : List Char} (hblank : isBlank c = false) (hbreak : isBreak c = false)
    (hcomment : blanks ≠ [] → c ≠ '#') (hcolon : c = ':' → atGap cs = false) :
    plain false indent text (.blanks blanks) column (c :: cs) =
      plain false indent (c :: (blanks ++ text)) .empty column cs := by
  have hends : endsPlain false indent (.blanks blanks) column c cs = false := by
    have hcomment : (!blanks.isEmpty && c == '#') = false := by
      cases blanks with
      | nil => rfl
      | cons b blanks => simpa using hcomment
    have hcolon : (c == ':' && atGap cs) = false := by simpa using hcolon
    simp only [endsPlain, Fold.broke, Fold.some?, Bool.false_and, Bool.or_false, hcomment,
      hcolon]
  rw [plain, if_neg (by simp [hblank]), if_neg (by simp [hbreak]), if_neg (by simp [hends]),
    if_neg (by simp [isStrayColon]), Fold.text, List.reverse_reverse]

/-- **The rest of a text is read character by character**, `a` being the last one that was read. -/
theorem plain_append (indent : Nat) {cs : List Char}
    (hchars : ∀ c ∈ cs, needsEscape c = false ∧ isBreak c = false) {a : Char}
    (hholds : holdsSpecial (a :: cs) = false) (hlast : (a :: cs).getLast? ≠ some ' ')
    (text blanks : List Char) (hblanks : blanks ≠ [] → a = ' ') (column : Nat)
    (tail : List Char) :
    ∃ column', plain false indent text (.blanks blanks) column (cs ++ tail) =
      plain false indent (cs.reverse ++ (blanks ++ text)) .empty column' tail := by
  induction cs generalizing a text blanks column with
  | nil =>
    have hnone : blanks = [] := by
      by_contra h
      exact hlast (congrArg some (hblanks h))
    exact ⟨column, by rw [hnone]; rfl⟩
  | cons c cs ih =>
    obtain ⟨hc, hcs⟩ := List.forall_mem_cons.mp hchars
    rw [holdsSpecial, Bool.or_eq_false_iff, Bool.or_eq_false_iff, Bool.and_eq_false_imp,
      Bool.and_eq_false_imp] at hholds
    obtain ⟨⟨hcolon, hcomment⟩, hholds⟩ := hholds
    rw [List.getLast?_cons_cons] at hlast
    rw [List.reverse_cons, List.append_assoc, List.singleton_append]
    by_cases hblank : isBlank c = true
    · obtain rfl := eq_space_of_isBlank hblank hc.1
      rw [List.cons_append, plain_blank]
      exact ih hcs hholds hlast text (' ' :: blanks) (fun _ => rfl) (column + 1)
    · rw [List.cons_append,
        plain_char indent text blanks column (Bool.eq_false_iff.mpr hblank) hc.2]
      · exact ih hcs hholds hlast _ [] (fun h => absurd rfl h) column
      · rintro hsome rfl
        obtain rfl := hblanks hsome
        cases hcomment rfl
      · rintro rfl
        exact atGap_append (hcolon rfl) tail

theorem IsPlain.head {c : Char} {cs : List Char} (h : IsPlain (c :: cs)) :
    isBlank c = false ∧ isBreak c = false ∧
      (c ∈ ['?', ':', '-'] ∧ atGap cs = false ∨ c ∉ ['?', ':', '-'] ∧ isIndicator c = false) := by
  obtain ⟨hescape, hbreak⟩ := h.chars c List.mem_cons_self
  refine ⟨?_, hbreak, ?_⟩
  · rw [← Bool.not_eq_true]
    intro hblank
    exact h.first (congrArg some (eq_space_of_isBlank hblank hescape))
  · have hstarts := h.starts
    rw [startsSpecial, Bool.or_eq_false_iff] at hstarts
    by_cases hc : c ∈ ['?', ':', '-']
    · rw [if_pos (List.elem_iff.mpr hc)] at hstarts
      exact Or.inl ⟨hc, hstarts.2⟩
    · rw [if_neg fun h => hc (List.elem_iff.mp h)] at hstarts
      exact Or.inr ⟨hc, hstarts.2⟩

/-- **A text without quotes is read up to its end.** -/
theorem scalar_of_plain {cs : List Char} (hne : cs ≠ []) (h : IsPlain cs) (indent : Nat)
    (tail : List Char) :
    ∃ column, scalar false indent (cs ++ tail) =
      (plain false indent cs.reverse .empty column tail).map fun p =>
        (⟨String.ofList p.1, true⟩, skipGap false (!p.2.1.broke) false p.2.1 p.2.2) := by
  cases cs with
  | nil => exact absurd rfl hne
  | cons c cs =>
    obtain ⟨hblank, hbreak, hhead⟩ := h.head
    have hstarts : startsPlain false (c :: (cs ++ tail)) = true := by
      rw [startsPlain, hblank, hbreak]
      rcases hhead with ⟨hc, hgap⟩ | ⟨-, hindicator⟩
      · rw [atGap_append hgap tail]
        simp only [List.mem_cons, List.not_mem_nil, or_false] at hc
        rcases hc with rfl | rfl | rfl <;> rfl
      · rw [hindicator]
        rfl
    have hquotes : c ≠ '\'' ∧ c ≠ '"' := by
      constructor
      · rintro rfl
        rcases hhead with ⟨hc, -⟩ | ⟨-, hc⟩ <;> exact absurd hc (by decide)
      · rintro rfl
        rcases hhead with ⟨hc, -⟩ | ⟨-, hc⟩ <;> exact absurd hc (by decide)
    have hcolon : c = ':' → atGap (cs ++ tail) = false := by
      rintro rfl
      rcases hhead with ⟨-, hgap⟩ | ⟨hc, -⟩
      · exact atGap_append hgap tail
      · exact absurd hc (by decide)
    obtain ⟨hchar, hchars⟩ := List.forall_mem_cons.mp h.chars
    obtain ⟨column, hrest⟩ := plain_append indent hchars h.holds h.last [c] []
      (fun h => absurd rfl h) 0 tail
    refine ⟨column, ?_⟩
    have hfirst := plain_char indent [] [] 0 hblank hbreak (fun h => absurd rfl h) hcolon
    rw [List.cons_append, scalar, if_pos hstarts]
    · change ((plain false indent [] (.blanks []) 0 (c :: (cs ++ tail))).bind _) = _
      rw [hfirst]
      change ((plain false indent [c] (.blanks []) 0 (cs ++ tail)).bind _) = _
      rw [hrest, List.reverse_cons, List.nil_append]
      cases plain false indent (cs.reverse ++ [c]) .empty column tail with
      | none => rfl
      | some p => rfl
    · intro cs' h
      exact hquotes.1 (List.cons.inj h).1
    · intro cs' h
      exact hquotes.2 (List.cons.inj h).1

theorem plain_colon {rest : List Char} (h : atGap rest = true) (indent : Nat) (text : List Char)
    (column : Nat) : plain false indent text .empty column (':' :: rest) =
      some (text.reverse, ⟨false, column⟩, ':' :: rest) := by
  have hends : endsPlain false indent .empty column ':' rest = true := by
    simp [endsPlain, h]
  rw [plain, if_neg (by decide), if_neg (by decide), if_pos hends]
  rfl

theorem plain_pad (indent n : Nat) (text : List Char) (c : Char) (column : Nat) (cs : List Char) :
    plain false indent text (.breaks (some c) []) column (pad n ++ cs) =
      plain false indent text (.breaks (some c) []) (column + n) cs := by
  induction n generalizing column with
  | zero => rfl
  | succ n ih =>
    rw [pad, List.replicate_succ, List.cons_append, plain, if_pos (by decide), if_neg (by simp)]
    refine (ih _).trans ?_
    rw [Nat.add_assoc, Nat.add_comm 1 n]

theorem plain_newline {next : List Char} (hnext : AtToken next) {n indent : Nat} (h : n < indent)
    (text : List Char) (column : Nat) :
    plain false indent text .empty column ('\n' :: (pad n ++ next)) =
      some (text.reverse, ⟨true, n⟩, next) := by
  have hbreak : plain false indent text .empty column ('\n' :: (pad n ++ next)) =
      plain false indent text (.breaks (some '\n') []) 0 (pad n ++ next) := by
    rw [plain, if_neg (by decide), if_pos (by decide)]
    rfl
  rw [hbreak, plain_pad, Nat.zero_add]
  cases next with
  | nil => rfl
  | cons c next =>
    obtain ⟨hblank, hc, -, -⟩ := hnext c rfl
    have hends : endsPlain false indent (.breaks (some '\n') []) n c next = true := by
      simp [endsPlain, Fold.broke, h]
    rw [plain, if_neg (by simp [hblank]), if_neg (by simp [hc]), if_pos hends]
    rfl

/-! ## Texts between single quotes -/

/-- **A text between single quotes is read back** if it has no line breaks. -/
theorem singleQuoted_singleText (indent : Nat) {cs : List Char}
    (hcs : ∀ c ∈ cs, isBreak c = false) (text blanks : List Char) {tail : List Char}
    (htail : tail.head? ≠ some '\'') :
    singleQuoted text (.blanks blanks) false (singleText indent false cs ++ tail) =
      some (text.reverse ++ blanks.reverse ++ cs, tail) := by
  induction cs generalizing text blanks with
  | nil =>
    have hend : ∀ cs', '\'' :: tail = '\'' :: '\'' :: cs' → False := by
      intro cs' h
      rw [(List.cons.inj h).2] at htail
      exact htail rfl
    rw [singleText, List.append_assoc]
    change singleQuoted text (.blanks blanks) false ('\'' :: tail) = _
    rw [singleQuoted, if_neg (by simp), if_pos rfl, List.append_nil]
    · rfl
    · intro cs' h₁ h₂
      exact hend cs' (by rw [h₂])
  | cons c cs ih =>
    obtain ⟨hc, hrest⟩ := List.forall_mem_cons.mp hcs
    rw [singleText, if_neg (by simp [hc])]
    change singleQuoted text (.blanks blanks) false
      ((if c = '\'' then ['\'', '\''] else [c]) ++ singleText indent false cs ++ tail) = _
    rw [List.append_assoc]
    by_cases hquote : c = '\''
    · subst hquote
      rw [if_pos rfl]
      change singleQuoted text (.blanks blanks) false
        ('\'' :: '\'' :: (singleText indent false cs ++ tail)) = _
      rw [singleQuoted, Fold.text]
      exact (ih hrest ('\'' :: (blanks.reverse.reverse ++ text)) []).trans (by simp)
    · rw [if_neg hquote, List.singleton_append, singleQuoted, if_neg (by simp), if_neg hquote]
      · by_cases hblank : isBlank c = true
        · rw [if_pos hblank]
          exact (ih hrest text (c :: blanks)).trans (by simp)
        · rw [if_neg hblank, if_neg (by simp [hc]), Fold.text]
          exact (ih hrest (c :: (blanks.reverse.reverse ++ text)) []).trans (by simp)
      · intro cs' h _
        exact hquote h

/-! ## Texts between double quotes -/

/-- Characters that do not stand between double quotes as they are, quotes and backslashes aside. -/
def isEscaped (c : Char) : Bool := needsEscape c || isBreak c

theorem isEscaped_cases {c : Char} (h : isEscaped c = true) :
    c.toNat < 160 ∨ c.toNat ∈ [0x2028, 0x2029, 0xFEFF, 0xFFFE, 0xFFFF] := by
  rcases Bool.or_eq_true _ _ ▸ h with h | h
  · simp only [needsEscape, Bool.not_eq_true', Bool.or_eq_false_iff, Bool.and_eq_false_imp,
      Bool.and_eq_true, decide_eq_true_eq, decide_eq_false_iff_not, beq_eq_false_iff_ne,
      bne_eq_false_iff_eq] at h
    simp only [List.mem_cons, List.not_mem_nil, or_false]
    omega
  · simp only [isBreak, Bool.or_eq_true, beq_iff_eq] at h
    rcases h with (((rfl | rfl) | rfl) | rfl) | rfl <;> decide

theorem of_isEscaped {p : Char → Prop}
    (h : ∀ n < 160, isEscaped (Char.ofNat n) = true → p (Char.ofNat n))
    (h' : ∀ n ∈ [0x2028, 0x2029, 0xFEFF, 0xFFFE, 0xFFFF], p (Char.ofNat n)) {c : Char}
    (hc : isEscaped c = true) : p c := by
  rw [← Char.ofNat_toNat c] at hc ⊢
  rw [Char.ofNat_toNat] at hc
  rcases isEscaped_cases hc with hn | hn
  · exact h _ hn (by rwa [Char.ofNat_toNat])
  · exact h' _ hn

/-- The number of hexadecimal digits, those of `value` having been read before. -/
def hexNumber? (value : Nat) (ds : List Char) : Option Nat :=
  ds.foldlM (fun n d => (Text.hexValue d).map (n * 16 + ·)) value

/-- An escape stands for a character: a letter, or a letter and the digits of its number. -/
def isEscapeOf (c : Char) : List Char → Bool
  | ['\\', l] => !isBreak l && escapeLetter l == some c
  | '\\' :: l :: ds => !isBreak l && escapeLetter l == none && escapeWidth l == some ds.length &&
      (hexNumber? 0 ds).bind charOf == some c
  | _ => false

theorem isEscapeOf_doubleChar {c : Char} (h : isEscaped c = true) :
    isEscapeOf c (doubleChar c) = true :=
  of_isEscaped (p := fun c => isEscapeOf c (doubleChar c) = true) (by decide +kernel)
    (by decide +kernel) h

theorem doubleQuoted_digits {d : Char} {ds : List Char} {value n : Nat} {c : Char}
    (hds : hexNumber? value (d :: ds) = some n) (hc : charOf n = some c) (text more : List Char) :
    doubleQuoted (.digits (ds.length + 1) value) text .empty false (d :: ds ++ more) =
      doubleQuoted .text (c :: text) .empty false more := by
  induction ds generalizing d value with
  | nil =>
    obtain ⟨_, hd, hend⟩ := Option.bind_eq_some_iff.mp hds
    obtain ⟨m, hm, rfl⟩ := Option.map_eq_some_iff.mp hd
    obtain rfl := Option.some.inj hend
    rw [List.singleton_append, doubleQuoted, hm]
    dsimp only [List.length_nil]
    rw [if_pos (Nat.le_refl 1), hc]
  | cons e ds ih =>
    obtain ⟨_, hd, hds⟩ := Option.bind_eq_some_iff.mp hds
    obtain ⟨m, hm, rfl⟩ := Option.map_eq_some_iff.mp hd
    rw [List.cons_append, doubleQuoted, hm]
    exact ih hds

theorem doubleQuoted_escape {c : Char} {cs : List Char} (h : isEscapeOf c cs = true)
    (text blanks more : List Char) :
    doubleQuoted .text text (.blanks blanks) false (cs ++ more) =
      doubleQuoted .text (c :: (blanks ++ text)) .empty false more := by
  have hslash (l : Char) (ds : List Char) :
      doubleQuoted .text text (.blanks blanks) false ('\\' :: l :: ds ++ more) =
        doubleQuoted .backslash (blanks ++ text) .empty false (l :: (ds ++ more)) := by
    rw [List.cons_append, doubleQuoted, if_neg (by simp), if_neg (by decide), if_pos rfl, Fold.text,
      List.reverse_reverse]
    rfl
  unfold isEscapeOf at h
  split at h
  · rename_i l
    simp only [Bool.and_eq_true, Bool.not_eq_true', beq_iff_eq] at h
    rw [hslash, doubleQuoted, if_neg (by simp [h.1]), h.2]
    rfl
  · rename_i l ds hletter
    simp only [Bool.and_eq_true, Bool.not_eq_true', beq_iff_eq] at h
    obtain ⟨⟨⟨hbreak, hletter⟩, hwidth⟩, hnumber⟩ := h
    obtain ⟨n, hn, hc⟩ := Option.bind_eq_some_iff.mp hnumber
    rw [hslash, doubleQuoted, if_neg (by simp [hbreak]), hletter, hwidth]
    cases ds with
    | nil =>
      -- no letter has a number without digits
      exact absurd hwidth (by unfold escapeWidth; split <;> simp)
    | cons d ds =>
      rw [List.length_cons]
      exact doubleQuoted_digits hn hc _ _
  · cases h

@[elab_as_elim]
theorem doubleChar_cases {motive : Char → List Char → Prop} (quote : motive '"' ['\\', '"'])
    (slash : motive '\\' ['\\', '\\'])
    (escaped : ∀ c, isEscaped c = true → motive c (doubleChar c))
    (plain : ∀ c, c ≠ '"' → c ≠ '\\' → isEscaped c = false → motive c [c]) (c : Char) :
    motive c (doubleChar c) := by
  by_cases hquote : c = '"'
  · subst hquote
    exact quote
  by_cases hslash : c = '\\'
  · subst hslash
    exact slash
  cases hescaped : isEscaped c with
  | true => exact escaped c hescaped
  | false =>
    have hplain : doubleChar c = [c] := by
      rw [doubleChar, if_neg hquote, if_neg hslash,
        if_pos (by simpa [isEscaped, Bool.or_eq_false_iff] using hescaped)]
    exact hplain ▸ plain c hquote hslash hescaped

theorem doubleQuoted_doubleChar (c : Char) (text blanks more : List Char) :
    ∃ text' blanks', doubleQuoted .text text (.blanks blanks) false (doubleChar c ++ more) =
        doubleQuoted .text text' (.blanks blanks') false more ∧
      text'.reverse ++ blanks'.reverse = text.reverse ++ blanks.reverse ++ [c] := by
  have hread {c : Char} {cs : List Char} (h : isEscapeOf c cs = true) :
      ∃ text' blanks', doubleQuoted .text text (.blanks blanks) false (cs ++ more) =
          doubleQuoted .text text' (.blanks blanks') false more ∧
        text'.reverse ++ blanks'.reverse = text.reverse ++ blanks.reverse ++ [c] :=
    ⟨_, [], doubleQuoted_escape h text blanks more, by simp⟩
  induction c using doubleChar_cases with
  | quote => exact hread rfl
  | slash => exact hread rfl
  | escaped c hescaped => exact hread (isEscapeOf_doubleChar hescaped)
  | plain c hquote hslash hescaped =>
    have hbreak := (Bool.or_eq_false_iff.mp hescaped).2
    rw [List.singleton_append, doubleQuoted, if_neg (by simp), if_neg hquote, if_neg hslash]
    by_cases hblank : isBlank c = true
    · rw [if_pos hblank]
      exact ⟨text, c :: blanks, rfl, by simp⟩
    · rw [if_neg hblank, if_neg (by simp [hbreak]), Fold.text, List.reverse_reverse]
      exact ⟨_, [], rfl, by simp⟩

/-- **A text between double quotes is read back**, whatever its characters are. -/
theorem doubleQuoted_flatMap (cs text blanks tail : List Char) :
    doubleQuoted .text text (.blanks blanks) false (cs.flatMap doubleChar ++ '"' :: tail) =
      some (text.reverse ++ blanks.reverse ++ cs, tail) := by
  induction cs generalizing text blanks with
  | nil =>
    rw [List.flatMap_nil, List.nil_append, doubleQuoted, if_neg (by simp), if_pos rfl,
      List.append_nil]
    rfl
  | cons c cs ih =>
    obtain ⟨text', blanks', hc, hread⟩ :=
      doubleQuoted_doubleChar c text blanks (cs.flatMap doubleChar ++ '"' :: tail)
    rw [List.flatMap_cons, List.append_assoc, hc, ih, hread, List.append_assoc,
      List.singleton_append]

/-! ## Texts in the style they are written in -/

/-- A text has no line breaks. -/
def OneLine (s : String) : Prop := ∀ c ∈ s.toList, isBreak c = false

instance (s : String) : Decidable (OneLine s) :=
  decidable_of_iff (s.toList.all (!isBreak ·)) (by simp [OneLine])

theorem OneLine.styleOf_ne_literal {s : String} (h : OneLine s) : styleOf s ≠ .literal := by
  have hfeed : s.toList.contains '\n' = false := by
    rw [← Bool.not_eq_true, List.contains_iff_mem]
    intro hfeed
    exact absurd (h '\n' hfeed) (by decide)
  rw [styleOf, hfeed, if_neg (by decide)]
  split_ifs <;> nofun

theorem of_styleOf_eq_plain {s : String} (h : styleOf s = .plain) :
    isAmbiguous s = false ∧ IsPlain s.toList := by
  rw [styleOf] at h
  split_ifs at h with hfeed hliteral hplain hsingle
  rw [Bool.and_eq_true, Bool.not_eq_true'] at hplain
  exact ⟨hplain.1, isPlain_of_allowsPlain hplain.2⟩

theorem inlineText_of_single {s : String} (h : styleOf s = .single) (indent : Nat) :
    inlineText indent s = '\'' :: singleText indent false s.toList := by
  rw [inlineText, h]

theorem inlineText_of_plain {s : String} (h : styleOf s = .plain) (indent : Nat) :
    inlineText indent s = s.toList := by
  rw [inlineText, h]

theorem inlineText_of_double {s : String} (h : styleOf s = .double) (indent : Nat) :
    inlineText indent s = '"' :: s.toList.flatMap doubleChar ++ ['"'] := by
  rw [inlineText, h]

/-- **A text between quotes is read up to the end of its quotes.** -/
theorem scalar_of_quoted {s : String} (h : OneLine s) (hstyle : styleOf s ≠ .plain)
    (indent column : Nat) {tail : List Char} (htail : tail.head? ≠ some '\'') :
    scalar false column (inlineText indent s ++ tail) =
      some (⟨s, false⟩, skipGap false true false .none tail) := by
  cases hs : styleOf s with
  | plain => exact absurd hs hstyle
  | literal => exact absurd hs h.styleOf_ne_literal
  | single =>
    have hread := singleQuoted_singleText indent h [] [] htail
    rw [inlineText_of_single hs, List.cons_append, scalar]
    change (singleQuoted [] (.blanks []) false _).bind _ = _
    rw [hread]
    exact congrArg (fun t => some (Scalar.mk t false, _)) String.ofList_toList
  | double =>
    have hread := doubleQuoted_flatMap s.toList [] [] tail
    rw [inlineText_of_double hs, List.append_assoc, List.cons_append, scalar]
    change (doubleQuoted .text [] (.blanks []) false _).bind _ = _
    rw [List.singleton_append, hread]
    exact congrArg (fun t => some (Scalar.mk t false, _)) String.ofList_toList

end DeckFilter.Settings
