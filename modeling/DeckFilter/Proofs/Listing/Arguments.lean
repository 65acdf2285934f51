import DeckFilter.Listing
import DeckFilter.Proofs.Entries.Set
import DeckFilter.Proofs.Text.Lines

/-!
# The arguments of a listing

Arguments are sorted one after the other. What comes out is said here of all of them at once: which
of them are files, which are options, and which are neither.

* `Listing.IsOption`, **`Listing.option?_eq_some`**, `Listing.option?_isSome`: what options are;
* `Listing.filesAmong`, `Listing.optionsAmong`, `Listing.restAmong`: arguments of each sort;
* **`Listing.parse_eq`**, `Listing.parse_file`: the arguments, sorted;
* `Listing.lastValue`, `Listing.find?_options`: the last value of an option counts.
-/

namespace DeckFilter.Listing

/-! ## Options -/

/-- An option has two colons and no more: its name stands between them, and its value after
them. -/
def IsOption (argument name value : String) : Prop :=
  ∃ before : String, argument = before ++ ":" ++ name ++ ":" ++ value ∧
    ':' ∉ before.toList ∧ ':' ∉ name.toList ∧ ':' ∉ value.toList

/-- **Options are read as they are spelled.** -/
theorem option?_eq_some {argument name value : String} :
    option? argument = some (name, value) ↔ IsOption argument name value := by
  have hpieces : option? argument = some (name, value) ↔
      ∃ before, Text.pieces ':' argument = [before, name, value] := by
    rw [option?]
    split
    · rename_i before name' value' h
      simp [h]
    · rename_i h
      exact iff_of_false nofun fun ⟨before, hthree⟩ => h before name value hthree
  rw [hpieces]
  refine exists_congr fun before => ?_
  have hspelled : (String.singleton ':').intercalate [before, name, value] =
      before ++ ":" ++ name ++ ":" ++ value := by
    simp [String.intercalate_cons_cons, String.append_assoc]
  have hplain : (∀ part ∈ [before, name, value], ':' ∉ part.toList) ↔
      ':' ∉ before.toList ∧ ':' ∉ name.toList ∧ ':' ∉ value.toList := by
    simp
  rw [Text.pieces_eq_iff, hspelled, hplain, and_iff_right (List.cons_ne_nil _ _), and_comm,
    eq_comm (a := argument)]

theorem option?_isSome {argument : String} :
    (option? argument).isSome ↔ argument.toList.count ':' = 2 := by
  have hlength := Text.length_pieces ':' argument
  rw [option?]
  split
  · rename_i h
    rw [h] at hlength
    exact iff_of_true rfl (by simpa using hlength.symm)
  · rename_i h
    refine iff_of_false nofun fun hcount => ?_
    rw [hcount] at hlength
    obtain ⟨before, name, value, hthree⟩ := List.length_eq_three.mp hlength
    exact h before name value hthree

/-! ## Sorting -/

variable (files : Files) (arguments : List String)

/-- The arguments that name existing files. -/
def filesAmong : List String := arguments.filter files.isFile

/-- The names and the values of the options; what names a file is no option. -/
def optionsAmong : List (String × String) :=
  (arguments.filter fun a => !files.isFile a).filterMap option?

/-- The arguments that are neither files nor options. -/
def restAmong : List String := arguments.filter fun a => !files.isFile a && (option? a).isNone

/-- **The arguments, sorted.** Of the files only the last one is kept. -/
theorem parse_eq : parse files arguments =
    ⟨(filesAmong files arguments).getLast?, restAmong files arguments,
      Entries.ofList (optionsAmong files arguments), arguments⟩ := by
  have hfold (xs : List String) : xs.foldl (take files) ⟨none, [], [], arguments⟩ =
      ⟨(filesAmong files xs).getLast?, restAmong files xs,
        Entries.ofList (optionsAmong files xs), arguments⟩ := by
    induction xs using List.reverseRecOn with
    | nil => rfl
    | append_singleton xs x ih =>
      rw [List.foldl_append, ih, List.foldl_cons, List.foldl_nil, take]
      by_cases hfile : files.isFile x = true
      · simp [filesAmong, restAmong, optionsAmong, hfile]
      · cases hoption : option? x with
        | none => simp [filesAmong, restAmong, optionsAmong, hfile, hoption]
        | some option =>
          simp [filesAmong, restAmong, optionsAmong, hfile, hoption, Entries.ofList]
  exact hfold arguments

theorem parse_file :
    (parse files arguments).file = (arguments.filter files.isFile).getLast? :=
  congrArg Listing.file (parse_eq files arguments)

/-- The value of the last option of a name. -/
def lastValue (name : String) : Option String :=
  (((optionsAmong files arguments).filter fun o => o.1 = name).getLast?).map Prod.snd

/-- **The last option of a name counts.** -/
theorem find?_options (name : String) :
    (parse files arguments).options.find? name = lastValue files arguments name := by
  rw [parse_eq]
  exact Entries.find?_ofList _ name

end DeckFilter.Listing
