import DeckFilter.Files.Tree
import DeckFilter.Proofs.Entries.Set
import Mathlib.Tactic.SplitIfs

/-!
# What a change of one file leaves

A name is followed through directories, and a file is never put where a directory is. So whatever is
put in place of a file, all names lead where they led, and what they name is different for those
alone that lead to the changed file.

* `Tree.content?`: what a name names, if anything;
* `Tree.find?_put`, `Tree.put_put`: what there is after a change;
* `Tree.SameDirectories`: two trees with the same ways through them;
* `Tree.target_eq_ok`: where a file can be put;
* `Tree.content?_put_of_locate`, `Tree.content?_put_of_ne`: what names name after a change.
-/

namespace DeckFilter

theorem Except.toOption_bind {ε α β : Type} (x : Except ε α) (f : α → Except ε β) :
    (x >>= f).toOption = x.toOption.bind fun a => (f a).toOption := by
  cases x <;> rfl

theorem Except.toOption_eq_some {ε α : Type} {x : Except ε α} {a : α} :
    x.toOption = some a ↔ x = .ok a := by
  cases x <;> simp [Except.toOption]

namespace Tree

variable {t t' : Tree} {path : List String} {node : FileNode} {name : String}

/-- What a name names, if anything. -/
def content? (t : Tree) (name : String) : Option FileNode := (t.lookup name).toOption

/-! ## Paths -/

theorem find?_put (hpath : path ≠ []) (node : FileNode) (other : List String) :
    (t.put path node).find? other = if other = path then some node else t.find? other := by
  cases other with
  | nil => exact (if_neg hpath.symm).symm
  | cons part rest =>
    change List.lookup _ ((path, node) :: _) = _
    rw [List.lookup_cons]
    by_cases h : part :: rest = path
    · rw [if_pos h, beq_iff_eq.mpr h]
    · rw [if_neg h, beq_eq_false_iff_ne.mpr h, lookup_filter_ne h]
      rfl

theorem put_put (path : List String) (node node' : FileNode) :
    (t.put path node).put path node' = t.put path node' := by
  rw [put, put, put, List.filter_cons_of_neg (by simp), List.filter_filter]
  simp only [Bool.and_self]

/-! ## Ways -/

/-- Names are followed from the same directory and through the same directories. -/
structure SameDirectories (t t' : Tree) : Prop where
  working : t'.workingDirectory = t.workingDirectory
  directories : ∀ path, t'.find? path = some .directory ↔ t.find? path = some .directory

theorem step_of_not_directory (h : t.find? path ≠ some .directory) (part : String) :
    (t.step path part).toOption = none := by
  rw [step]
  cases hfind : t.find? path with
  | none => rfl
  | some node =>
    cases node with
    | file bytes => rfl
    | directory => exact absurd hfind h

theorem step_toOption (h : SameDirectories t t') (path : List String) (part : String) :
    (t'.step path part).toOption = (t.step path part).toOption := by
  by_cases hdirectory : t.find? path = some .directory
  · rw [step, step, hdirectory, (h.directories path).mpr hdirectory]
  · have hdirectory' := fun h' => hdirectory ((h.directories path).mp h')
    rw [step_of_not_directory hdirectory, step_of_not_directory hdirectory']

theorem foldlM_step_toOption (h : SameDirectories t t') (parts : List String)
    (path : List String) :
    (parts.foldlM t'.step path).toOption = (parts.foldlM t.step path).toOption := by
  induction parts generalizing path with
  | nil => rfl
  | cons part parts ih =>
    rw [List.foldlM_cons, List.foldlM_cons, Except.toOption_bind, Except.toOption_bind,
      step_toOption h]
    exact congrArg _ (funext ih)

/-- **A name leads to the same path through the same directories.** -/
theorem locate_toOption (h : SameDirectories t t') (name : String) :
    (t'.locate name).toOption = (t.locate name).toOption := by
  rw [locate, locate, follow, follow, Except.toOption_bind, Except.toOption_bind, h.working]
  exact congrArg _ (funext fun _ => foldlM_step_toOption h _ _)

theorem locate_eq_ok (h : SameDirectories t t') :
    t'.locate name = .ok path ↔ t.locate name = .ok path := by
  rw [← Except.toOption_eq_some, ← Except.toOption_eq_some, locate_toOption h]

theorem content?_eq (t : Tree) (name : String) :
    t.content? name = (t.locate name).toOption.bind t.find? := by
  rw [content?, lookup, Except.toOption_bind]
  refine Option.bind_congr fun path _ => ?_
  cases t.find? path <;> rfl

/-! ## Files in place of files -/

/-- **A file can be put where a name leads**, if there is no directory and the name asks for
none. -/
theorem target_eq_ok : t.target name = .ok path ↔
    name.endsWith "/" = false ∧ t.locate name = .ok path ∧ t.find? path ≠ some .directory := by
  rw [target]
  split_ifs with hslash
  · refine iff_of_false (fun h => ?_) fun h => absurd hslash (by simp [h.1])
    cases hfollow : t.follow name (namesOf name).dropLast with
    | error e =>
      rw [hfollow] at h
      cases h
    | ok parent =>
      rw [hfollow] at h
      dsimp only [bind, Except.bind] at h
      split at h <;> cases h
  · rw [lookup]
    cases hlocate : t.locate name with
    | error e =>
      refine iff_of_false (fun h => ?_) nofun
      dsimp only [bind, Except.bind] at h
      split at h <;> cases h
    | ok other =>
      dsimp only [bind, Except.bind]
      rcases hfind : t.find? other with _ | (bytes | _)
      all_goals
        dsimp only
        grind

theorem write_eq_ok {bytes : ByteArray} (h : t.write name bytes = .ok t') :
    ∃ path, t.target name = .ok path ∧ t' = t.put path (.file bytes) := by
  rw [write] at h
  cases hpath : t.target name with
  | error e =>
    rw [hpath] at h
    cases h
  | ok path =>
    rw [hpath] at h
    exact ⟨path, rfl, (Except.ok.inj h).symm⟩

section Put

variable (h : t.find? path ≠ some .directory) (bytes : ByteArray)

include h

theorem ne_nil_of_find? : path ≠ [] := by
  rintro rfl
  exact h rfl

theorem bytesAt_put : (t.put path (.file bytes)).bytesAt path = bytes := by
  rw [bytesAt, find?_put (ne_nil_of_find? h), if_pos rfl]

theorem sameDirectories_put : SameDirectories t (t.put path (.file bytes)) where
  working := rfl
  directories other := by
    rw [find?_put (ne_nil_of_find? h)]
    split_ifs with hother
    · subst hother
      exact iff_of_false nofun h
    · rfl

/-- **A file that is put where a name leads is what it names.** -/
theorem content?_put_of_locate (hname : t.locate name = .ok path) :
    (t.put path (.file bytes)).content? name = some (.file bytes) := by
  rw [content?_eq, (locate_eq_ok (sameDirectories_put h bytes)).mpr hname]
  change (t.put path (.file bytes)).find? path = _
  rw [find?_put (ne_nil_of_find? h), if_pos rfl]

/-- **Names that do not lead there name what they named.** -/
theorem content?_put_of_ne (hname : t.locate name ≠ .ok path) :
    (t.put path (.file bytes)).content? name = t.content? name := by
  rw [content?_eq, content?_eq, locate_toOption (sameDirectories_put h bytes)]
  refine Option.bind_congr fun other hother => ?_
  have hne : other ≠ path := by
    rintro rfl
    exact hname (Except.toOption_eq_some.mp hother)
  rw [find?_put (ne_nil_of_find? h), if_neg hne]

theorem target_put (hname : t.target name = .ok path) :
    (t.put path (.file bytes)).target name = .ok path := by
  obtain ⟨hslash, hlocate, -⟩ := target_eq_ok.mp hname
  refine target_eq_ok.mpr ⟨hslash, (locate_eq_ok (sameDirectories_put h bytes)).mpr hlocate, ?_⟩
  rw [find?_put (ne_nil_of_find? h), if_pos rfl]
  nofun

end Put

end Tree

end DeckFilter
