import DeckFilter.Proofs.Text.Lines
import DeckFilter.SearchPath
import Mathlib.Data.List.Forall2

/-!
# Names along a search path

How a name is found is said here by five rules, in the order in which they are tried. The answer
depends on a search path through its directories alone, so separators may be repeated, put at either
end or exchanged for one another.

* `AreDirectories`, **`areDirectories_iff`**: the directories of a search path;
* `Path.Below`, `Path.below_iff`, `Path.IsBaseName`, `Path.baseName_eq_some`: a name below a
  directory, and its last part;
* `IsFirstBelow`, `firstBelow_eq_some`: the first directory that has a name;
* `Finds`, **`finds_iff`**: how a name is found;
* `resolve_resolve`: a name that was found is found again;
* `searchDirs_exchange`, `searchDirs_insert`: search paths with the same directories;
* `images_are_found_in_order`: all of it.
-/

namespace DeckFilter

/-! ## Directories -/

/-- A semicolon or a colon ends an entry of a search path. -/
def IsSeparator (c : Char) : Prop := c = ';' ∨ c = ':'

instance : DecidablePred IsSeparator := fun c => inferInstanceAs (Decidable (c = ';' ∨ c = ':'))

/-- These are the directories of a search path, in order: its runs of characters that are no
separators. -/
def AreDirectories (dirs : List String) (path : String) : Prop :=
  Text.Runs IsSeparator path.toList (dirs.map String.toList)

theorem searchDirs_eq (path : String) : searchDirs path false =
    ((path.toList.splitOnP fun c => IsSeparator c).filter (· ≠ [])).map String.ofList := by
  have hsep : (fun c : Char => c == ';' || (!false && c == ':')) =
      fun c => decide (IsSeparator c) := by
    funext c
    rw [Bool.eq_iff_iff, decide_eq_true_iff]
    simp [IsSeparator]
  have hne : (fun dir : List Char => dir != []) = fun dir => decide (dir ≠ []) := by
    funext dir
    rw [Bool.eq_iff_iff]
    simp
  rw [searchDirs, hsep, hne]

/-- **A search path has directories in one way only**, and `searchDirs` finds them. -/
theorem areDirectories_iff {dirs : List String} {path : String} :
    AreDirectories dirs path ↔ dirs = searchDirs path false := by
  rw [AreDirectories, Text.runs_iff, searchDirs_eq]
  constructor
  · intro h
    rw [← h, List.map_map]
    simp
  · rintro rfl
    rw [List.map_map]
    simp

/-! ## Names -/

namespace Path

/-- A name stands below a directory: as it is if it is absolute, else after one slash, which the
directory may bring along. -/
inductive Below (dir name : String) : String → Prop
  | absolute (hname : name.startsWith "/") : Below dir name name
  | ended {stem : String} (hname : ¬name.startsWith "/") (hdir : dir = stem ++ "/") :
      Below dir name (stem ++ "/" ++ name)
  | slash (hname : ¬name.startsWith "/") (hdir : ∀ stem, dir ≠ stem ++ "/") :
      Below dir name (dir ++ "/" ++ name)

theorem endsWith_slash_iff {dir : String} : dir.endsWith "/" ↔ ∃ stem, dir = stem ++ "/" := by
  rw [← String.endsWith_toSlice, String.Slice.endsWith_string_iff]
  constructor
  · rintro ⟨stem, hstem⟩
    refine ⟨String.ofList stem, String.toList_inj.mp ?_⟩
    simpa using hstem.symm
  · rintro ⟨stem, rfl⟩
    exact ⟨stem.toList, by simp⟩

/-- **A name stands below a directory in one way only.** -/
theorem below_iff {dir name path : String} (hdir : dir ≠ "") :
    Below dir name path ↔ path = join dir name := by
  have hempty : dir.isEmpty = false := by simpa using hdir
  rw [join, hempty, Bool.false_or]
  constructor
  · rintro (hname | ⟨hname, hend⟩ | ⟨hname, hend⟩)
    · rw [if_pos hname]
    · rw [if_neg hname, if_pos (endsWith_slash_iff.mpr ⟨_, hend⟩), hend]
    · rw [if_neg hname, if_neg fun h => (endsWith_slash_iff.mp h).elim hend]
  · rintro rfl
    split_ifs with hname hend
    · exact .absolute hname
    · obtain ⟨stem, rfl⟩ := endsWith_slash_iff.mp hend
      exact .ended hname rfl
    · exact .slash hname fun stem h => hend (endsWith_slash_iff.mpr ⟨stem, h⟩)

/-- The base name of a name is its last part between slashes that is neither empty nor a single dot,
unless that part is the parent directory. -/
def IsBaseName (name base : String) : Prop :=
  ∃ before after, Text.pieces '/' name = before ++ base :: after ∧ base ∉ ["", ".", ".."] ∧
    ∀ part ∈ after, part ∈ ["", "."]

theorem parts_eq (name : String) :
    parts name = (Text.pieces '/' name).filter fun part => part ∉ ["", "."] := by
  rw [parts, Text.pieces, List.filter_map]
  refine congrArg _ (List.filter_congr fun part _ => ?_)
  have hempty : String.ofList part = "" ↔ part = [] := by
    rw [← String.toList_inj, String.toList_ofList]
    rfl
  have hdot : String.ofList part = "." ↔ part = ['.'] := by
    rw [← String.toList_inj, String.toList_ofList]
    rfl
  rw [Bool.eq_iff_iff]
  simp [hempty, hdot]

theorem baseName_eq_some {name base : String} :
    baseName name = some base ↔ IsBaseName name base := by
  have hlast : (parts name).getLast? = some base ↔ ∃ before after,
      Text.pieces '/' name = before ++ base :: after ∧ base ∉ ["", "."] ∧
        ∀ part ∈ after, part ∈ ["", "."] := by
    rw [parts_eq, List.getLast?_eq_head?_reverse, ← List.filter_reverse, List.head?_filter,
      List.find?_eq_some_iff_append]
    constructor
    · rintro ⟨hbase, after, before, hpieces, hafter⟩
      refine ⟨before.reverse, after.reverse, ?_, by simpa using hbase, by simpa using hafter⟩
      rw [← List.reverse_inj, hpieces]
      simp
    · rintro ⟨before, after, hpieces, hbase, hafter⟩
      refine ⟨by simpa using hbase, after.reverse, before.reverse, ?_, by simpa using hafter⟩
      rw [hpieces]
      simp
  have hparent : baseName name = some base ↔ (parts name).getLast? = some base ∧ base ≠ ".." := by
    rw [baseName]
    split
    · rename_i h
      rw [h]
      refine iff_of_false nofun ?_
      rintro ⟨⟨⟩, hne⟩
      exact hne rfl
    · rename_i h
      exact ⟨fun hbase => ⟨hbase, fun hdots => h (hdots ▸ hbase)⟩, And.left⟩
  have hbase : base ∉ ["", ".", ".."] ↔ base ∉ ["", "."] ∧ base ≠ ".." := by
    simp [and_assoc]
  rw [hparent, hlast, IsBaseName, hbase]
  constructor
  · rintro ⟨⟨before, after, hpieces, hnamed, hafter⟩, hdots⟩
    exact ⟨before, after, hpieces, ⟨hnamed, hdots⟩, hafter⟩
  · rintro ⟨before, after, hpieces, ⟨hnamed, hdots⟩, hafter⟩
    exact ⟨⟨before, after, hpieces, hnamed, hafter⟩, hdots⟩

end Path

/-! ## The first directory -/

variable {files : Files} {dirs : List String} {name found : String}

/-- What was found is the name below the first directory that has it. -/
def IsFirstBelow (files : Files) (dirs : List String) (name found : String) : Prop :=
  ∃ before dir after, dirs = before ++ dir :: after ∧ found = Path.join dir name ∧
    files.isFile found ∧ ∀ d ∈ before, ¬files.isFile (Path.join d name)

theorem firstBelow_eq_some :
    firstBelow files dirs name = some found ↔ IsFirstBelow files dirs name found := by
  rw [firstBelow, List.find?_map, Option.map_eq_some_iff]
  constructor
  · rintro ⟨dir, hdir, rfl⟩
    obtain ⟨hfile, before, after, hdirs, hbefore⟩ := List.find?_eq_some_iff_append.mp hdir
    exact ⟨before, dir, after, hdirs, rfl, hfile, fun d hd => by simpa using hbefore d hd⟩
  · rintro ⟨before, dir, after, hdirs, rfl, hfile, hbefore⟩
    refine ⟨dir, List.find?_eq_some_iff_append.mpr ⟨hfile, before, after, hdirs, ?_⟩, rfl⟩
    exact fun d hd => by simpa using hbefore d hd

theorem firstBelow_eq_none : firstBelow files dirs name = none ↔
    ∀ dir ∈ dirs, ¬files.isFile (Path.join dir name) := by
  rw [firstBelow, List.find?_eq_none, List.forall_mem_map]

/-! ## The rules -/

/-- How a name is found: as it is given; without a search path nowhere else; below the first
directory that has it; else, if no directory has it, by its last part below the first directory that
has that; else nowhere, and then the name stays. -/
inductive Finds (files : Files) (name : String) : Option String → String → Prop
  | given {searchPath : Option String} (hname : files.isFile name) :
      Finds files name searchPath name
  | noPath (hname : ¬files.isFile name) : Finds files name none name
  | whole {path : String} {dirs : List String} {found : String} (hname : ¬files.isFile name)
      (hdirs : AreDirectories dirs path) (hfound : IsFirstBelow files dirs name found) :
      Finds files name (some path) found
  | base {path : String} {dirs : List String} {base found : String} (hname : ¬files.isFile name)
      (hdirs : AreDirectories dirs path)
      (hwhole : ∀ dir ∈ dirs, ¬files.isFile (Path.join dir name))
      (hbase : Path.IsBaseName name base) (hfound : IsFirstBelow files dirs base found) :
      Finds files name (some path) found
  | nowhere {path : String} {dirs : List String} (hname : ¬files.isFile name)
      (hdirs : AreDirectories dirs path)
      (hwhole : ∀ dir ∈ dirs, ¬files.isFile (Path.join dir name))
      (hlast : ∀ base, Path.IsBaseName name base →
        ∀ dir ∈ dirs, ¬files.isFile (Path.join dir base)) :
      Finds files name (some path) name

variable {searchPath : Option String}

theorem resolve_of_isFile (hname : files.isFile name) (searchPath : Option String) :
    resolve files searchPath name = name := by
  unfold resolve
  rw [if_pos hname]

theorem resolve_none (files : Files) (name : String) : resolve files none name = name := by
  unfold resolve
  split_ifs <;> rfl

theorem resolve_some (hname : ¬files.isFile name) (path : String) :
    resolve files (some path) name =
      ((firstBelow files (searchDirs path false) name).or
        ((Path.baseName name).bind (firstBelow files (searchDirs path false)))).getD name := by
  unfold resolve
  rw [if_neg hname]
  dsimp only
  cases firstBelow files (searchDirs path false) name with
  | some found => rfl
  | none => rfl

theorem Finds.eq_resolve (h : Finds files name searchPath found) :
    found = resolve files searchPath name := by
  cases h with
  | given hname => exact (resolve_of_isFile hname _).symm
  | noPath hname => exact (resolve_none files name).symm
  | whole hname hdirs hfound =>
    rw [areDirectories_iff.mp hdirs] at hfound
    rw [resolve_some hname, firstBelow_eq_some.mpr hfound]
    rfl
  | base hname hdirs hwhole hbase hfound =>
    rw [areDirectories_iff.mp hdirs] at hwhole hfound
    rw [resolve_some hname, firstBelow_eq_none.mpr hwhole, Path.baseName_eq_some.mpr hbase,
      Option.bind_some, firstBelow_eq_some.mpr hfound]
    rfl
  | nowhere hname hdirs hwhole hlast =>
    rw [areDirectories_iff.mp hdirs] at hwhole hlast
    have hnone : (Path.baseName name).bind (firstBelow files (searchDirs _ false)) = none :=
      Option.bind_eq_none_iff.mpr fun base hbase =>
        firstBelow_eq_none.mpr (hlast base (Path.baseName_eq_some.mp hbase))
    rw [resolve_some hname, firstBelow_eq_none.mpr hwhole, hnone]
    rfl

theorem finds_resolve (files : Files) (searchPath : Option String) (name : String) :
    Finds files name searchPath (resolve files searchPath name) := by
  by_cases hname : files.isFile name = true
  · rw [resolve_of_isFile hname]
    exact .given hname
  cases searchPath with
  | none =>
    rw [resolve_none]
    exact .noPath hname
  | some path =>
    have hdirs : AreDirectories (searchDirs path false) path := areDirectories_iff.mpr rfl
    rw [resolve_some hname]
    cases hwhole : firstBelow files (searchDirs path false) name with
    | some found => exact .whole hname hdirs (firstBelow_eq_some.mp hwhole)
    | none =>
      have hwhole := firstBelow_eq_none.mp hwhole
      rw [Option.none_or]
      cases hlast : (Path.baseName name).bind (firstBelow files (searchDirs path false)) with
      | some found =>
        obtain ⟨base, hbase, hfound⟩ := Option.bind_eq_some_iff.mp hlast
        exact .base hname hdirs hwhole (Path.baseName_eq_some.mp hbase)
          (firstBelow_eq_some.mp hfound)
      | none =>
        exact .nowhere hname hdirs hwhole fun base hbase =>
          firstBelow_eq_none.mp
            (Option.bind_eq_none_iff.mp hlast base (Path.baseName_eq_some.mpr hbase))

/-- **The rules find one name**, and it is the one that is looked up. -/
theorem finds_iff : Finds files name searchPath found ↔ found = resolve files searchPath name := by
  refine ⟨Finds.eq_resolve, ?_⟩
  rintro rfl
  exact finds_resolve files searchPath name

/-! ## What was found -/

/-- **A name stays as it is, or becomes the name of a file.** -/
theorem Finds.eq_or_isFile (h : Finds files name searchPath found) :
    found = name ∨ files.isFile found := by
  cases h with
  | given hname => exact Or.inl rfl
  | noPath hname => exact Or.inl rfl
  | whole hname hdirs hfound =>
    obtain ⟨before, dir, after, -, -, hfile, -⟩ := hfound
    exact Or.inr hfile
  | base hname hdirs hwhole hbase hfound =>
    obtain ⟨before, dir, after, -, -, hfile, -⟩ := hfound
    exact Or.inr hfile
  | nowhere hname hdirs hwhole hlast => exact Or.inl rfl

/-- **A name that was found is found again.** -/
theorem resolve_resolve (files : Files) (searchPath : Option String) (name : String) :
    resolve files searchPath (resolve files searchPath name) = resolve files searchPath name := by
  rcases (finds_resolve files searchPath name).eq_or_isFile with h | h
  · rw [h, h]
  · exact resolve_of_isFile h searchPath

theorem Finds.isFirstBelow {path dir : String} (h : Finds files name (some path) found)
    (hdirs : AreDirectories dirs path) (hname : ¬files.isFile name) (hdir : dir ∈ dirs)
    (hfile : files.isFile (Path.join dir name)) : IsFirstBelow files dirs name found := by
  rw [areDirectories_iff] at hdirs
  cases h with
  | given hgiven => exact absurd hgiven hname
  | whole _ hdirs' hfound => exact hdirs ▸ areDirectories_iff.mp hdirs' ▸ hfound
  | base _ hdirs' hwhole =>
    rw [areDirectories_iff.mp hdirs', ← hdirs] at hwhole
    exact absurd hfile (hwhole dir hdir)
  | nowhere _ hdirs' hwhole =>
    rw [areDirectories_iff.mp hdirs', ← hdirs] at hwhole
    exact absurd hfile (hwhole dir hdir)

/-! ## Search paths with the same directories -/

theorem resolve_congr {path path' : String} (h : searchDirs path false = searchDirs path' false)
    (files : Files) (name : String) :
    resolve files (some path) name = resolve files (some path') name := by
  by_cases hname : files.isFile name = true
  · rw [resolve_of_isFile hname, resolve_of_isFile hname]
  · rw [resolve_some hname, resolve_some hname, h]

theorem splitOnP_exchange {xs ys : List Char}
    (h : List.Forall₂ (fun c c' => c = c' ∨ IsSeparator c ∧ IsSeparator c') xs ys) :
    (xs.splitOnP fun c => IsSeparator c) = ys.splitOnP fun c => IsSeparator c := by
  induction h with
  | nil => rfl
  | cons hc _ ih =>
    rw [List.splitOnP_cons_eq_if_modifyHead, List.splitOnP_cons_eq_if_modifyHead, ih]
    rcases hc with rfl | ⟨hc, hc'⟩
    · rfl
    · rw [if_pos (decide_eq_true hc), if_pos (decide_eq_true hc')]

theorem searchDirs_exchange {path path' : String}
    (h : List.Forall₂ (fun c c' => c = c' ∨ IsSeparator c ∧ IsSeparator c') path.toList
      path'.toList) : searchDirs path false = searchDirs path' false := by
  rw [searchDirs_eq, searchDirs_eq, splitOnP_exchange h]

theorem searchDirs_append {c : Char} (hc : IsSeparator c) (before after : String) :
    searchDirs (before ++ String.singleton c ++ after) false =
      searchDirs before false ++ searchDirs after false := by
  have hwhole : (before ++ String.singleton c ++ after).toList =
      before.toList ++ c :: after.toList := by
    simp
  have hpieces := List.splitOnP_append_cons (p := fun c => decide (IsSeparator c)) before.toList
    after.toList (decide_eq_true hc)
  rw [searchDirs_eq, hwhole, hpieces, List.filter_append, List.map_append, ← searchDirs_eq,
    ← searchDirs_eq]

/-- Between two texts there is a separator already, or an end of the whole. -/
def IsBreak (before after : String) : Prop :=
  before = "" ∨ after = "" ∨ (∃ text c, before = text ++ String.singleton c ∧ IsSeparator c) ∨
    ∃ c text, after = String.singleton c ++ text ∧ IsSeparator c

theorem searchDirs_insert {c : Char} (hc : IsSeparator c) {before after : String}
    (h : IsBreak before after) : searchDirs (before ++ String.singleton c ++ after) false =
      searchDirs (before ++ after) false := by
  have hempty : searchDirs "" false = [] := rfl
  rw [searchDirs_append hc]
  rcases h with rfl | rfl | ⟨text, c', rfl, hc'⟩ | ⟨c', text, rfl, hc'⟩
  · rw [hempty, List.nil_append, String.empty_append]
  · rw [hempty, List.append_nil, String.append_empty]
  · have hend := searchDirs_append hc' text ""
    rw [String.append_empty, hempty, List.append_nil] at hend
    rw [hend, searchDirs_append hc']
  · have hstart := searchDirs_append hc' "" text
    rw [String.empty_append, hempty, List.nil_append] at hstart
    rw [hstart, ← String.append_assoc, searchDirs_append hc']

/-- **Names are found in order.** A name that is a file stays, and so does every name without a
search path. Else the first directory that has the whole name decides, even if an earlier one has
its last part; else the first directory that has the last part; else the name stays. So what differs
from the name is a file, and is found again as it is. Neither empty entries of the search path nor
the choice between its separators matters. -/
theorem images_are_found_in_order (files : Files) (searchPath : Option String) (name : String) :
    (∀ found, Finds files name searchPath found ↔ found = resolve files searchPath name) ∧
    (∀ dir part below, dir ≠ "" → (Path.Below dir part below ↔ below = Path.join dir part)) ∧
    (resolve files searchPath name ≠ name → files.isFile (resolve files searchPath name)) ∧
    (∀ path dirs, searchPath = some path → AreDirectories dirs path → ¬files.isFile name →
      (∃ dir ∈ dirs, files.isFile (Path.join dir name)) →
        IsFirstBelow files dirs name (resolve files searchPath name)) ∧
    resolve files searchPath (resolve files searchPath name) = resolve files searchPath name ∧
    (∀ path path' : String,
      List.Forall₂ (fun c c' => c = c' ∨ IsSeparator c ∧ IsSeparator c') path.toList path'.toList →
        resolve files (some path) name = resolve files (some path') name) ∧
    ∀ before c after, IsSeparator c → IsBreak before after →
      resolve files (some (before ++ String.singleton c ++ after)) name =
        resolve files (some (before ++ after)) name := by
  have hfinds := finds_resolve files searchPath name
  refine ⟨fun found => finds_iff, fun dir part below hdir => Path.below_iff hdir,
    fun hne => hfinds.eq_or_isFile.resolve_left hne, ?_, resolve_resolve files searchPath name,
    ?_, ?_⟩
  · rintro path dirs rfl hdirs hname ⟨dir, hdir, hfile⟩
    exact hfinds.isFirstBelow hdirs hname hdir hfile
  · exact fun path path' h => resolve_congr (searchDirs_exchange h) files name
  · exact fun before c after hc h => resolve_congr (searchDirs_insert hc h) files name

/-- The whole name in the second directory, its last part in the first. -/
def twoDirectories : Files :=
  ⟨fun name => name == "a/c.png" || name == "b/d/c.png", fun _ => .error .notFound⟩

/-- The whole name in the second directory goes before its last part in the first, and a second
separator between the two changes nothing. -/
theorem images_are_found_in_order_second :
    IsFirstBelow twoDirectories ["a", "b"] "d/c.png" "b/d/c.png" ∧
      resolve twoDirectories (some "a:;b") "d/c.png" = "b/d/c.png" := by
  have hfound : resolve twoDirectories (some "a;b") "d/c.png" = "b/d/c.png" := by decide +kernel
  obtain ⟨-, -, -, hfirst, -, -, hinsert⟩ :=
    images_are_found_in_order twoDirectories (some "a;b") "d/c.png"
  have hdirs : AreDirectories ["a", "b"] "a;b" := areDirectories_iff.mpr (by decide +kernel)
  constructor
  · rw [← hfound]
    exact hfirst "a;b" ["a", "b"] rfl hdirs (by decide +kernel) ⟨"b", by decide +kernel⟩
  · have hbreak : IsBreak "a" ";b" := .inr (.inr (.inr ⟨';', "b", by decide +kernel, .inl rfl⟩))
    have hlong : "a" ++ String.singleton ':' ++ ";b" = "a:;b" := by decide +kernel
    have hshort : "a" ++ ";b" = "a;b" := by decide +kernel
    have h := hinsert "a" ':' ";b" (.inr rfl) hbreak
    rwa [hlong, hshort, hfound] at h

end DeckFilter
