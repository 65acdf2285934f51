import DeckFilter.Files
import DeckFilter.Files.Path

/-!
# Finding images along a search path

A document converter does not look along the search path of the typesetter, so images are found
here, whatever the output format is.

* `searchDirs`: the directories of a search path;
* `resolve`: the name under which a file is found.
-/

namespace DeckFilter

/-- The directories of a search path, in order. A semicolon ends an entry, and so does a colon,
unless it may belong to a drive letter. Empty entries are skipped. -/
def searchDirs (searchPath : String) (driveLetters : Bool) : List String :=
  ((searchPath.toList.splitOnP fun c => c == ';' || (!driveLetters && c == ':')).filter
    fun dir => dir != []).map String.ofList

/-- The first existing file among the names below the directories. -/
def firstBelow (files : Files) (dirs : List String) (name : String) : Option String :=
  (dirs.map fun dir => Path.join dir name).find? files.isFile

/-- The file as it is named if it exists, else below the first directory that has it, else below the
first directory that has its last part. A name that leads nowhere stays as it is. -/
def resolve (files : Files) (searchPath : Option String) (name : String) : String :=
  if files.isFile name then name
  else
    match searchPath with
    | none => name
    | some searchPath =>
      let dirs := searchDirs searchPath false
      match firstBelow files dirs name with
      | some found => found
      | none => ((Path.baseName name).bind (firstBelow files dirs)).getD name

end DeckFilter
