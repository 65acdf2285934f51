/-!
# Names of files

* `Path.join`: a name below a directory;
* `Path.baseName`: the last part of a name.
-/

namespace DeckFilter.Path

/-- A name below a directory. An absolute name stays as it is, and one slash stands between the
two. -/
def join (directory name : String) : String :=
  if name.startsWith "/" then name
  else if directory.isEmpty || directory.endsWith "/" then directory ++ name
  else directory ++ "/" ++ name

/-- The parts of a name between slashes that name anything: no empty part and no single dot. -/
def parts (name : String) : List String :=
  ((name.toList.splitOn '/').filter fun p => p != [] && p != ['.']).map String.ofList

/-- The last part of a name, unless it is the parent directory. -/
def baseName (name : String) : Option String :=
  match (parts name).getLast? with
  | some ".." => none
  | last => last

end DeckFilter.Path
