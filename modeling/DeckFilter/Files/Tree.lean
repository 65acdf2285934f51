import DeckFilter.Files

/-!
# Trees of files

Files and directories by their absolute paths, with a working directory that relative names start
from. A name is followed one part at a time; every part before the last has to be a directory.

* `Tree`, `Tree.find?`: what there is;
* `Tree.locate`, `Tree.lookup`: what a name names;
* `Tree.write`, `Tree.overwrite`, `Tree.append`: what a run does to files;
* `Tree.addFile`, `Tree.addDirectory`, `Tree.remove`: other changes;
* `Tree.files`: the view that a filter has of a tree.
-/

namespace DeckFilter

/-- A file with its bytes, or a directory. -/
inductive FileNode where
  | file (bytes : ByteArray)
  | directory

/-- Files and directories by their absolute paths, and the working directory. The root is always
there. -/
structure Tree where
  workingDirectory : List String
  entries : List (List String × FileNode)

namespace Tree

/-- What there is at a path. -/
def find? (t : Tree) : List String → Option FileNode
  | [] => some .directory
  | path => t.entries.lookup path

/-- Put something at a path. -/
def put (t : Tree) (path : List String) (node : FileNode) : Tree :=
  { t with entries := (path, node) :: t.entries.filter fun e => e.1 != path }

/-! ## Names -/

/-- The parts of a name between slashes. -/
def namesOf (name : String) : List String :=
  ((name.toList.splitOn '/').filter (· ≠ [])).map String.ofList

/-- The parts that a name leads through. A slash at the end asks for a directory, as a dot would. -/
def partsOf (name : String) : List String :=
  if name.endsWith "/" then namesOf name ++ ["."] else namesOf name

/-- Go from a directory to one of its parts, which need not exist. -/
def step (t : Tree) (path : List String) (part : String) : Except FileError (List String) :=
  match t.find? path with
  | none => .error .notFound
  | some (.file _) => .error .notDirectory
  | some .directory =>
    if part = "." then .ok path
    else if part = ".." then .ok path.dropLast
    else if 255 < part.utf8ByteSize then .error .nameTooLong
    else .ok (path ++ [part])

/-- A name can be followed: it is not empty, not too long and has no NUL. -/
def checkName (name : String) : Except FileError Unit :=
  if name.toList.contains '\x00' then .error .nulInName
  else if name.isEmpty then .error .notFound
  else if 4096 ≤ name.utf8ByteSize then .error .nameTooLong
  else .ok ()

/-- Follow the parts of a name, which may be absolute. -/
def follow (t : Tree) (name : String) (parts : List String) : Except FileError (List String) := do
  checkName name
  parts.foldlM t.step (if name.startsWith "/" then [] else t.workingDirectory)

/-- The path that a name leads to; something need not exist there. -/
def locate (t : Tree) (name : String) : Except FileError (List String) :=
  t.follow name (partsOf name)

/-- What a name names. -/
def lookup (t : Tree) (name : String) : Except FileError FileNode := do
  match t.find? (← t.locate name) with
  | some node => .ok node
  | none => .error .notFound

/-- The bytes of a file. -/
def read (t : Tree) (name : String) : Except FileError ByteArray := do
  match ← t.lookup name with
  | .file bytes => .ok bytes
  | .directory => .error .isDirectory

/-- A name names a file. -/
def isFile (t : Tree) (name : String) : Bool :=
  match t.lookup name with
  | .ok (.file _) => true
  | _ => false

/-- The view that a filter has of a tree. -/
def files (t : Tree) : Files := ⟨t.isFile, t.read⟩

/-! ## Changes -/

/-- The path at which a name can be written: a file, or nothing in a directory that exists. A name
that ends in a slash stands for a directory, whatever is there. -/
def target (t : Tree) (name : String) : Except FileError (List String) := do
  if name.endsWith "/" then
    match t.find? (← t.follow name (namesOf name).dropLast) with
    | some .directory => .error .isDirectory
    | some (.file _) => .error .notDirectory
    | none => .error .notFound
  else
    match t.lookup name with
    | .ok .directory => .error .isDirectory
    | .ok (.file _) => t.locate name
    | .error .notFound => t.locate name
    | .error e => .error e

/-- Write a file anew. -/
def write (t : Tree) (name : String) (bytes : ByteArray) : Except FileError Tree := do
  let path ← t.target name
  .ok (t.put path (.file bytes))

/-- The bytes at a path; none where there is no file. -/
def bytesAt (t : Tree) (path : List String) : ByteArray :=
  match t.find? path with
  | some (.file bytes) => bytes
  | _ => .empty

/-- Write over the start of a file, which is made if it is not there. -/
def overwrite (t : Tree) (name : String) (bytes : ByteArray) : Except FileError Tree := do
  let path ← t.target name
  let old := t.bytesAt path
  .ok (t.put path (.file (bytes ++ old.extract bytes.size old.size)))

/-- Write at the end of a file, which is made if it is not there. -/
def append (t : Tree) (name : String) (bytes : ByteArray) : Except FileError Tree := do
  let path ← t.target name
  .ok (t.put path (.file (t.bytesAt path ++ bytes)))

/-- The path of a name, read off its parts alone. -/
def pathOf (t : Tree) (name : String) : List String :=
  (partsOf name).foldl (fun path part =>
    if part = "." then path else if part = ".." then path.dropLast else path ++ [part])
    (if name.startsWith "/" then [] else t.workingDirectory)

/-- Make every directory on the way to a path. -/
def makeParents (t : Tree) (path : List String) : Tree :=
  ((List.range path.length).map path.take).foldl
    (fun t p => if (t.find? p).isSome then t else t.put p .directory) t

/-- Put a file in place, with the directories above it. -/
def addFile (t : Tree) (name : String) (bytes : ByteArray) : Tree :=
  let path := t.pathOf name
  (t.makeParents path).put path (.file bytes)

/-- Put a directory in place, with the directories above it. -/
def addDirectory (t : Tree) (name : String) : Tree :=
  let path := t.pathOf name
  if (t.find? path).isSome then t else (t.makeParents path).put path .directory

/-- Remove what a name names. -/
def remove (t : Tree) (name : String) : Tree :=
  let path := t.pathOf name
  { t with entries := t.entries.filter fun e => e.1 != path }

end Tree

end DeckFilter
