import DeckFilter.Command.Names
import Std.Time

/-!
# The program

What a run looks at is read before it, and what it leaves behind is written after it. What there is
to look at becomes known step by step, so looking is repeated: with the options, then with the
configuration, then with the document.
-/

open DeckFilter

/-- The error code of reading a directory. -/
def isDirectoryCode : UInt32 := 21

/-- What a name names. -/
def lookAt (name : String) : IO (Option FileNode) := do
  try
    return some (.file (← IO.FS.readBinFile name))
  catch
    | .inappropriateType _ code _ =>
      return if code = isDirectoryCode then some .directory else none
    | _ => return none

/-- The name of the directory above a name. -/
def directoryAbove (name : String) : String :=
  String.ofList ((name.toList.reverse.dropWhile (· == '/')).dropWhile (· != '/')).reverse

/-- Add what a name names, or at least the directory above it. -/
def addLookup (tree : Tree) (name : String) : IO Tree := do
  match ← lookAt name with
  | some (.file bytes) => return tree.addFile name bytes
  | some .directory => return tree.addDirectory name
  | none =>
    match ← lookAt (directoryAbove name) with
    | some .directory => return tree.addDirectory (directoryAbove name)
    | _ => return tree

/-- Look at what is known to matter: variables, files, and standard input, once. -/
def lookAround (i : Invocation String) : IO (Invocation String) := do
  let mut bindings := []
  for name in i.variableNames do
    if let some value ← IO.getEnv name then
      bindings := (name, value) :: bindings
  let i := { i with bindings }
  let mut tree := i.tree
  for name in i.fileNames do
    tree ← addLookup tree name
  let i := { i with tree }
  if i.stdin.isEmpty && i.readsStdin then
    return { i with stdin := ← (← IO.getStdin).readBinToEnd }
  else return i

/-- Write the files that are not what they were. -/
def store (before after : Tree) : IO Unit := do
  for (path, node) in after.entries do
    if let .file bytes := node then
      let changed := match before.find? path with
        | some (.file old) => old != bytes
        | _ => true
      if changed then IO.FS.writeBinFile ("/" ++ "/".intercalate path) bytes

/-- The time, as lines of the log show it. -/
def timeStamp : IO String := do
  let now ← Std.Time.Timestamp.now
  return (Std.Time.DateTime.ofTimestamp now .UTC).format "uuuu-MM-dd'T'HH:mm:ss.SSSSSS'Z'"

/-- Filter a document as the command line says. -/
def main (arguments : List String) : IO UInt32 := do
  let cwd := toString (← IO.currentDir)
  let tree := Tree.addDirectory ⟨Tree.partsOf cwd, []⟩ cwd
  let mut i : Invocation String := ⟨arguments, [], .empty, tree, some (← timeStamp)⟩
  for _ in [0:4] do
    i ← lookAround i
  let outcome := i.run
  store i.tree outcome.tree
  IO.print outcome.stdout
  IO.eprint outcome.stderr
  return outcome.status.toUInt32
