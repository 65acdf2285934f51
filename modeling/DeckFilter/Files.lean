/-!
# Files

What a run can see of the files around it, by the names that documents give them.

* `FileError`, `FileError.message`: why a file cannot be used;
* `Files`, `Files.readText`: which names are files, and what is in them.
-/

namespace DeckFilter

/-- Why a file cannot be read or written. -/
inductive FileError where
  | notFound
  | notDirectory
  | isDirectory
  | nameTooLong
  | nulInName
  | notText
  deriving DecidableEq, Repr

/-- The wording of the operating system. -/
def FileError.message : FileError → String
  | notFound => "No such file or directory (os error 2)"
  | notDirectory => "Not a directory (os error 20)"
  | isDirectory => "Is a directory (os error 21)"
  | nameTooLong => "File name too long (os error 36)"
  | nulInName => "file name contained an unexpected NUL byte"
  | notText => "stream did not contain valid UTF-8"

/-- A view of the files: which names are names of files, and what reading a name gives. -/
structure Files where
  isFile : String → Bool
  read : String → Except FileError ByteArray

/-- The text of a file in UTF-8. -/
def Files.readText (files : Files) (name : String) : Except FileError String := do
  match String.fromUTF8? (← files.read name) with
  | some text => .ok text
  | none => .error .notText

end DeckFilter
