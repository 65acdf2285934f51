import DeckFilter.Context
import DeckFilter.Document
import DeckFilter.Entries
import DeckFilter.Files
import DeckFilter.Text.Lines

/-!
# Listings

A container can stand for a piece of a source file. Its classes, the two markers aside, are its
arguments: names of files and options of the form `:name:value`.

* `Listing`, `Listing.parse`: the arguments, sorted into files, options and the rest;
* `excerpt`: the lines between two markers;
* `Listing.codeBlock`: the code block of a container.
-/

namespace DeckFilter

/-- The arguments of a container: the last one that names an existing file, those that are neither a
file nor an option, the options, and all of them. -/
structure Listing where
  file : Option String
  unresolved : List String
  options : Entries String
  arguments : List String
  deriving DecidableEq, Repr

namespace Listing

/-- The name and the value of an option: the second and the third of exactly three fields between
colons. -/
def option? (argument : String) : Option (String × String) :=
  match Text.pieces ':' argument with
  | [_, name, value] => some (name, value)
  | _ => none

/-- Take in one more argument. -/
def take (files : Files) (l : Listing) (argument : String) : Listing :=
  if files.isFile argument then { l with file := some argument }
  else
    match option? argument with
    | some (name, value) => { l with options := l.options.set name value }
    | none => { l with unresolved := l.unresolved ++ [argument] }

/-- Sort arguments. -/
def parse (files : Files) (arguments : List String) : Listing :=
  arguments.foldl (take files) ⟨none, [], [], arguments⟩

/-- The language of the code block. -/
def language (l : Listing) (default : String) : String := (l.options.find? "code").getD default

/-- The marker after which the excerpt starts. -/
def startAfter (l : Listing) : Option String := l.options.find? "start-after"

/-- The marker before which the excerpt ends. -/
def endBefore (l : Listing) : Option String := l.options.find? "end-before"

/-- The name of a missing file: the first argument that is no option, or all arguments. -/
def missingName (l : Listing) : String :=
  match l.unresolved with
  | name :: _ => name
  | [] => " ".intercalate l.arguments

/-! ## Excerpts -/

/-- A line contains a marker; no line contains the empty one. -/
def marked (marker : List Char) (line : List Char) : Bool :=
  !marker.isEmpty && Text.contains marker line

/-- The lines after the first one that has the start marker, or all if there is no marker. -/
def linesAfter (lines : List (List Char)) : Option String → List (List Char)
  | none => lines
  | some marker => (lines.dropWhile fun line => !marked marker.toList line).drop 1

/-- The lines before the first one that has the end marker, or all if there is no marker. -/
def linesBefore (lines : List (List Char)) : Option String → List (List Char)
  | none => lines
  | some marker => lines.takeWhile fun line => !marked marker.toList line

/-- The lines after the start marker and before the end marker, with their line feeds. The end
marker counts only after the line of the start marker. -/
def excerpt (text : String) (startAfter endBefore : Option String) : String :=
  String.ofList (linesBefore (linesAfter (Text.lines text.toList) startAfter) endBefore).flatten

/-! ## The code block -/

/-- The classes that mark a container as a listing are no arguments. -/
def argumentsOf (classes : List String) : List String :=
  classes.filter fun c => c != "container" && c != "source_include"

/-- The text of a listing: an excerpt of its file, or the name of the missing file. -/
def text (files : Files) (l : Listing) : Attempt String :=
  match l.file with
  | some file =>
    match files.readText file with
    | .ok contents => pure (excerpt contents l.startAfter l.endBefore)
    | .error e => throw (.sourceUnreadable file e.message)
  | none => do
    report (.sourceMissing l.missingName)
    pure l.missingName

/-- The code block of a container with these classes. -/
def codeBlock (files : Files) (defaultLanguage : String) (classes : List String) :
    Attempt Block := do
  let arguments := argumentsOf classes
  if arguments.isEmpty then
    throw (.malformedNode "Div" "source_include container names no file")
  let l := parse files arguments
  let text ← l.text files
  pure (.codeBlock (.ofClasses [l.language defaultLanguage]) text)

end Listing

end DeckFilter
