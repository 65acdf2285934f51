import DeckFilter.Proofs.Filter.Failures

/-!
# The code block of a listing

What the classes of a listing say decides all of its code block: the arguments among them are files,
options or neither, and of files and of options of one name the last one counts, wherever it stands.

* `Listing.codeBlock_of_file`: a listing with a file that is a text;
* `Listing.missingName_parse`, `Listing.codeBlock_of_missing`: a listing without a file;
* `Diagnostic.sourceMissing`: what is said of it;
* `listings_follow_their_arguments`: all listings.
-/

namespace DeckFilter

namespace Listing

theorem argumentsOf_eq (classes : List String) :
    argumentsOf classes = classes.filter fun c => c ∉ ["container", "source_include"] := by
  refine List.filter_congr fun c _ => ?_
  rw [Bool.eq_iff_iff]
  simp

variable {files : Files} {classes : List String}

theorem missingName_parse (files : Files) (arguments : List String) :
    (parse files arguments).missingName =
      (restAmong files arguments).head?.getD (" ".intercalate arguments) := by
  rw [parse_eq, missingName]
  cases restAmong files arguments with
  | nil => rfl
  | cons name names => rfl

/-- **A listing with a file shows an excerpt of it**, if it is a text. -/
theorem codeBlock_of_file {name contents : String}
    (hname : (filesAmong files (argumentsOf classes)).getLast? = some name)
    (hread : files.readText name = .ok contents) (defaultLanguage : String) (ctx : Context) :
    (codeBlock files defaultLanguage classes).run.run ctx =
      (.ok (.codeBlock
        ⟨"", [(lastValue files (argumentsOf classes) "code").getD defaultLanguage], []⟩
        (excerpt contents (lastValue files (argumentsOf classes) "start-after")
          (lastValue files (argumentsOf classes) "end-before"))), ctx) := by
  have hne : argumentsOf classes ≠ [] := by
    intro h
    rw [h] at hname
    cases hname
  have htext : ((parse files (argumentsOf classes)).text files).run.run ctx =
      (.ok (excerpt contents (parse files (argumentsOf classes)).startAfter
        (parse files (argumentsOf classes)).endBefore), ctx) := by
    have hfile : (parse files (argumentsOf classes)).file = some name :=
      (parse_file files _).trans hname
    rw [text, hfile]
    dsimp only
    rw [hread]
    rfl
  rw [codeBlock_eq_map hne, Attempt.run_map, htext, language, startAfter, endBefore,
    find?_options, find?_options, find?_options]
  rfl

/-- **A listing without a file shows what is missing**, and reports it. -/
theorem codeBlock_of_missing (hne : argumentsOf classes ≠ [])
    (hnone : filesAmong files (argumentsOf classes) = []) (defaultLanguage : String)
    (ctx : Context) :
    (codeBlock files defaultLanguage classes).run.run ctx =
      (.ok (.codeBlock
        ⟨"", [(lastValue files (argumentsOf classes) "code").getD defaultLanguage], []⟩
        (parse files (argumentsOf classes)).missingName),
        ctx.record (.sourceMissing (parse files (argumentsOf classes)).missingName)) := by
  have hfile : (parse files (argumentsOf classes)).file = none := by
    rw [parse_eq, hnone]
    rfl
  have htext : ((parse files (argumentsOf classes)).text files).run.run ctx =
      (.ok (parse files (argumentsOf classes)).missingName,
        ctx.record (.sourceMissing (parse files (argumentsOf classes)).missingName)) := by
    rw [text, hfile]
    rfl
  rw [codeBlock_eq_map hne, Attempt.run_map, htext, language, find?_options]
  rfl

end Listing

/-- The warning of a listing without a file. -/
def Diagnostic.sourceMissing (name : String) : Diagnostic where
  code := some "B-2-2"
  title := "Source file not found"
  severity := .warning
  problem := some ("Source file `" ++ name ++ "` not found")
  hints := ["Is the path relative to the directory pandoc runs in?"]

theorem Issue.diagnostic_sourceMissing (name : String) :
    (sourceMissing name).diagnostic = .sourceMissing name := rfl

open Listing in
/-- **A listing does what its arguments say.** It fails, without a trace, if it has no arguments, or
if the last of its files is no text. Otherwise it gives way to a code block of the language that the
last option `code` names, or else of the default language. The block holds the excerpt of the last
file between the markers of the last options `start-after` and `end-before`; without a file it holds
the first argument that is no option, or else all arguments, and one warning more names what it
holds. Options have two colons, and no argument that names a file is one. -/
theorem listings_follow_their_arguments (files : Files) (defaultLanguage : String)
    (classes : List String) (ctx : Context) :
    let run := (codeBlock files defaultLanguage classes).run.run ctx
    let arguments := classes.filter fun c => c ∉ ["container", "source_include"]
    let last := (filesAmong files arguments).getLast?
    let value := lastValue files arguments
    let block := Block.codeBlock ⟨"", [(value "code").getD defaultLanguage], []⟩
    let missing := (restAmong files arguments).head?.getD (" ".intercalate arguments)
    (∀ issue ctx', run = (.error issue, ctx') ↔ ctx' = ctx ∧
      ((arguments = [] ∧
          issue = .malformedNode "Div" "source_include container names no file") ∨
        ∃ name e, last = some name ∧ files.readText name = .error e ∧
          issue = .sourceUnreadable name e.message)) ∧
    (∀ name contents, last = some name → files.readText name = .ok contents →
      run = (.ok (block (excerpt contents (value "start-after") (value "end-before"))), ctx)) ∧
    (arguments ≠ [] → last = none →
      run = (.ok (block missing),
        { ctx with diagnostics := ctx.diagnostics ++ [.sourceMissing missing] })) ∧
    ∀ argument, ((option? argument).isSome ↔ argument.toList.count ':' = 2) ∧
      ∀ name value, option? argument = some (name, value) ↔ IsOption argument name value := by
  rw [← argumentsOf_eq]
  intro run arguments last value block missing
  refine ⟨fun issue ctx' => codeBlock_eq_error, fun name contents hname hread => ?_,
    fun hne hnone => ?_, fun argument => ⟨option?_isSome, fun name value => option?_eq_some⟩⟩
  · exact codeBlock_of_file hname hread defaultLanguage ctx
  · have hrun := codeBlock_of_missing hne (List.getLast?_eq_none_iff.mp hnone) defaultLanguage ctx
    rw [missingName_parse] at hrun
    rw [← Issue.diagnostic_sourceMissing]
    exact hrun

/-- A program, and a file that has the name of an option and is no text. -/
def sampleSources : Files where
  isFile name := ["main.adb", ":code:c"].contains name
  read name := .ok (if name = "main.adb" then "--a\nx\n--b\n".toUTF8 else ⟨#[0xff]⟩)

theorem listings_follow_their_arguments_sample :
    let ctx := reportedContext "beamer"
    (Listing.codeBlock sampleSources "C" [":code:c", ":code:C", "container", "extra", "main.adb",
        ":start-after:--a", "source_include", ":end-before:--b", ":code:Ada"]).run.run ctx =
      (.ok (.codeBlock ⟨"", ["Ada"], []⟩ "x\n"), ctx) ∧
    (Listing.codeBlock sampleSources "C" ["source_include", ":code:c"]).run.run ctx =
      (.error (.sourceUnreadable ":code:c" FileError.notText.message), ctx) ∧
    (Listing.codeBlock sampleSources "C" [":code:D", "lab:1:2:3", "source_include", "x"]).run.run
        ctx =
      (.ok (.codeBlock ⟨"", ["D"], []⟩ "lab:1:2:3"),
        { ctx with diagnostics := ctx.diagnostics ++ [.sourceMissing "lab:1:2:3"] }) := by
  intro ctx
  have hread : sampleSources.readText "main.adb" = .ok "--a\nx\n--b\n" := rfl
  have hbinary : sampleSources.readText ":code:c" = .error .notText := rfl
  obtain ⟨-, hfile, -⟩ := listings_follow_their_arguments sampleSources "C" [":code:c", ":code:C",
    "container", "extra", "main.adb", ":start-after:--a", "source_include", ":end-before:--b",
    ":code:Ada"] ctx
  obtain ⟨hfails, -⟩ :=
    listings_follow_their_arguments sampleSources "C" ["source_include", ":code:c"] ctx
  obtain ⟨-, -, hmissing, -⟩ := listings_follow_their_arguments sampleSources "C"
    [":code:D", "lab:1:2:3", "source_include", "x"] ctx
  refine ⟨(hfile "main.adb" _ (by decide +kernel) hread).trans rfl, ?_, ?_⟩
  · exact (hfails _ _).mpr ⟨rfl, Or.inr ⟨":code:c", .notText, by decide +kernel, hbinary, rfl⟩⟩
  · exact (hmissing (by decide +kernel) (by decide +kernel)).trans rfl

end DeckFilter
