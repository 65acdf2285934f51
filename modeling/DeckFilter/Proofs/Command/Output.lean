import DeckFilter.Command
import DeckFilter.Proofs.Files.Changes
import Mathlib

/-!
# The output of a failed run

A run that has no document to write writes nothing of one. By then it has logged what comes before
its input is opened, and the log may be the file that it was to write: then that file has the lines
of the log at its end.

* `Logging.lines`: the lines of the events that are logged;
* **`Logging.tree_emitAll`**, `Logging.content?_emitAll`: what events do to files;
* `Invocation.started`: a run when it is about to open its input;
* `Setback`, `Invocation.Meets`: why a run has no document to write;
* `failed_run_writes_no_result`: what a failed run leaves behind.
-/

namespace DeckFilter

/-! ## Logging events -/

namespace Logging

variable (l : Logging) {o : Outcome}

/-- The lines of those events that are logged. -/
def lines (events : List Log.Event) : String :=
  String.join ((events.filter (Log.enabled l.directives)).map (Log.Event.line l.stamp))

theorem lines_cons (e : Log.Event) (events : List Log.Event) : l.lines (e :: events) =
    (if Log.enabled l.directives e then e.line l.stamp else "") ++ l.lines events := by
  rw [lines, List.filter_cons]
  split_ifs
  · exact String.join_cons
  · exact String.empty_append.symm

theorem lines_of_any_eq_false {events : List Log.Event}
    (h : events.any (Log.enabled l.directives) = false) : l.lines events = "" := by
  rw [lines, List.filter_eq_nil_iff.mpr fun e he => by simpa using List.any_eq_false.mp h e he]
  rfl

section File

variable {l : Logging} {file : String} {path : List String} (hfile : l.file = some file)
  (htarget : o.tree.target file = .ok path)

include hfile htarget

theorem tree_emit (e : Log.Event) : (l.emit o e).tree =
    if Log.enabled l.directives e then
      o.tree.put path (.file (o.tree.bytesAt path ++ (e.line l.stamp).toUTF8))
    else o.tree := by
  have happend : o.tree.append file (e.line l.stamp).toUTF8 =
      .ok (o.tree.put path (.file (o.tree.bytesAt path ++ (e.line l.stamp).toUTF8))) := by
    rw [Tree.append, htarget]
    rfl
  rw [emit]
  by_cases henabled : Log.enabled l.directives e = true
  · rw [if_neg (by simp [henabled]), if_pos henabled, hfile]
    dsimp only
    rw [happend]
  · rw [if_pos (by simp [henabled]), if_neg henabled]

/-- **Events that are logged are the last lines of the log**, in their order. -/
theorem tree_emitAll (events : List Log.Event) : (l.emitAll events o).tree =
    if events.any (Log.enabled l.directives) then
      o.tree.put path (.file (o.tree.bytesAt path ++ (l.lines events).toUTF8))
    else o.tree := by
  obtain ⟨-, -, hfind⟩ := Tree.target_eq_ok.mp htarget
  induction events generalizing o with
  | nil => rfl
  | cons e events ih =>
    have hemit := tree_emit hfile htarget e
    rw [emitAll, List.foldl_cons, ← emitAll, List.any_cons, lines_cons]
    by_cases henabled : Log.enabled l.directives e = true
    · rw [if_pos henabled] at hemit
      have htarget' : (l.emit o e).tree.target file = .ok path :=
        hemit ▸ Tree.target_put hfind _ htarget
      have hfind' : (l.emit o e).tree.find? path ≠ some .directory :=
        (Tree.target_eq_ok.mp htarget').2.2
      rw [ih htarget' hfind', hemit, Tree.put_put, Tree.bytesAt_put hfind, if_pos henabled,
        henabled, Bool.true_or, if_pos rfl]
      simp only [String.toUTF8_eq_toByteArray, String.toByteArray_append, ← ByteArray.append_assoc]
      split_ifs with hany
      · rfl
      · rw [l.lines_of_any_eq_false (by simpa using hany), String.toByteArray_empty,
          ByteArray.append_empty]
    · rw [if_neg henabled] at hemit ⊢
      rw [ih (hemit ▸ htarget) (hemit ▸ hfind), hemit, String.empty_append,
        Bool.of_not_eq_true henabled, Bool.false_or]

end File

theorem tree_emitAll_of_noFile (h : ∀ file path, l.file = some file →
    o.tree.target file ≠ .ok path) (events : List Log.Event) :
    (l.emitAll events o).tree = o.tree := by
  induction events generalizing o with
  | nil => rfl
  | cons e events ih =>
    have hemit : (l.emit o e).tree = o.tree := by
      rw [emit]
      split_ifs
      · rfl
      · cases hfile : l.file with
        | none => rfl
        | some file =>
          cases htarget : o.tree.target file with
          | ok path => exact absurd htarget (h file path hfile)
          | error error =>
            dsimp only [Tree.append]
            rw [htarget]
            rfl
    rw [emitAll, List.foldl_cons, ← emitAll, ih (hemit ▸ h), hemit]

/-- **Events leave every file as it is, or are the last lines of the log.** -/
theorem tree_emitAll_or (events : List Log.Event) :
    (l.emitAll events o).tree = o.tree ∨ ∃ file path, l.file = some file ∧
      o.tree.target file = .ok path ∧ (l.emitAll events o).tree =
        o.tree.put path (.file (o.tree.bytesAt path ++ (l.lines events).toUTF8)) := by
  by_cases h : ∃ file path, l.file = some file ∧ o.tree.target file = .ok path
  · obtain ⟨file, path, hfile, htarget⟩ := h
    have htree := tree_emitAll hfile htarget events
    split_ifs at htree
    · exact Or.inr ⟨file, path, hfile, htarget, htree⟩
    · exact Or.inl htree
  · exact Or.inl (l.tree_emitAll_of_noFile
      (fun file path hfile htarget => h ⟨file, path, hfile, htarget⟩) events)

theorem sameDirectories_emitAll (events : List Log.Event) :
    Tree.SameDirectories o.tree (l.emitAll events o).tree := by
  rcases l.tree_emitAll_or (o := o) events with htree | ⟨file, path, -, htarget, htree⟩
  · exact htree ▸ ⟨rfl, fun _ => Iff.rfl⟩
  · exact htree ▸ Tree.sameDirectories_put (Tree.target_eq_ok.mp htarget).2.2 _

theorem content?_emitAll (events : List Log.Event) (name : String) :
    (l.emitAll events o).tree.content? name = o.tree.content? name ∨
      ∃ file path, l.file = some file ∧ o.tree.locate file = .ok path ∧
        o.tree.locate name = .ok path ∧ (l.emitAll events o).tree.content? name =
          some (.file (o.tree.bytesAt path ++ (l.lines events).toUTF8)) := by
  rcases l.tree_emitAll_or (o := o) events with htree | ⟨file, path, hfile, htarget, htree⟩
  · exact Or.inl (htree ▸ rfl)
  · obtain ⟨-, hlocate, hfind⟩ := Tree.target_eq_ok.mp htarget
    rw [htree]
    by_cases hname : o.tree.locate name = .ok path
    · exact Or.inr ⟨file, path, hfile, hlocate, hname, Tree.content?_put_of_locate hfind _ hname⟩
    · exact Or.inl (Tree.content?_put_of_ne hfind _ hname)

theorem stdout_emitAll (events : List Log.Event) : (l.emitAll events o).stdout = o.stdout := by
  induction events generalizing o with
  | nil => rfl
  | cons e events ih =>
    have hemit : (l.emit o e).stdout = o.stdout := by
      rw [emit]
      split_ifs
      · rfl
      · split
        · rfl
        · split <;> rfl
    rw [emitAll, List.foldl_cons, ← emitAll, ih, hemit]

end Logging

namespace Invocation

variable {Value : Type} [HasBytes Value] (i : Invocation Value) (options : Options)
  (config : Config)

/-- A run when it is about to open its input: it has logged what comes before that. -/
def started : Outcome :=
  (i.logging config).emitAll (i.startEvents options config) (.start i.tree)

/-- The lines that a run logs before it opens its input. -/
def startLines : String := (i.logging config).lines (i.startEvents options config)

end Invocation

/-! ## Opening the output -/

namespace Invocation

variable {tree tree' : Tree} {name : String}

theorem openOutput_eq_ok (hname : name ≠ standardName) (h : openOutput tree name = .ok tree') :
    ∃ path, tree.locate name = .ok path ∧ tree.find? path ≠ some .directory ∧
      tree' = tree.put path (.file .empty) := by
  rw [openOutput, if_neg hname] at h
  cases hwrite : tree.write name .empty with
  | error e =>
    rw [hwrite] at h
    cases h
  | ok tree'' =>
    rw [hwrite] at h
    obtain rfl := Except.ok.inj h
    obtain ⟨path, htarget, rfl⟩ := Tree.write_eq_ok hwrite
    obtain ⟨-, hlocate, hfind⟩ := Tree.target_eq_ok.mp htarget
    exact ⟨path, hlocate, hfind, rfl⟩

theorem content?_openOutput (h : openOutput tree name = .ok tree') {other : String}
    (hother : name = standardName ∨ tree.locate other ≠ tree.locate name) :
    tree'.content? other = tree.content? other := by
  by_cases hname : name = standardName
  · rw [openOutput, if_pos hname] at h
    rw [Except.ok.inj h]
  · obtain ⟨path, hlocate, hfind, rfl⟩ := openOutput_eq_ok hname h
    exact Tree.content?_put_of_ne hfind _ (hlocate ▸ hother.resolve_left hname)

end Invocation

/-! ## Runs without a document -/

/-- Why a run that is to filter has no document to write. -/
inductive Setback where
  | configuration
  | input
  | document
  deriving DecidableEq, Repr

namespace Invocation

variable {Value : Type} [HasBytes Value] (i : Invocation Value) (options : Options)

/-- What a run meets: its configuration cannot be loaded, its input cannot be opened, or what it
reads there is no document. -/
inductive Meets : Setback → Prop
  | configuration {e : FilterError} (hconfig : i.config options = .error e) : Meets .configuration
  | input {config : Config} {f : Failure} (hconfig : i.config options = .ok config)
      (hfilter : options.printConfig = false)
      (hinput : openInput (i.started options config).tree options.input = .error f) : Meets .input
  | document {config : Config} {tree : Tree} {e : DecodeError}
      (hconfig : i.config options = .ok config) (hfilter : options.printConfig = false)
      (hinput : openInput (i.started options config).tree options.input = .ok ())
      (houtput : openOutput (i.started options config).tree options.output = .ok tree)
      (hdocument : readDocument (i.readInput tree options.input) = .error e) : Meets .document

/-- A file is as it was before a run, or the log goes there and has the lines at its end that the
run logs before it opens its input. -/
def KeepsFile (name : String) : Prop :=
  i.run.tree.content? name = i.tree.content? name ∨
    ∃ config file path, i.config options = .ok config ∧ config.debugLog = some file ∧
      i.tree.locate file = .ok path ∧ i.tree.locate name = .ok path ∧
      i.run.tree.content? name =
        some (.file (i.tree.bytesAt path ++ (i.startLines options config).toUTF8))

variable {i options}

theorem run_eq_runWith {config : Config} (hrequest : i.request = .ok (.run options))
    (hconfig : i.config options = .ok config) : i.run = i.runWith options config := by
  rw [run, hrequest]
  dsimp only
  rw [hconfig]

theorem run_of_badConfig {e : FilterError} (hrequest : i.request = .ok (.run options))
    (hconfig : i.config options = .error e) : i.run = (Outcome.start i.tree).fail e.failure := by
  rw [run, hrequest]
  dsimp only
  rw [hconfig]

theorem run_of_badInput {config : Config} {f : Failure} (hrequest : i.request = .ok (.run options))
    (hconfig : i.config options = .ok config) (hfilter : options.printConfig = false)
    (hinput : openInput (i.started options config).tree options.input = .error f) :
    i.run = (i.started options config).fail f := by
  rw [run_eq_runWith hrequest hconfig, runWith, if_neg (by simp [hfilter])]
  rw [started] at hinput ⊢
  dsimp only
  rw [hinput]

theorem run_of_badDocument {config : Config} {tree : Tree} {e : DecodeError}
    (hrequest : i.request = .ok (.run options)) (hconfig : i.config options = .ok config)
    (hfilter : options.printConfig = false)
    (hinput : openInput (i.started options config).tree options.input = .ok ())
    (houtput : openOutput (i.started options config).tree options.output = .ok tree)
    (hdocument : readDocument (i.readInput tree options.input) = .error e) :
    i.run = ({ i.started options config with tree } : Outcome).fail
      (FilterError.unreadable e).failure := by
  rw [run_eq_runWith hrequest hconfig, runWith, if_neg (by simp [hfilter])]
  rw [started] at hinput houtput ⊢
  dsimp only
  rw [hinput, houtput]
  dsimp only
  rw [filter, hdocument]

/-- **What a run logs before it opens its input** is all that it has done to a file by then. -/
theorem keepsFile_of_started {config : Config} {name : String}
    (hconfig : i.config options = .ok config)
    (hrun : i.run.tree.content? name = (i.started options config).tree.content? name) :
    i.KeepsFile options name := by
  have hlogged := (i.logging config).content?_emitAll (o := .start i.tree)
    (i.startEvents options config) name
  rw [KeepsFile, hrun]
  refine hlogged.imp_right ?_
  rintro ⟨file, path, hfile, hlog, hlocate, hcontent⟩
  exact ⟨config, file, path, hconfig, hfile, hlog, hlocate, hcontent⟩

theorem keepsFile_of_openOutput {config : Config} {name : String}
    (hconfig : i.config options = .ok config)
    (houtput : openOutput (i.started options config).tree options.output = .ok i.run.tree)
    (hname : options.output = standardName ∨ i.tree.locate name ≠ i.tree.locate options.output) :
    i.KeepsFile options name := by
  refine keepsFile_of_started hconfig (content?_openOutput houtput ?_)
  by_cases hstandard : options.output = standardName
  · exact Or.inl hstandard
  · obtain ⟨path, hlocate, -, -⟩ := openOutput_eq_ok hstandard houtput
    have hways : i.tree.SameDirectories (i.started options config).tree :=
      (i.logging config).sameDirectories_emitAll (o := .start i.tree) _
    refine Or.inr fun heq => hname.resolve_left hstandard ?_
    rw [(Tree.locate_eq_ok hways).mp hlocate, (Tree.locate_eq_ok hways).mp (heq.trans hlocate)]

end Invocation

/-- **A run without a document writes nothing of a result.** It fails, and prints nothing on
standard output. If its configuration cannot be loaded, it leaves all files. If its input cannot be
opened, it leaves all files, apart from the lines that it has logged by then; so it leaves its
output, unless the log goes there. If its input is no document, it does nothing to a file once its
output is open, and leaves all files but its output, apart from the same lines. -/
theorem failed_run_writes_no_result {Value : Type} [HasBytes Value] {i : Invocation Value}
    {options : Options} {cause : Setback} (hrequest : i.request = .ok (.run options))
    (h : i.Meets options cause) :
    i.run.status = 1 ∧ i.run.stdout = "" ∧
      match cause with
      | .configuration => i.run.tree = i.tree
      | .input => ∀ name, i.KeepsFile options name
      | .document =>
        (∀ name, options.output = Invocation.standardName ∨
          i.tree.locate name ≠ i.tree.locate options.output → i.KeepsFile options name) ∧
        ∃ config, i.config options = .ok config ∧
          Invocation.openOutput (i.started options config).tree options.output =
            .ok i.run.tree := by
  have hstdout (config : Config) : (i.started options config).stdout = "" :=
    Logging.stdout_emitAll _ _
  cases h with
  | configuration hconfig =>
    rw [Invocation.run_of_badConfig hrequest hconfig]
    exact ⟨rfl, rfl, rfl⟩
  | input hconfig hfilter hinput =>
    have hrun := Invocation.run_of_badInput hrequest hconfig hfilter hinput
    refine ⟨?_, ?_, fun name => Invocation.keepsFile_of_started hconfig ?_⟩
    · rw [hrun]
      rfl
    · rw [hrun]
      exact hstdout _
    · rw [hrun]
      rfl
  | @document config _ _ hconfig hfilter hinput houtput hdocument =>
    have hrun := Invocation.run_of_badDocument hrequest hconfig hfilter hinput houtput hdocument
    have hopened : Invocation.openOutput (i.started options config).tree options.output =
        .ok i.run.tree := by
      rw [hrun]
      exact houtput
    refine ⟨?_, ?_, fun name => Invocation.keepsFile_of_openOutput hconfig hopened, config, hconfig,
      hopened⟩
    · rw [hrun]
      rfl
    · rw [hrun]
      exact hstdout _

/-- A run that is to read a file and write it again, beside another file. -/
def sampleInPlace : Invocation ByteArray where
  arguments := ["-i", "d", "-o", "d"]
  bindings := []
  stdin := .empty
  tree := ⟨[], [(["d"], .file "x".toUTF8), (["e"], .file "y".toUTF8)]⟩
  stamp := none

/-- The options of that run. -/
def sampleInPlaceOptions : Options := ⟨"html", "d", "d", none, false⟩

/-- The files of that run when its output is open. -/
def sampleInPlaceOpened : Tree := ⟨[], [(["d"], .file .empty), (["e"], .file "y".toUTF8)]⟩

theorem sampleInPlace_opens : Invocation.openOutput
    (sampleInPlace.started sampleInPlaceOptions .default).tree "d" = .ok sampleInPlaceOpened := by
  cbv

theorem sampleInPlace_noDocument :
    readDocument (sampleInPlace.readInput sampleInPlaceOpened "d") = .error .notJson := by
  cbv

theorem sampleInPlace_meets : sampleInPlace.Meets sampleInPlaceOptions .document :=
  .document rfl rfl (by cbv) sampleInPlace_opens sampleInPlace_noDocument

theorem failed_run_writes_no_result_in_place :
    sampleInPlace.request = .ok (.run sampleInPlaceOptions) ∧
      sampleInPlace.Meets sampleInPlaceOptions .document ∧
        sampleInPlace.run.status = 1 ∧ sampleInPlace.run.stdout = "" ∧
          sampleInPlace.KeepsFile sampleInPlaceOptions "e" ∧
            ∃ config, sampleInPlace.config sampleInPlaceOptions = .ok config ∧
              Invocation.openOutput (sampleInPlace.started sampleInPlaceOptions config).tree "d" =
                .ok sampleInPlace.run.tree := by
  obtain ⟨hstatus, hstdout, hkeeps, hopened⟩ :=
    failed_run_writes_no_result rfl sampleInPlace_meets
  have hlocate : sampleInPlace.tree.locate "e" ≠ sampleInPlace.tree.locate "d" := by
    have he : sampleInPlace.tree.locate "e" = .ok ["e"] := by cbv
    have hd : sampleInPlace.tree.locate "d" = .ok ["d"] := by cbv
    rw [he, hd]
    decide
  exact ⟨rfl, sampleInPlace_meets, hstatus, hstdout, hkeeps "e" (Or.inr hlocate), hopened⟩

/-- A run whose log goes to the file that it is to write, and that has no input. Its search path is
no text. -/
def sampleLogged : Invocation ByteArray where
  arguments := ["-c", "c", "-i", "d", "-o", "log"]
  bindings := [("TEXINPUTS", ⟨#[0x61, 0xff]⟩)]
  stdin := .empty
  tree := ⟨[], [(["c"], .file "debug-log: log\n".toUTF8)]⟩
  stamp := none

/-- The options of that run. -/
def sampleLoggedOptions : Options := ⟨"html", "d", "log", some "c".toUTF8, false⟩

/-- The configuration of that run. -/
def sampleLoggedConfig : Config := { Config.default with debugLog := some "log" }

theorem sampleLogged_config :
    sampleLogged.config sampleLoggedOptions = .ok sampleLoggedConfig := by
  have hname : String.fromUTF8? "c".toUTF8 = some "c" := by cbv
  have hread : sampleLogged.tree.files.readText "c" = .ok "debug-log: log\n" := by cbv
  have htext : Config.ofText? "debug-log: log\n" = some sampleLoggedConfig := by decide +kernel
  rw [Invocation.config]
  dsimp only [sampleLoggedOptions]
  rw [hname]
  dsimp only
  rw [Config.load, hread]
  dsimp only [Except.mapError, bind, Except.bind]
  rw [htext]

theorem sampleLogged_started :
    (sampleLogged.started sampleLoggedOptions sampleLoggedConfig).tree =
      sampleLogged.tree.put ["log"] (.file (.empty ++
        (sampleLogged.startLines sampleLoggedOptions sampleLoggedConfig).toUTF8)) := by
  have htarget : (Outcome.start sampleLogged.tree).tree.target "log" = .ok ["log"] := by cbv
  have hfile : (sampleLogged.logging sampleLoggedConfig).file = some "log" := rfl
  exact (Logging.tree_emitAll hfile htarget _).trans (if_pos (by decide +kernel))

theorem sampleLogged_noInput :
    Invocation.openInput (sampleLogged.started sampleLoggedOptions sampleLoggedConfig).tree "d" =
      .error ⟨"Failed to open input file d", [FileError.notFound.message]⟩ := by
  rw [sampleLogged_started]
  -- the lines need not be evaluated
  generalize FileNode.file _ = log
  cbv

theorem sampleLogged_meets : sampleLogged.Meets sampleLoggedOptions .input :=
  .input sampleLogged_config rfl sampleLogged_noInput

/-- **A failed run may change its output**: the log of a run without an input may go there, and an
output is opened before it is known whether there is a document. -/
theorem failed_run_may_change_output :
    (¬∀ (i : Invocation ByteArray) (options : Options), i.request = .ok (.run options) →
      i.Meets options .input →
        i.run.tree.content? options.output = i.tree.content? options.output) ∧
    ¬∀ (i : Invocation ByteArray) (options : Options), i.request = .ok (.run options) →
      i.Meets options .document →
        i.run.tree.content? options.output = i.tree.content? options.output := by
  constructor
  · intro h
    have hkept := h sampleLogged sampleLoggedOptions rfl sampleLogged_meets
    have hlogged : sampleLogged.run.tree =
        (sampleLogged.started sampleLoggedOptions sampleLoggedConfig).tree := by
      rw [Invocation.run_of_badInput rfl sampleLogged_config rfl sampleLogged_noInput]
      rfl
    have hbefore : sampleLogged.tree.content? "log" = none := by cbv
    have hnone : sampleLogged.tree.find? ["log"] ≠ some .directory :=
      (Option.some_ne_none _).symm
    have hlocate : sampleLogged.tree.locate "log" = .ok ["log"] := by cbv
    rw [hlogged, sampleLogged_started] at hkept
    cases (Tree.content?_put_of_locate hnone _ hlocate).symm.trans (hkept.trans hbefore)
  · intro h
    have hkept := h sampleInPlace sampleInPlaceOptions rfl sampleInPlace_meets
    have hopened : sampleInPlace.run.tree = sampleInPlaceOpened := by
      rw [Invocation.run_of_badDocument rfl rfl rfl (by cbv) sampleInPlace_opens
        sampleInPlace_noDocument]
      rfl
    have hafter : sampleInPlaceOpened.content? "d" = some (.file .empty) := by cbv
    have hbefore : sampleInPlace.tree.content? "d" = some (.file "x".toUTF8) := by cbv
    rw [hopened] at hkept
    have hbytes := FileNode.file.inj (Option.some.inj (hafter.symm.trans (hkept.trans hbefore)))
    exact absurd (congrArg ByteArray.size hbytes) (by decide)

end DeckFilter
