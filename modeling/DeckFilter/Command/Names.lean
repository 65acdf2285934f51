import DeckFilter.Command

/-!
# What a run looks at

The files and variables that a run may look at, as far as what is known already tells: the options
name a configuration, the configuration names variables and a log, and the document names images and
listings.

* `Document.fileNames`: the files that a document names;
* `Invocation.fileNames`, `Invocation.variableNames`, `Invocation.readsStdin`: what a run looks at.
-/

namespace DeckFilter

/-- The names under which an image is looked for. -/
def imageNames (searchPath : Option String) (name : String) : List String :=
  let dirs := (searchPath.map fun path => searchDirs path false).getD []
  name :: ((name :: (Path.baseName name).toList).flatMap fun n => dirs.map (Path.join · n))

/-- An editor that leaves every node and collects the names of files in it: of images, and of
divisions, any class of which may name a file. -/
def nameCollector (searchPath : Option String) : Editor (List String) where
  inline
    | .image _ _ target => do
      modify (imageNames searchPath target.url ++ ·)
      pure .unchanged
    | _ => pure .unchanged
  block
    | .div attr _ => do
      modify (attr.classes ++ ·)
      pure .unchanged
    | _ => pure .unchanged

/-- The files that a document names. -/
def Document.fileNames (searchPath : Option String) (d : Document) : List String :=
  (((d.walk (nameCollector searchPath) (d.height + 1)).run []).map (·.2)).getD []

namespace Invocation

variable {Value : Type} [HasBytes Value] (i : Invocation Value)

/-- The options and the configuration of a run, if they are known. -/
def settled : Option (Options × Config) :=
  match i.request with
  | .ok (.run options) => (i.config options).toOption.map fun config => (options, config)
  | _ => none

/-- The options of a run. -/
def options? : Option Options :=
  match i.request with
  | .ok (.run options) => some options
  | _ => none

/-- The variables that a run looks at. -/
def variableNames : List String :=
  [configVariable, Logging.variableName] ++
    match i.settled with
    | some (_, config) => [config.searchPathVar, config.instructorVar]
    | none => []

/-- The run reads standard input. -/
def readsStdin : Bool :=
  match i.settled with
  | some (options, _) => !options.printConfig && options.input = standardName
  | none => false

/-- The names in a document, once it can be read. -/
def documentNames : List String :=
  match i.settled with
  | some (options, config) =>
    match readDocument (i.readInput i.tree options.input) with
    | .ok d => d.fileNames (i.environment config).searchPath
    | .error _ => []
  | none => []

/-- The files that a run looks at. -/
def fileNames : List String :=
  let named := match i.options? with
    | some options =>
      options.config.toList.filterMap String.fromUTF8? ++ [options.input, options.output]
    | none => []
  let log := match i.settled with
    | some (_, config) => config.debugLog.toList
    | none => []
  (named ++ log ++ i.documentNames).filter (· ≠ standardName)

end Invocation

end DeckFilter
