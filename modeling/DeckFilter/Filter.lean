import DeckFilter.Container
import DeckFilter.Document.Decode
import DeckFilter.Document.Encode
import DeckFilter.Document.Height
import DeckFilter.FilterError
import DeckFilter.Json.Parse
import DeckFilter.Json.Text
import DeckFilter.Role
import DeckFilter.SearchPath
import DeckFilter.Slide

/-!
# Filtering documents

Images, roles and titles are edited for every output format, headers, block quotes and containers
for the slide format alone. A node that cannot be edited stays as it is, with a diagnostic.

* `Setup`: what a run knows;
* `Setup.attemptBlock`, `Setup.attemptInline`, `settle`, `Setup.editor`: single nodes;
* `Setup.filterDocument`, `Setup.filterBlocks`: trees;
* `Sink`, `Setup.filterText`: texts.
-/

namespace DeckFilter

/-- What a run knows: its configuration, its environment and the files around it. -/
structure Setup where
  config : Config
  environment : Environment
  files : Files

namespace Setup

variable (s : Setup)

/-! ## Nodes -/

/-- What becomes of a block in the slide format. -/
def attemptSlideBlock : Block → Attempt (Edit Block)
  | .blockQuote content => pure (Slide.bullets s.config.bulletPointAnimation content)
  | .header level attr content =>
    pure (.replace [.header level (Slide.decorate s.config.slideDecorators attr) content])
  | .div attr content => do
    match ← Container.classify attr content with
    | some kind => .replace <$> Container.replacement s.config s.files kind attr content
    | none => pure .unchanged
  | _ => pure .unchanged

/-- What becomes of a block. -/
def attemptBlock (block : Block) : Attempt (Edit Block) := do
  if (← get).format = s.config.slideFormat then s.attemptSlideBlock block else pure .unchanged

/-- The target of an image with its address found along the search path. -/
def locate (target : Target) : Target :=
  { target with url := resolve s.files s.environment.searchPath target.url }

/-- What becomes of an inline. -/
def attemptInline : Inline → Attempt (Edit Inline)
  | .image attr description target => pure (.replace [.image attr description (s.locate target)])
  | .code attr text => Role.formatCode s.config s.environment attr text
  | .span attr content => pure (Role.formatTitle s.config attr content)
  | _ => pure .unchanged

end Setup

/-- The part of the program that logs what becomes of nodes. -/
def editorTarget : String := "beamer_filter::rewriter"

/-- The event of a node that was edited. -/
def editedEvent (kind tag : String) : Log.Event :=
  ⟨.debug, editorTarget, "rewrote " ++ kind, [("node", Log.quoted tag)]⟩

/-- The event of a node that was left because of an issue. -/
def leftEvent (kind tag : String) (i : Issue) : Log.Event :=
  ⟨.debug, editorTarget, "left " ++ kind ++ " unchanged",
    [("node", Log.quoted tag), ("error", i.message)]⟩

/-- Make an answer of an attempt: a node with an issue stays as it is and has a diagnostic. -/
def settle {α : Type} (kind tag : String) (attempt : Attempt (Edit α)) :
    StateM Context (Edit α) := do
  match ← attempt.run with
  | .ok .unchanged => pure .unchanged
  | .ok answer =>
    modify (Context.note (editedEvent kind tag))
    pure answer
  | .error issue =>
    modify fun ctx => (ctx.note (leftEvent kind tag issue)).record issue
    pure .unchanged

namespace Setup

variable (s : Setup)

/-- What becomes of a block, with issues recorded. -/
def editBlock (block : Block) : StateM Context (Edit Block) :=
  settle "block" block.tag (s.attemptBlock block)

/-- What becomes of an inline, with issues recorded. -/
def editInline (inline : Inline) : StateM Context (Edit Inline) :=
  settle "inline" inline.tag (s.attemptInline inline)

/-- The editor of a run. -/
def editor : Editor Context := ⟨s.editInline, s.editBlock⟩

/-! ## Trees -/

/-- The editor puts in no list that nests deeper than what it takes out, words for a code inline
aside, so a walk through a list of this height goes down no further than this. -/
def reach (height : Nat) : Nat := height + 2

/-- A list of blocks, filtered. -/
def filterBlocks (blocks : List Block) (ctx : Context) : List Block × Context :=
  ((walkBlocks s.editor (reach (blocksHeight blocks)) blocks).run ctx).getD (blocks, ctx)

/-- A list of inlines, filtered. -/
def filterInlines (inlines : List Inline) (ctx : Context) : List Inline × Context :=
  ((walkInlines s.editor (reach (inlinesHeight inlines)) inlines).run ctx).getD (inlines, ctx)

/-- A document, walked by an editor, and the state after the walk. -/
def walkWith {σ : Type} (editor : Editor σ) (d : Document) (state : σ) : Document × σ :=
  ((d.walk editor (reach d.height)).run state).getD (d, state)

/-- A document, filtered, and the context after the walk. -/
def walkDocument (d : Document) (ctx : Context) : Document × Context := walkWith s.editor d ctx

/-- The event of a finished walk. -/
def finishedEvent (diagnostics : Nat) : Log.Event :=
  ⟨.debug, editorTarget, "walk finished", [("diagnostics", toString diagnostics)]⟩

/-- A document, filtered for an output format, and what there is to say about it. -/
def filterDocument (format : String) (d : Document) : Document × Context :=
  let (d, ctx) := s.walkDocument d (Context.start format)
  (d, ctx.note (finishedEvent ctx.diagnostics.length))

end Setup

/-! ## Texts -/

/-- Where a text goes: whether it takes the text, and whether what it took gets through. A refusal
has a reason. -/
structure Sink where
  write : String → Except String Unit
  flush : Except String Unit

/-- The sink that takes everything. -/
def Sink.unlimited : Sink := ⟨fun _ => .ok (), .ok ()⟩

/-- The document of a text; a text that could not be read to its end is no JSON. -/
def readDocument (input : Option ByteArray) : Decoded Document :=
  match input.bind Json.ofBytes? with
  | some v => Document.ofJson v
  | none => .error .notJson

/-- The event of a document that was read. -/
def readEvent (format : String) (d : Document) : Log.Event :=
  ⟨.debug, editorTarget, "read document",
    [("blocks", toString d.blocks.length), ("format", Log.quoted format)]⟩

/-- Put a text into a sink. -/
def Sink.put (sink : Sink) (text : String) : Except FilterError Unit := do
  (sink.write text).mapError .unwritable
  sink.flush.mapError .io

/-- Read a document, filter it and write it to a sink: the filtered text and the diagnostics, or why
there is none. Nothing is written unless all of it could be read. -/
def Setup.filterText (s : Setup) (format : String) (input : Option ByteArray) (sink : Sink) :
    Except FilterError (String × List Diagnostic) :=
  match readDocument input with
  | .error e => .error (.unreadable e)
  | .ok d =>
    let (out, ctx) := s.filterDocument format d
    let text := out.toJson.text
    (sink.put text).map fun _ => (text, ctx.diagnostics)

end DeckFilter
