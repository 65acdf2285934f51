import DeckFilter.Latex
import DeckFilter.Text.Digits

/-!
# Overlays

A container of staged content names the overlays it is shown on: a number for one overlay, a number
and a dash for that overlay and all later ones.

* `Overlay.number?`: the numerals;
* `Overlay.specification`: the overlay specification of a selector;
* `Overlay.stage`: blocks that are shown on some overlays only.
-/

namespace DeckFilter.Overlay

/-- A numeral: decimal digits after at most one plus sign, with a value that fits in 32 bits. -/
def number? (cs : List Char) : Option Nat := (Text.numeral? cs).filter (· < UInt32.size)

/-- What is left of a text before its last character, if that is a dash. -/
def dropDash (cs : List Char) : Option (List Char) :=
  if cs.getLast? = some '-' then some cs.dropLast else none

/-- From the second overlay on. -/
def fallback : String := "<2->"

/-- The overlay specification of a selector; one that is missing or no numeral means the second
overlay and all later ones. -/
def specification : Option String → String
  | none => fallback
  | some selector =>
    match dropDash selector.toList with
    | some rest =>
      match number? rest with
      | some n => "<" ++ toString n ++ "->"
      | none => fallback
    | none =>
      match number? selector.toList with
      | some n => "<" ++ toString n ++ ">"
      | none => fallback

/-- Content that keeps its place on every overlay and is visible on those that the third class
selects. -/
def stage (classes : List String) (content : List Block) (rawFormat : String) : List Block :=
  Latex.wrap rawFormat (Latex.opening "visibleenv" ++ specification classes[2]?) content
    (Latex.closing "visibleenv")

end DeckFilter.Overlay
