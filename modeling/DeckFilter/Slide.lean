import DeckFilter.Walk

/-!
# Headers and bullets on slides

* `Slide.decorate`: a header with the configured classes;
* `Slide.bullets`: block quotes, which reveal bullets one at a time.
-/

namespace DeckFilter.Slide

/-- The decorators come after the classes that are there. Titles stand at different levels in
different decks, so every level is decorated. -/
def decorate (decorators : List String) (attr : Attr) : Attr :=
  { attr with classes := attr.classes ++ decorators }

/-- Unless bullets are to appear one at a time, a block quote gives way to its content. -/
def bullets (oneAtATime : Bool) (content : List Block) : Edit Block :=
  if oneAtATime then .unchanged else .replace content

end DeckFilter.Slide
