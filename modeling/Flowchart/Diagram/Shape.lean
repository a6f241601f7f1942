import Flowchart.Text.Basic

/-!
# Node shapes and edge strokes

A node is drawn in one of eight shapes and an edge with one of three strokes. Each has a name, the
word a record shows for it. The stroke of an edge follows from its arrow: a dot anywhere makes it
dotted (`-.->`), otherwise a doubled `=` makes it thick (`==>`), otherwise it is solid.
-/

set_option autoImplicit false

namespace Flowchart

/-- The outline a node is drawn with. -/
inductive Shape where
  /-- `id[text]`. -/
  | rectangle
  /-- `id(text)`. -/
  | stadium
  /-- `id{text}`. -/
  | diamond
  /-- `id((text))`. -/
  | circle
  /-- `id[[text]]`. -/
  | subroutine
  /-- `id[(text)]`. -/
  | cylinder
  /-- `id{{text}}`. -/
  | hexagon
  /-- `id>text]`. -/
  | asymmetric
deriving DecidableEq, Repr, Inhabited

namespace Shape

def all : List Shape :=
  [rectangle, stadium, diamond, circle, subroutine, cylinder, hexagon, asymmetric]

def name : Shape → String
  | rectangle => "rectangle"
  | stadium => "stadium"
  | diamond => "diamond"
  | circle => "circle"
  | subroutine => "subroutine"
  | cylinder => "cylinder"
  | hexagon => "hexagon"
  | asymmetric => "asymmetric"

def ofName? (t : Text) : Option Shape := all.find? fun s => Text.ofString s.name = t

end Shape

/-- The line an edge is drawn with. -/
inductive Stroke where
  /-- `-->`, `---`. -/
  | solid
  /-- `-.->`, `-.-`. -/
  | dotted
  /-- `==>`, `===`. -/
  | thick
deriving DecidableEq, Repr, Inhabited

namespace Stroke

def all : List Stroke := [solid, dotted, thick]

def name : Stroke → String
  | solid => "solid"
  | dotted => "dotted"
  | thick => "thick"

def ofName? (t : Text) : Option Stroke := all.find? fun s => Text.ofString s.name = t

/-- The stroke an arrow is drawn with: dotted if it has a dot, thick if it has `==`, else solid. -/
def ofArrow (arrow : Text) : Stroke :=
  if arrow.contains (CodePoint.ofChar '.') then dotted
  else if Text.containsInfix (Text.ofString "==") arrow then thick
  else solid

example : ofArrow (Text.ofString "-.->") = dotted := by decide
example : ofArrow (Text.ofString "==>") = thick := by decide
example : ofArrow (Text.ofString "=-=") = solid := by decide

end Stroke

end Flowchart
