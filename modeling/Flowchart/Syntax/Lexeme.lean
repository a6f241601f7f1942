import Flowchart.Diagram.Shape
import Flowchart.Text.Space

/-!
# Lexemes of a flowchart statement

The pieces statements are made of: identifiers (runs of ASCII letters, digits and `_`), runs of
blanks, node bodies between a shape's opener and closer, and arrows.

A node body runs from its opener up to the first character of its closer, and the closer must
follow there: a body never holds its closer's first character, so there is at most one way to read
a body after a given opener. Openers are tried longest first, in the order `[[ [( {{ (( [ ( { >`.

Every reader here returns what it read with the text that follows it.
-/

set_option autoImplicit false

namespace Flowchart

namespace Syntax

/-- An identifier and what follows it: the longest run of identifier characters, `none` if there
is none. -/
def ident? (t : Text) : Option (Text × Text) :=
  match t.takeWhile CodePoint.isIdent with
  | [] => none
  | id => some (id, t.dropWhile CodePoint.isIdent)

def skipBlanks (t : Text) : Text := t.dropWhile CodePoint.isBlank

/-- The opener and closer of each node shape, in the order they are tried. -/
def shapeSyntax : List (String × String × Shape) :=
  [("[[", "]]", .subroutine), ("[(", ")]", .cylinder), ("\x7b\x7b", "\x7d\x7d", .hexagon),
   ("((", "))", .circle), ("[", "]", .rectangle), ("(", ")", .stadium), ("\x7b", "\x7d", .diamond),
   (">", "]", .asymmetric)]

/-- A node body between `opener` and `closer` at the start of `t`: the body and the text after
the closer. -/
def enclosed? (opener closer : Text) (t : Text) : Option (Text × Text) := do
  let inner ← Text.dropPrefix? opener t
  let stop := closer.headD default
  let body := inner.takeWhile (· ≠ stop)
  let rest ← Text.dropPrefix? closer (inner.dropWhile (· ≠ stop))
  pure (body, rest)

/-- Every way to read a shaped node body at the start of `t`, in the order the shapes are tried:
the shape, the body and the text after it. -/
def shapedBodies (t : Text) : List (Shape × Text × Text) :=
  shapeSyntax.filterMap fun (o, c, s) =>
    (enclosed? (Text.ofString o) (Text.ofString c) t).map fun (body, rest) => (s, body, rest)

def arrows : List String := ["-.->", "-.-", "-->", "---", "==>", "==="]

def arrowsAt (t : Text) : List (Text × Text) :=
  arrows.filterMap fun a => (Text.dropPrefix? (Text.ofString a) t).map fun rest => (Text.ofString a, rest)

def labelOpeners : List String := ["--", "-.", "=="]

def labelClosers : List String := ["-->", "---", ".->", "==>"]

def startsInlineLabel (c : CodePoint) : Bool :=
  !(Text.ofString "-.=|>").contains c

example : shapedBodies (Text.ofString "[[a]] x") =
    [(.subroutine, Text.ofString "a", Text.ofString " x"),
     (.rectangle, Text.ofString "[a", Text.ofString "] x")] := by decide

end Syntax

end Flowchart
