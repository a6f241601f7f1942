import Flowchart.Diagram.Basic
import Flowchart.Syntax.Lexeme
import Flowchart.Syntax.Search

/-!
# Edges in a statement

An edge is written `source arrow target` in one of three forms, tried in this order over the whole
statement, the first form found anywhere winning:

* a pipe label, `A --> |text| B`;
* an inline label, `A -- text --> B`, opened by `--`, `-.` or `==` and closed by `-->`, `---`,
  `.->` or `==>`; the label starts with a character other than `- . = | >`, holds no `|`, and is
  the shortest that lets a closer and a target follow;
* a plain arrow, `A --> B`.

The source may carry a shaped node body (`A[text] --> B`); the shaped readings are tried in the
order of `Flowchart.Syntax.shapeSyntax` and then the reading without one. Blanks may stand around
the arrow and the label's bars. Labels are trimmed; the stroke follows from the arrow, for an inline
label from its opener and closer together.
-/

set_option autoImplicit false

namespace Flowchart

namespace Syntax

variable {α : Type}

/-- An edge read at the start of a text: the edge, for the inline form its label as written and the
text from the label on, and the text after the edge. -/
structure LinkRead where
  edge : Edge
  rawLabel : Text := []
  labelFrom : Text := []
  rest : Text

/-- An identifier, an optional shaped body after it, then `k`: the identifier and what `k` read.
The readings with a shaped body come first, in order, then the one without. -/
def withSource (k : Text → Option α) (t : Text) : Option (Text × α) := do
  let (src, rest) ← ident? t
  let r ← ((shapedBodies (skipBlanks rest)).findSome? fun (_, _, after) => k after).orElse
    fun _ => k rest
  pure (src, r)

def target? (t : Text) : Option (Text × Text) := ident? (skipBlanks t)

/-- The tail of the pipe form, `arrow |label| target`: the arrow, the label, the target and the
text after it. -/
def pipeTail (t : Text) : Option (Text × Text × Text × Text) :=
  (arrowsAt (skipBlanks t)).findSome? fun (arrow, rest) =>
    match skipBlanks rest with
    | bar :: inner =>
      if bar = CodePoint.ofChar '|' then
        match inner.dropWhile (· ≠ CodePoint.ofChar '|') with
        | _ :: after =>
          (target? after).map fun (dst, rest') =>
            (arrow, inner.takeWhile (· ≠ CodePoint.ofChar '|'), dst, rest')
        | [] => none
      else none
    | [] => none

/-- A closer of an inline label at the start of `t`, then the target: the closer, the target and
the text after it. -/
def closeAt (t : Text) : Option (Text × Text × Text) :=
  labelClosers.findSome? fun c =>
    (Text.dropPrefix? (Text.ofString c) t).bind fun rest =>
      (target? rest).map fun (dst, rest') => (Text.ofString c, dst, rest')

/-- Extends an inline label, read so far in reverse as `acc`, by as few characters of `t` as let a
closer and a target follow: the label, the closer, the target and the text after it. -/
def shortestLabel (acc : Text) : Text → Option (Text × Text × Text × Text)
  | [] => (closeAt []).map fun (c, dst, rest) => (acc.reverse, c, dst, rest)
  | x :: t =>
    match closeAt (x :: t) with
    | some (c, dst, rest) => some (acc.reverse, c, dst, rest)
    | none => if x = CodePoint.ofChar '|' then none else shortestLabel (x :: acc) t

/-- The tail of the inline form, `open label close target`: the opener, the text from the label
on, then the label, the closer, the target and the text after it. -/
def inlineTail (t : Text) : Option (Text × Text × Text × Text × Text × Text) :=
  labelOpeners.findSome? fun o =>
    (Text.dropPrefix? (Text.ofString o) (skipBlanks t)).bind fun rest =>
      match rest with
      | x :: more =>
        if startsInlineLabel x then
          (shortestLabel [x] more).map fun (label, c, dst, rest') =>
            (Text.ofString o, rest, label, c, dst, rest')
        else none
      | [] => none

def plainTail (t : Text) : Option (Text × Text × Text) :=
  (arrowsAt (skipBlanks t)).findSome? fun (arrow, rest) =>
    (target? rest).map fun (dst, rest') => (arrow, dst, rest')

/-- An edge with a pipe label at the start of `t`. -/
def pipeLink? (t : Text) : Option LinkRead :=
  (withSource pipeTail t).map fun (src, arrow, label, dst, rest) =>
    { edge := { source := src, target := dst, label := label.trim, stroke := Stroke.ofArrow arrow },
      rest }

/-- An edge with an inline label at the start of `t`. -/
def inlineLink? (t : Text) : Option LinkRead :=
  (withSource inlineTail t).map fun (src, o, labelFrom, label, c, dst, rest) =>
    { edge := { source := src, target := dst, label := label.trim, stroke := Stroke.ofArrow (o ++ c) },
      rawLabel := label, labelFrom, rest }

/-- A plain edge at the start of `t`. -/
def plainLink? (t : Text) : Option LinkRead :=
  (withSource plainTail t).map fun (src, arrow, dst, rest) =>
    { edge := { source := src, target := dst, stroke := Stroke.ofArrow arrow }, rest }

/-- The edge a statement declares: the first pipe-labelled edge anywhere in it, else the first
inline-labelled one, else the first plain one. -/
def edgeOf? (stmt : Text) : Option Edge :=
  ((firstMatch pipeLink? stmt).orElse fun _ =>
    (firstMatch inlineLink? stmt).orElse fun _ => firstMatch plainLink? stmt).map (·.edge)

example : edgeOf? (Text.ofString "A -- go on --> B") =
    some { source := Text.ofString "A", target := Text.ofString "B",
           label := Text.ofString "go on" } := by decide
example : edgeOf? (Text.ofString "A[x]-.->|y| B") =
    some { source := Text.ofString "A", target := Text.ofString "B", label := Text.ofString "y",
           stroke := .dotted } := by decide
example : edgeOf? (Text.ofString "A--->B") = none := by decide

end Syntax

end Flowchart
