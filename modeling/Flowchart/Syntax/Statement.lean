import Flowchart.Syntax.Mask
import Flowchart.Text.Alphanumeric

/-!
# Statements

A source is cut into lines at `\r\n`, `\n` and `\r`, and each line into statements at each `;`
that stands outside double quotes, outside brackets and outside a `|label|`. A bracket is one of
`[ ( {` opening and `] ) }` closing (never below depth zero); `>` opens one only right after a
letter, digit or `_` (an asymmetric node `A>text]`), never inside an arrow, where it follows `-` or
`=`. Bars switch a label on and off only outside brackets.

Each statement, trimmed, is one of:

* nothing: it is empty, a `%%` comment, a `graph` or `flowchart` header, or a styling directive
  (`classDef`, `class`, `style`, `linkStyle`, `click` or `direction`, followed by a blank);
* `subgraph` with a title, which opens a region (without a title it is nothing);
* `end`, which closes the open region;
* anything else, read for node declarations and one edge.
-/

set_option autoImplicit false

namespace Flowchart

namespace Syntax

/-- The lines of a source, cut at `\r\n`, `\n` and `\r`; `cur` is the current line, reversed. -/
def linesFrom (cur : Text) : Text → List Text
  | [] => [cur.reverse]
  | c :: rest =>
    if c.val = 13 then
      match rest with
      | d :: more => if d.val = 10 then cur.reverse :: linesFrom [] more else cur.reverse :: linesFrom [] (d :: more)
      | [] => cur.reverse :: linesFrom [] []
    else if c.val = 10 then cur.reverse :: linesFrom [] rest
    else linesFrom (c :: cur) rest

def lines (src : Text) : List Text := linesFrom [] src

/-- Where the cutting of a line into statements stands. -/
structure Cutter where
  /-- The statements cut so far, the last first. -/
  done : List Text := []
  /-- The current statement so far, reversed. -/
  buf : Text := []
  depth : Nat := 0
  inQuotes : Bool := false
  inPipe : Bool := false
  /-- The last character that is not a blank, since the last cut. -/
  prev : Option CodePoint := none

def opensBracket (prev : Option CodePoint) (c : CodePoint) : Bool :=
  (Text.ofString "[(\x7b").contains c
    || (c = CodePoint.ofChar '>' && (prev.map fun p => p.isAlphanumeric || p.val == 95).getD false)

def Cutter.step (s : Cutter) (c : CodePoint) : Cutter :=
  if c = CodePoint.ofChar ';' ∧ !s.inQuotes ∧ !s.inPipe ∧ s.depth = 0 then
    { s with done := s.buf.reverse :: s.done, buf := [], prev := none }
  else
    let s :=
      if c = CodePoint.ofChar '"' then { s with inQuotes := !s.inQuotes }
      else if s.inQuotes then s
      else if c = CodePoint.ofChar '|' ∧ s.depth = 0 then { s with inPipe := !s.inPipe }
      else if s.inPipe then s
      else if opensBracket s.prev c then { s with depth := s.depth + 1 }
      else if (Text.ofString "])\x7d").contains c then { s with depth := s.depth - 1 }
      else s
    { s with buf := c :: s.buf, prev := if c.isBlank then s.prev else some c }

/-- The statements of a line, as written (not trimmed). -/
def statements (line : Text) : List Text :=
  let s := line.foldl Cutter.step {}
  (s.buf.reverse :: s.done).reverse

/-- A node's or title's text made clean: trimmed, and if it is then wrapped in double quotes, without
them and trimmed again. -/
def clean (t : Text) : Text :=
  let s := t.trim
  if 2 ≤ s.length ∧ s.head? = some (CodePoint.ofChar '"') ∧ s.getLast? = some (CodePoint.ofChar '"') then
    Text.trim (s.drop 1).dropLast
  else s

def startsWithWord (atEnd : Bool) (word : String) (t : Text) : Bool :=
  match Text.dropPrefix? (Text.ofString word) t with
  | some (c :: _) => c.isBlank
  | some [] => atEnd
  | none => false

/-- Whether a trimmed statement says nothing for the diagram: a comment, a header or a styling
directive. -/
def isIgnorable (stmt : Text) : Bool :=
  (Text.dropPrefix? (Text.ofString "%%") stmt).isSome
    || ["graph", "flowchart"].any (startsWithWord true · stmt)
    || ["classDef", "class", "style", "linkStyle", "click", "direction"].any (startsWithWord false · stmt)

/-- The title of a region from what follows `subgraph`: a leading double-quoted text as it is, or
the text of `id[text]` made clean, or else all of it. -/
def regionTitle (rest : Text) : Text :=
  let quoted : Option Text :=
    match rest with
    | q :: more =>
      if q = CodePoint.ofChar '"' then
        match more.dropWhile (· ≠ CodePoint.ofChar '"') with
        | _ :: _ => some (more.takeWhile (· ≠ CodePoint.ofChar '"'))
        | [] => none
      else none
    | [] => none
  let bracketed : Option Text := do
    let (_, after) ← ident? rest
    let inner ← Text.dropPrefix? (Text.ofString "[") (skipBlanks after)
    let body := inner.takeWhile (· ≠ CodePoint.ofChar ']')
    if inner.dropWhile (· ≠ CodePoint.ofChar ']') = [CodePoint.ofChar ']'] then some (clean body)
    else none
  (quoted.orElse fun _ => bracketed).getD rest

/-- What follows `subgraph` in a statement that opens a region: `some` the trimmed rest when the
word stands alone or is followed by blanks, `none` when it is not such a statement. -/
def subgraphRest? (stmt : Text) : Option Text :=
  match Text.dropPrefix? (Text.ofString "subgraph") stmt with
  | some [] => some []
  | some (c :: more) => if c.isBlank then some (Text.trim (c :: more)) else none
  | none => none

/-- A node declaration at the start of `t`: an identifier, blanks, and a shaped body; the id, the
clean text and the shape, with the length read. -/
def declarationAt (t : Text) : Option ((Text × Text × Shape) × Nat) := do
  let (id, rest) ← ident? t
  let (shape, body, after) ← (shapedBodies (skipBlanks rest)).head?
  pure ((id, clean body, shape), t.length - after.length)

def declarations (stmt : Text) : List (Text × Text × Shape) :=
  (allMatches declarationAt (maskLabels stmt)).map (·.2)

/-- What a trimmed statement says. -/
inductive Statement where
  /-- Nothing for the diagram. -/
  | nothing
  /-- Open a region with this title. -/
  | openRegion (title : Text)
  /-- Close the open region. -/
  | closeRegion
  /-- Declare these nodes, then add this edge. -/
  | elements (nodes : List (Text × Text × Shape)) (edge : Option Edge)
deriving Repr

/-- Reads a trimmed statement. -/
def Statement.read (stmt : Text) : Statement :=
  if stmt.isEmpty || isIgnorable stmt then .nothing
  else
    match subgraphRest? stmt with
    | some rest =>
      let title := regionTitle rest
      if title.isEmpty then .nothing else .openRegion title
    | none =>
      if stmt = Text.ofString "end" then .closeRegion
      else .elements (declarations stmt) (edgeOf? stmt)

example : statements (Text.ofString "A-->B; C[a;b] ;D") =
    [Text.ofString "A-->B", Text.ofString " C[a;b] ", Text.ofString "D"] := by decide +kernel
example : lines (Text.ofString "a\r\nb\rc\n") =
    [Text.ofString "a", Text.ofString "b", Text.ofString "c", []] := by decide +kernel
example : regionTitle (Text.ofString "s1 [ \"Data\" ]") = Text.ofString "Data" := by decide +kernel

end Syntax

end Flowchart
