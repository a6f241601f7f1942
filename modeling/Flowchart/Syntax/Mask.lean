import Flowchart.Syntax.Link

/-!
# Masking edge labels

Text inside an edge label must not declare nodes: in `A -->|see B[x]| C` only `A` and `C` are
nodes. Before node declarations are looked for, labels are overwritten with spaces, which keeps
every other character where it was:

* first each pipe label, an arrow followed by optional blanks and `|text|`: the bars and the text
  become spaces, the arrow and the blanks stay;
* then, on the result, the label of each inline-labelled edge found scanning from the left.
-/

set_option autoImplicit false

namespace Flowchart

namespace Syntax

/-- A pipe label at the start of `t`: the range to blank, relative to the start, and the length
read. -/
def pipeLabelAt (t : Text) : Option ((Nat × Nat) × Nat) :=
  (arrowsAt t).findSome? fun (_, rest) =>
    let r := skipBlanks rest
    match r with
    | bar :: inner =>
      if bar = CodePoint.ofChar '|' then
        match inner.dropWhile (· ≠ CodePoint.ofChar '|') with
        | _ :: after => some ((t.length - r.length, t.length - after.length), t.length - after.length)
        | [] => none
      else none
    | [] => none

/-- The inline label of an edge at the start of `t`: its range, relative to the start, and the
length of the edge. -/
def inlineLabelAt (t : Text) : Option ((Nat × Nat) × Nat) :=
  (inlineLink? t).map fun l =>
    let start := t.length - l.labelFrom.length
    ((start, start + l.rawLabel.length), t.length - l.rest.length)

def matchRanges (m : Text → Option ((Nat × Nat) × Nat)) (t : Text) : List (Nat × Nat) :=
  (allMatches m t).map fun (pos, r) => (pos + r.1, pos + r.2)

/-- A statement with its pipe labels and then its inline labels overwritten with spaces. -/
def maskLabels (stmt : Text) : Text :=
  let piped := blankRanges (matchRanges pipeLabelAt stmt) stmt
  blankRanges (matchRanges inlineLabelAt piped) piped

theorem length_maskLabels (stmt : Text) : (maskLabels stmt).length = stmt.length := by
  simp [maskLabels, length_blankRanges]

example : maskLabels (Text.ofString "A-->|B[x]|C") = Text.ofString "A-->      C" := by decide
example : maskLabels (Text.ofString "A-- B[x] -->C") = Text.ofString "A--      -->C" := by decide

end Syntax

end Flowchart
