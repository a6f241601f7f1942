import Flowchart.Syntax.Lexeme
import Flowchart.Diagram.Direction
import Flowchart.Text.Alphanumeric

/-!
# The header of a flowchart

The direction of a flowchart comes from its first header: at the start of the source or right after
a line feed, optional blanks (line breaks among them), then `graph` or `flowchart`, blanks, and a
direction token, all in either case, the token not followed by a letter, a digit or `_`. A source
without such a header flows top-down.
-/

set_option autoImplicit false

namespace Flowchart

namespace Syntax

def keyword? (word : String) (t : Text) : Option Text :=
  let w := Text.ofString word
  if Text.toAsciiLower (t.take w.length) = w then some (t.drop w.length) else none

def headerAt (t : Text) : Option Direction := do
  let t := skipBlanks t
  let rest ← (keyword? "graph" t).orElse fun _ => keyword? "flowchart" t
  match rest with
  | c :: _ =>
    if c.isBlank then
      let r := skipBlanks rest
      let d ← Direction.ofToken? (Text.toAsciiUpper (r.take 2))
      match r.drop 2 with
      | x :: _ => if x.isWord then none else some d
      | [] => some d
    else none
  | [] => none

/-- The direction of the first header found at the start of a line, from `t` on; `atLineStart`
tells whether `t` starts a line. -/
def headerFrom (atLineStart : Bool) : Text → Option Direction
  | [] => if atLineStart then headerAt [] else none
  | c :: rest =>
    ((if atLineStart then headerAt (c :: rest) else none)).orElse fun _ =>
      headerFrom (c.val = 10) rest

/-- The direction a source declares in its first header, top-down without one. -/
def headerDirection (src : Text) : Direction := (headerFrom true src).getD .td

example : headerDirection (Text.ofString "%% x\n  Graph lr\nA-->B") = .lr := by decide +kernel
example : headerDirection (Text.ofString "graph LRX") = .td := by decide +kernel

end Syntax

end Flowchart
