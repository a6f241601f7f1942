import Flowchart.Text.Basic

/-!
# Blank characters and trimming

A blank is a character of bidirectional class WS, B or S or of general category Zs: the 29 code
points of `blankRanges` (Unicode 14.0). Besides the ASCII tab, line feed, vertical tab, form feed,
carriage return and space, they are the information separators U+001C to U+001F, U+0085, the
no-break space, the Ogham, typographic and ideographic spaces, and the line and paragraph
separators. Statements are trimmed of blanks, and `\s` in the grammar means a blank.
-/

set_option autoImplicit false

namespace Flowchart

def blankRanges : List (Nat × Nat) :=
  [(0x09, 0x0D), (0x1C, 0x20), (0x85, 0x85), (0xA0, 0xA0), (0x1680, 0x1680), (0x2000, 0x200A),
   (0x2028, 0x2029), (0x202F, 0x202F), (0x205F, 0x205F), (0x3000, 0x3000)]

def CodePoint.isBlank (c : CodePoint) : Bool := c.inRanges blankRanges

namespace Text

def trimStart (t : Text) : Text := t.dropWhile CodePoint.isBlank

def trimEnd (t : Text) : Text := (t.reverse.dropWhile CodePoint.isBlank).reverse

def trim (t : Text) : Text := trimEnd (trimStart t)

def spanBlank (t : Text) : Text × Text := (t.takeWhile CodePoint.isBlank, t.dropWhile CodePoint.isBlank)

example : trim (ofString "  a b ") = ofString "a b" := by decide

end Text

end Flowchart
