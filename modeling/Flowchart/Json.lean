import Flowchart.Text.Basic

/-!
# JSON documents

The record of a diagram is written as a JSON document. A document here holds integers of any size
and texts of code points; objects keep their fields in the order given.

A document is written in ASCII only. In a string, `"` and `\` are escaped, the controls backspace,
form feed, line feed, carriage return and tab get their short escapes, and every other character
outside `U+0020`-`U+007E` is written `\uhhhh` in lower-case hexadecimal; a character beyond U+FFFF
becomes its two surrogates.

A document is written on one line, with `", "` between items and `": "` after keys, or in blocks,
one item a line, each nested level indented by a fixed number of blanks, with `","` ending an item's
line. Empty arrays and objects are `[]` and `{}` in both layouts.
-/

set_option autoImplicit false

namespace Flowchart

/-- A JSON value. -/
inductive Json where
  /-- `null`. -/
  | null
  /-- `true` or `false`. -/
  | bool (b : Bool)
  /-- An integer. -/
  | num (n : Int)
  /-- A string. -/
  | str (t : Text)
  /-- An array. -/
  | arr (items : List Json)
  /-- An object, fields in order. -/
  | obj (fields : List (Text × Json))
deriving Inhabited

namespace Json

def object (fields : List (String × Json)) : Json :=
  obj (fields.map fun f => (Text.ofString f.1, f.2))

def text (s : String) : Json := str (Text.ofString s)

/-- The value of a field of an object; of a repeated key, the last. -/
def field? (j : Json) (key : String) : Option Json :=
  match j with
  | obj fields => (fields.reverse.find? fun f => f.1 = Text.ofString key).map (·.2)
  | _ => none

/-- How a document is laid out. -/
inductive Layout where
  /-- One line, `", "` between items. -/
  | inline
  /-- One item a line, each level indented by this many blanks. -/
  | block (indent : Nat)
deriving DecidableEq, Repr

def escapeChar (c : CodePoint) : Text :=
  let backslash := CodePoint.ofChar '\\'
  if c.val = 34 then [backslash, c]
  else if c.val = 92 then [backslash, c]
  else if c.val = 8 then Text.ofString "\\b"
  else if c.val = 12 then Text.ofString "\\f"
  else if c.val = 10 then Text.ofString "\\n"
  else if c.val = 13 then Text.ofString "\\r"
  else if c.val = 9 then Text.ofString "\\t"
  else if 0x20 ≤ c.val ∧ c.val < 0x7F then [c]
  else if c.val < 0x10000 then backslash :: CodePoint.ofChar 'u' :: Text.hex 4 c.val
  else
    let v := c.val - 0x10000
    (backslash :: CodePoint.ofChar 'u' :: Text.hex 4 (0xD800 + v / 0x400))
      ++ (backslash :: CodePoint.ofChar 'u' :: Text.hex 4 (0xDC00 + v % 0x400))

def quoteString (t : Text) : Text :=
  CodePoint.ofChar '"' :: t.flatMap escapeChar ++ [CodePoint.ofChar '"']

def bracket (layout : Layout) (level : Nat) (openB closeB : Char) (items : List Text) : Text :=
  match items with
  | [] => [CodePoint.ofChar openB, CodePoint.ofChar closeB]
  | _ =>
    match layout with
    | .inline =>
      CodePoint.ofChar openB :: (Text.ofString ", ").intercalate items ++ [CodePoint.ofChar closeB]
    | .block indent =>
      let inner := CodePoint.ofChar '\n' :: Text.blanks (indent * (level + 1))
      let outer := CodePoint.ofChar '\n' :: Text.blanks (indent * level)
      CodePoint.ofChar openB :: inner ++ (CodePoint.ofChar ',' :: inner).intercalate items
        ++ outer ++ [CodePoint.ofChar closeB]

mutual

def render (layout : Layout) (level : Nat) : Json → Text
  | null => Text.ofString "null"
  | bool b => Text.ofString (if b then "true" else "false")
  | num n => Text.ofInt n
  | str t => quoteString t
  | arr items => bracket layout level '[' ']' (renderItems layout (level + 1) items)
  | obj fields => bracket layout level '{' '}' (renderFields layout (level + 1) fields)

def renderItems (layout : Layout) (level : Nat) : List Json → List Text
  | [] => []
  | j :: js => render layout level j :: renderItems layout level js

def renderFields (layout : Layout) (level : Nat) : List (Text × Json) → List Text
  | [] => []
  | (k, v) :: fs => (quoteString k ++ Text.ofString ": " ++ render layout level v) :: renderFields layout level fs

end

def write (layout : Layout) (j : Json) : Text := render layout 0 j

example : write .inline (object [("a", num 1), ("b", arr [])]) = Text.ofString "\x7b\"a\": 1, \"b\": []\x7d" := by
  decide

end Json

end Flowchart
