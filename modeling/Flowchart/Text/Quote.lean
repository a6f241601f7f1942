import Flowchart.Text.Printable

/-!
# The quoted form of a text

Diagnostics show a value in its quoted form: the text between single quotes, or between double
quotes when it holds a single quote and no double quote. Inside, the delimiter and the backslash are
escaped with a backslash; tab, line feed and carriage return are written `\t`, `\n`, `\r`; other
characters that are not printable (`Flowchart.Text.Printable`) are written as `\xhh` up to U+00FF,
`\uhhhh` up to U+FFFF and `\Uhhhhhhhh` beyond, in lower-case hexadecimal. Printable characters,
ASCII or not, stand for themselves.
-/

set_option autoImplicit false

namespace Flowchart

namespace Text

def escapeHex (letter : Char) (width n : Nat) : Text :=
  CodePoint.ofChar '\\' :: CodePoint.ofChar letter :: hex width n

def quoteChar (delim c : CodePoint) : Text :=
  if c = delim ∨ c.val = 92 then [CodePoint.ofChar '\\', c]
  else if c.val = 9 then ofString "\\t"
  else if c.val = 10 then ofString "\\n"
  else if c.val = 13 then ofString "\\r"
  else if c.isPrintable then [c]
  else if c.val ≤ 0xFF then escapeHex 'x' 2 c.val
  else if c.val ≤ 0xFFFF then escapeHex 'u' 4 c.val
  else escapeHex 'U' 8 c.val

/-- The delimiter of the quoted form: a double quote when the text holds a single quote and no
double quote, a single quote otherwise. -/
def quoteDelimiter (t : Text) : CodePoint :=
  if t.contains (CodePoint.ofChar '\'') && !t.contains (CodePoint.ofChar '"') then
    CodePoint.ofChar '"'
  else CodePoint.ofChar '\''

def quote (t : Text) : Text :=
  let delim := quoteDelimiter t
  delim :: t.flatMap (quoteChar delim) ++ [delim]

example : quote (ofString "XY") = ofString "'XY'" := by decide
example : quote (ofString "it's") = ofString "\"it's\"" := by decide
example : quote (ofString "a\tb\u00a0") = ofString "'a\\tb\\xa0'" := by decide +kernel

end Text

end Flowchart
