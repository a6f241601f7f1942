import Flowchart.Text.Space

/-!
# Reading an integer

Unicode 14.0 has 66 runs of decimal digits (general category Nd), each ten consecutive code
points for the values 0 to 9; `CodePoint.digitValue?` gives the value of any of them.

`Text.toInt?` reads a decimal integer the way the command line accepts one: optional blanks, an
optional `+` or `-`, then decimal digits of any script, where a single underscore may stand between
two digits, then optional blanks. Blanks beyond ASCII count as blanks; the ASCII information
separators U+001C to U+001F do not. At most 4300 digits are read.
-/

set_option autoImplicit false

namespace Flowchart

/-- The first code point (the zero) of each run of decimal digits in Unicode 14.0. -/
def digitZeros : List Nat := [
  0x30, 0x660, 0x6F0, 0x7C0, 0x966, 0x9E6, 0xA66, 0xAE6, 0xB66, 0xBE6,
  0xC66, 0xCE6, 0xD66, 0xDE6, 0xE50, 0xED0, 0xF20, 0x1040, 0x1090, 0x17E0,
  0x1810, 0x1946, 0x19D0, 0x1A80, 0x1A90, 0x1B50, 0x1BB0, 0x1C40, 0x1C50, 0xA620,
  0xA8D0, 0xA900, 0xA9D0, 0xA9F0, 0xAA50, 0xABF0, 0xFF10, 0x104A0, 0x10D30, 0x11066,
  0x110F0, 0x11136, 0x111D0, 0x112F0, 0x11450, 0x114D0, 0x11650, 0x116C0, 0x11730, 0x118E0,
  0x11950, 0x11C50, 0x11D50, 0x11DA0, 0x16A60, 0x16AC0, 0x16B50, 0x1D7CE, 0x1D7D8, 0x1D7E2,
  0x1D7EC, 0x1D7F6, 0x1E140, 0x1E2F0, 0x1E950, 0x1FBF0]

def CodePoint.digitValue? (c : CodePoint) : Option Nat :=
  (digitZeros.find? fun z => z ≤ c.val && c.val < z + 10).map fun z => c.val - z

example : (CodePoint.ofChar '7').digitValue? = some 7 := by decide
example : (CodePoint.ofChar 'x').digitValue? = none := by decide

namespace Text

/-- The most digits an integer may be written with. -/
def maxIntegerDigits : Nat := 4300

/-- A character of an integer's text after its reduction to ASCII: a blank beyond ASCII becomes a
space and a digit of any script its ASCII digit; `none` for any other character beyond ASCII. -/
def asciiForInteger (c : CodePoint) : Option CodePoint :=
  if c.val < 127 then some c
  else if c.isBlank then some (CodePoint.ofChar ' ')
  else c.digitValue?.map fun d => ⟨48 + d⟩

def isIntegerBlank (c : CodePoint) : Bool :=
  c.val = 32 || (9 ≤ c.val && c.val ≤ 13)

/-- The digits of an integer's magnitude, single underscores between them allowed; `none` if the
text is not such a run. -/
def integerDigits : Text → Option (List Nat)
  | [] => none
  | [c] => if c.isAsciiDigit then some [c.val - 48] else none
  | c :: u :: rest =>
    if c.isAsciiDigit then
      if u.val = 95 then
        match rest with
        | d :: more => if d.isAsciiDigit then (integerDigits (d :: more)).map ((c.val - 48) :: ·) else none
        | [] => none
      else (integerDigits (u :: rest)).map ((c.val - 48) :: ·)
    else none

def digitsValue (ds : List Nat) : Nat := ds.foldl (fun n d => 10 * n + d) 0

def toInt? (t : Text) : Option Int := do
  let ascii ← t.mapM asciiForInteger
  let body := ((ascii.dropWhile isIntegerBlank).reverse.dropWhile isIntegerBlank).reverse
  let (negative, digits) := match body with
    | s :: rest => if s.val = 45 then (true, rest) else if s.val = 43 then (false, rest) else (false, body)
    | [] => (false, body)
  let ds ← integerDigits digits
  if ds.length > maxIntegerDigits then none
  else
    let n : Int := digitsValue ds
    some (if negative then -n else n)

example : toInt? (ofString " -1_000 ") = some (-1000) := by decide +kernel
example : toInt? (ofString "1__0") = none := by decide
example : toInt? (ofString "abc") = none := by decide

end Text

end Flowchart
