/-!
# Code points and texts

Diagram sources, labels and command-line arguments are sequences of Unicode code points. A code
point here may be an unpaired surrogate: such input has to come back unchanged in every answer, and
`Char` has no room for it. So a `Text` is a list of `CodePoint`s, and `String` appears only where
text enters or leaves the library.

The character classes that the grammar uses beyond ASCII are tables of their own
(`Flowchart.Text.Space`, `Flowchart.Text.Alphanumeric`, `Flowchart.Text.Printable`,
`Flowchart.Text.Digit`); this file holds the type, the ASCII classes and small builders.
-/

set_option autoImplicit false

namespace Flowchart

/-- A Unicode code point, surrogates included. -/
structure CodePoint where
  /-- The scalar value; every code point read from input is below `0x110000`. -/
  val : Nat
deriving DecidableEq, Repr, Hashable, Inhabited

namespace CodePoint

def ofChar (c : Char) : CodePoint := ⟨c.toNat⟩

instance : Coe Char CodePoint := ⟨ofChar⟩

def inRanges (rs : List (Nat × Nat)) (c : CodePoint) : Bool :=
  rs.any fun r => r.1 ≤ c.val && c.val ≤ r.2

def isAsciiLetter (c : CodePoint) : Bool :=
  (65 ≤ c.val && c.val ≤ 90) || (97 ≤ c.val && c.val ≤ 122)

def isAsciiDigit (c : CodePoint) : Bool := 48 ≤ c.val && c.val ≤ 57

def isIdent (c : CodePoint) : Bool := c.isAsciiLetter || c.isAsciiDigit || c.val == 95

def toAsciiUpper (c : CodePoint) : CodePoint := if 97 ≤ c.val && c.val ≤ 122 then ⟨c.val - 32⟩ else c

def toAsciiLower (c : CodePoint) : CodePoint := if 65 ≤ c.val && c.val ≤ 90 then ⟨c.val + 32⟩ else c

def isSurrogate (c : CodePoint) : Bool := 0xD800 ≤ c.val && c.val < 0xE000

def hexDigit (n : Nat) : CodePoint := if n < 10 then ⟨48 + n⟩ else ⟨87 + n⟩

end CodePoint

abbrev Text := List CodePoint

namespace Text

def ofString (s : String) : Text := s.toList.map CodePoint.ofChar

/-- The string of a text. A surrogate, which `Char` cannot hold, becomes U+FFFD. -/
def toString (t : Text) : String :=
  String.ofList (t.map fun c => if c.isSurrogate then Char.ofNat 0xFFFD else Char.ofNat c.val)

def blanks (n : Nat) : Text := List.replicate n (CodePoint.ofChar ' ')

def ofNat (n : Nat) : Text := ofString (Nat.repr n)

def ofInt (i : Int) : Text :=
  match i with
  | .ofNat n => ofNat n
  | .negSucc n => CodePoint.ofChar '-' :: ofNat (n + 1)

def hex (width n : Nat) : Text :=
  (List.range width).reverse.map fun k => CodePoint.hexDigit (n / Nat.pow 16 k % 16)

def toAsciiUpper (t : Text) : Text := t.map CodePoint.toAsciiUpper

def toAsciiLower (t : Text) : Text := t.map CodePoint.toAsciiLower

def dropPrefix? : Text → Text → Option Text
  | [], t => some t
  | _ :: _, [] => none
  | a :: p, b :: t => if a = b then dropPrefix? p t else none

def suffixes : Text → List Text
  | [] => [[]]
  | c :: t => (c :: t) :: suffixes t

def containsInfix (p t : Text) : Bool := (suffixes t).any fun s => (dropPrefix? p s).isSome

theorem length_of_dropPrefix? {p t r : Text} (h : dropPrefix? p t = some r) :
    t.length = p.length + r.length := by
  induction p generalizing t with
  | nil => simp [dropPrefix?] at h; subst h; simp
  | cons a p ih =>
    cases t with
    | nil => simp [dropPrefix?] at h
    | cons b t =>
      simp only [dropPrefix?] at h
      split at h
      · simp [ih h]; omega
      · simp at h

theorem eq_append_of_dropPrefix? {p t r : Text} (h : dropPrefix? p t = some r) : t = p ++ r := by
  induction p generalizing t with
  | nil => simp [dropPrefix?] at h; subst h; simp
  | cons a p ih =>
    cases t with
    | nil => simp [dropPrefix?] at h
    | cons b t =>
      simp only [dropPrefix?] at h
      split at h
      · rename_i hab; subst hab; simp [ih h]
      · simp at h

example : dropPrefix? (ofString "gr") (ofString "graph") = some (ofString "aph") := by decide

end Text

end Flowchart
