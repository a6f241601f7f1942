import Flowchart.Text.Utf8

/-!
# The input file

The command may name a file to read instead of standard input. The name is given to the system as
bytes (`Text.encodeEscaped`); a name with a surrogate that stands for no byte, or with a NUL byte,
cannot be given at all. No file is there to be read: a name made only of `/`, `.` and `..`
components is a directory, and any other name finds nothing; so does a name of `pathLimit` bytes
or more, which the system refuses as too long.

A name is shown in messages as its bytes decoded again, so that a byte that is not UTF-8 shows as
`U+FFFD`.
-/

set_option autoImplicit false

namespace Flowchart

namespace Cli

/-- What looking a file name up finds. -/
inductive Lookup where
  /-- Nothing is there. -/
  | missing
  /-- A directory is there. -/
  | directory
  /-- The system cannot take the name. -/
  | unusable
deriving DecidableEq, Repr

def components (p : Text) : List Text :=
  p.foldr (fun c acc =>
    if c = CodePoint.ofChar '/' then [] :: acc
    else match acc with
      | first :: more => (c :: first) :: more
      | [] => [[c]]) [[]]

def isDotPath (p : Text) : Bool :=
  !p.isEmpty && (components p).all fun part =>
    part.isEmpty || part = Text.ofString "." || part = Text.ofString ".."

/-- The system takes path names shorter than this many bytes; a longer one finds nothing. -/
def pathLimit : Nat := 4096

/-- What a file name finds. -/
def lookup (p : Text) : Lookup :=
  match p.encodeEscaped with
  | none => .unusable
  | some bytes =>
    if bytes.contains 0 then .unusable
    else if isDotPath p && bytes.length < pathLimit then .directory
    else .missing

def shownName (p : Text) : Text := ((p.encodeEscaped).map Utf8.decode).getD p

example : lookup (Text.ofString "./..") = .directory := by decide
example : lookup (Text.ofString "a/..") = .missing := by decide
example : lookup [⟨0x61⟩, ⟨0⟩] = .unusable := by decide

end Cli

end Flowchart
