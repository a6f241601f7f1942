import Flowchart.Text.Space
import Flowchart.Text.Quote

/-!
# Directions

A flowchart flows top-down (`TD`, or its synonym `TB`), left to right (`LR`), right to left (`RL`)
or bottom-up (`BT`). A direction is read from its token after trimming blanks and upper-casing
ASCII letters; this is the whole of case-insensitive reading here, since no character beyond ASCII
upper-cases to one of the letters `B`, `D`, `L`, `R`, `T`.

A token that names no direction is refused with a fault. Every fault of a request is a bad value: a
direction token that names no direction, a negative layout setting, or a shape or stroke name that
names none; each has the message shown for it.
-/

set_option autoImplicit false

namespace Flowchart

/-- The direction a flowchart flows in. -/
inductive Direction where
  /-- Top-down. -/
  | td
  /-- Top to bottom, the same flow as `td` under its own name. -/
  | tb
  /-- Left to right. -/
  | lr
  /-- Right to left. -/
  | rl
  /-- Bottom-up. -/
  | bt
deriving DecidableEq, Repr, Inhabited

namespace Direction

def all : List Direction := [td, tb, lr, rl, bt]

def token : Direction → String
  | td => "TD"
  | tb => "TB"
  | lr => "LR"
  | rl => "RL"
  | bt => "BT"

def tokenText (d : Direction) : Text := Text.ofString d.token

def ofToken? (t : Text) : Option Direction := all.find? fun d => d.tokenText = t

/-- Reads a direction token: blanks around it are ignored and ASCII letters may be of either
case. -/
def read? (t : Text) : Option Direction := ofToken? t.trim.toAsciiUpper

def isHorizontal : Direction → Bool
  | lr | rl => true
  | _ => false

def isReversed : Direction → Bool
  | rl | bt => true
  | _ => false

theorem ofToken?_tokenText (d : Direction) : ofToken? d.tokenText = some d := by
  cases d <;> decide

example : read? (Text.ofString " lr\t") = some lr := by decide
example : read? (Text.ofString "sideways") = none := by decide

end Direction

/-- Why a request was refused. -/
inductive Fault where
  /-- A direction token that names no direction, as it was given. -/
  | unknownDirection (token : Text)
  /-- A layout setting below zero. -/
  | negativeSetting (setting : String) (value : Int)
  /-- A shape name that names no shape. -/
  | unknownShape (name : Text)
  /-- A stroke name that names no stroke. -/
  | unknownStroke (name : Text)
deriving DecidableEq, Repr

namespace Fault

def message : Fault → Text
  | unknownDirection token =>
    Text.ofString "Unknown direction '" ++ token ++ Text.ofString "'; use TD, TB, LR, RL, or BT"
  | negativeSetting setting value =>
    Text.ofString (setting ++ " must be non-negative, got ") ++ Text.ofInt value
  | unknownShape name => name.quote ++ Text.ofString " is not a valid NodeShape"
  | unknownStroke name => name.quote ++ Text.ofString " is not a valid EdgeStyle"

end Fault

/-- Reads a direction token, or refuses it. -/
def Direction.parse (token : Text) : Except Fault Direction :=
  match Direction.read? token with
  | some d => .ok d
  | none => .error (.unknownDirection token)

end Flowchart
