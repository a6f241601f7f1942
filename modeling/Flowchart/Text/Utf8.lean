import Flowchart.Text.Basic

/-!
# UTF-8

A text becomes bytes by UTF-8, one to four bytes a character. A surrogate is no character and has
no UTF-8 form: encoding a text that holds one fails, naming the first run of surrogates. Names of
files escape single bytes instead: the surrogates `U+DC80` to `U+DCFF` stand for the bytes `0x80` to
`0xFF`, and only the other surrogates fail.

Decoding replaces what is not UTF-8 with `U+FFFD`, one replacement for each maximal part of a
sequence that could still have been valid: a byte that starts no sequence is one replacement, a
sequence cut short by a wrong continuation byte or by the end of the bytes is one replacement for
its valid prefix, and decoding goes on at the byte that broke it.
-/

set_option autoImplicit false

namespace Flowchart

def CodePoint.utf8 (c : CodePoint) : List Nat :=
  let v := c.val
  if v < 0x80 then [v]
  else if v < 0x800 then [0xC0 + v / 0x40, 0x80 + v % 0x40]
  else if v < 0x10000 then [0xE0 + v / 0x1000, 0x80 + v / 0x40 % 0x40, 0x80 + v % 0x40]
  else [0xF0 + v / 0x40000, 0x80 + v / 0x1000 % 0x40, 0x80 + v / 0x40 % 0x40, 0x80 + v % 0x40]

/-- Why a text has no UTF-8 form: the surrogates from position `start` up to `stop` (exclusive),
the first of them being `first`. -/
structure Unencodable where
  start : Nat
  stop : Nat
  first : CodePoint
deriving DecidableEq, Repr

def Unencodable.message (e : Unencodable) : Text :=
  if e.stop = e.start + 1 then
    Text.ofString "'utf-8' codec can't encode character '\\u" ++ Text.hex 4 e.first.val
      ++ Text.ofString "' in position " ++ Text.ofNat e.start ++ Text.ofString ": surrogates not allowed"
  else
    Text.ofString "'utf-8' codec can't encode characters in position " ++ Text.ofNat e.start
      ++ Text.ofString "-" ++ Text.ofNat (e.stop - 1) ++ Text.ofString ": surrogates not allowed"

namespace Text

def surrogateRunFrom (pos : Nat) : Text → Option Unencodable
  | [] => none
  | c :: rest =>
    if c.isSurrogate then
      some ⟨pos, pos + 1 + (rest.takeWhile CodePoint.isSurrogate).length, c⟩
    else surrogateRunFrom (pos + 1) rest

def encode (t : Text) : Except Unencodable (List Nat) :=
  match surrogateRunFrom 0 t with
  | some e => .error e
  | none => .ok (t.flatMap CodePoint.utf8)

/-- The bytes of a file name: UTF-8, with `U+DC80` to `U+DCFF` standing for single bytes; none
when another surrogate is in it. -/
def encodeEscaped (t : Text) : Option (List Nat) :=
  t.foldr (fun c acc => acc.bind fun bs =>
    if c.isSurrogate then
      if 0xDC80 ≤ c.val then some ((c.val - 0xDC00) :: bs) else none
    else some (c.utf8 ++ bs)) (some [])

end Text

namespace Utf8

def replacement : CodePoint := ⟨0xFFFD⟩

def isContinuation (b : Nat) : Bool := 0x80 ≤ b && b < 0xC0

def secondOfThree (b c : Nat) : Bool :=
  isContinuation c && !(b = 0xE0 && c < 0xA0) && !(b = 0xED && 0xA0 ≤ c)

def secondOfFour (b c : Nat) : Bool :=
  isContinuation c && !(b = 0xF0 && c < 0x90) && !(b = 0xF4 && 0x90 ≤ c)

def step : List Nat → CodePoint × Nat
  | [] => (replacement, 1)
  | b :: rest =>
    if b < 0x80 then (⟨b⟩, 1)
    else if b < 0xC2 then (replacement, 1)
    else if b < 0xE0 then
      match rest with
      | c :: _ => if isContinuation c then (⟨(b - 0xC0) * 0x40 + (c - 0x80)⟩, 2) else (replacement, 1)
      | [] => (replacement, 1)
    else if b < 0xF0 then
      match rest with
      | c :: d :: _ =>
        if !secondOfThree b c then (replacement, 1)
        else if !isContinuation d then (replacement, 2)
        else (⟨(b - 0xE0) * 0x1000 + (c - 0x80) * 0x40 + (d - 0x80)⟩, 3)
      | [c] => if secondOfThree b c then (replacement, 2) else (replacement, 1)
      | [] => (replacement, 1)
    else if b < 0xF5 then
      match rest with
      | c :: d :: e :: _ =>
        if !secondOfFour b c then (replacement, 1)
        else if !isContinuation d then (replacement, 2)
        else if !isContinuation e then (replacement, 3)
        else (⟨(b - 0xF0) * 0x40000 + (c - 0x80) * 0x1000 + (d - 0x80) * 0x40 + (e - 0x80)⟩, 4)
      | [c, d] =>
        if !secondOfFour b c then (replacement, 1)
        else if isContinuation d then (replacement, 3) else (replacement, 2)
      | [c] => if secondOfFour b c then (replacement, 2) else (replacement, 1)
      | [] => (replacement, 1)
    else (replacement, 1)

def decodeFrom (skip : Nat) : List Nat → Text
  | [] => []
  | b :: rest =>
    match skip with
    | k + 1 => decodeFrom k rest
    | 0 =>
      let (c, n) := step (b :: rest)
      c :: decodeFrom (n - 1) rest

def decode (bs : List Nat) : Text := decodeFrom 0 bs

example : decode [0xC3, 0xA9, 0x80, 0xE2, 0x82, 0x41, 0xF0, 0x9F] =
    [⟨0xE9⟩, replacement, replacement, ⟨0x41⟩, replacement] := by decide

end Utf8

example : (Text.encodeEscaped [⟨0xDCC3⟩, ⟨0xDCA9⟩]).map Utf8.decode = some [⟨0xE9⟩] := by decide

end Flowchart
