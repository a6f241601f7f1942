import Flowchart.Text.Basic

/-!
# Similarity of two texts and close matches

Two texts are compared by their matching blocks: take the longest common block (the earliest in the
first text, then in the second, among the longest), then do the same on the parts left of it and the
parts right of it. The similarity is `2 M / T`, where `M` counts the matched characters and `T` is
the total length. A candidate is a close match of a word when the similarity is at least `3/5`;
`closeMatches` keeps the three best, best first, a tie going to the later text in code-point order.

For a word of 200 characters or more, characters of the word that occur more than `n / 100 + 1`
times in it (`n` its length) are popular: a block may not start with them, though a block of other
characters may grow across them.
-/

set_option autoImplicit false

namespace Flowchart

namespace Text

def lexLt : Text → Text → Bool
  | [], [] => false
  | [], _ :: _ => true
  | _ :: _, [] => false
  | a :: s, b :: t => a.val < b.val || (a.val = b.val && lexLt s t)

/-- A common block: it starts at `i` in the first text and at `j` in the second, `size` long. -/
structure Block where
  i : Nat
  j : Nat
  size : Nat

def popular (b : Array CodePoint) : CodePoint → Bool :=
  if b.size < 200 then fun _ => false
  else
    let distinct := b.toList.foldl (fun acc c => if acc.contains c then acc else c :: acc) []
    let frequent := distinct.filter fun c => b.toList.count c > b.size / 100 + 1
    fun c => frequent.contains c

def longestBlock (a b : Array CodePoint) (isPopular : CodePoint → Bool)
    (alo ahi blo bhi : Nat) : Block :=
  -- lengths of common blocks that end at each position of `b`, for the previous row of `a`
  let step (acc : Block × Array Nat) (i : Nat) : Block × Array Nat :=
    let (best, prev) := acc
    (List.range (bhi - blo)).foldl (fun (acc' : Block × Array Nat) dj =>
      let (best', row) := acc'
      let j := blo + dj
      if a[i]? = b[j]? ∧ !(isPopular (b[j]?.getD default)) then
        let k := (if j = 0 then 0 else prev.getD (j - 1) 0) + 1
        let row := row.set! j k
        if k > best'.size then (⟨i + 1 - k, j + 1 - k, k⟩, row) else (best', row)
      else (best', row)) (best, Array.replicate b.size 0)
  let (best, _) := (List.range (ahi - alo)).foldl (fun acc di => step acc (alo + di))
    (⟨alo, blo, 0⟩, Array.replicate b.size 0)
  let rec growLeft (fuel : Nat) (blk : Block) : Block :=
    match fuel with
    | 0 => blk
    | fuel + 1 =>
      if blk.i > alo ∧ blk.j > blo ∧ a[blk.i - 1]? = b[blk.j - 1]? then
        growLeft fuel ⟨blk.i - 1, blk.j - 1, blk.size + 1⟩
      else blk
  let rec growRight (fuel : Nat) (blk : Block) : Block :=
    match fuel with
    | 0 => blk
    | fuel + 1 =>
      if blk.i + blk.size < ahi ∧ blk.j + blk.size < bhi ∧ a[blk.i + blk.size]? = b[blk.j + blk.size]? then
        growRight fuel ⟨blk.i, blk.j, blk.size + 1⟩
      else blk
  growRight (ahi - alo) (growLeft (ahi - alo) best)

def matchedCount (a b : Array CodePoint) (isPopular : CodePoint → Bool)
    (alo ahi blo bhi : Nat) : Nat :=
  match longestBlock a b isPopular alo ahi blo bhi with
  | ⟨i, j, size⟩ =>
    if _h : 0 < size ∧ alo ≤ i ∧ i + size ≤ ahi then
      size
        + (if alo < i ∧ blo < j then matchedCount a b isPopular alo i blo j else 0)
        + (if i + size < ahi ∧ j + size < bhi then
            matchedCount a b isPopular (i + size) ahi (j + size) bhi
          else 0)
    else 0
termination_by ahi - alo
decreasing_by all_goals omega

def matched (candidate word : Text) : Nat :=
  let a := candidate.toArray
  let b := word.toArray
  matchedCount a b (popular b) 0 a.size 0 b.size

/-- Whether `candidate` is a close match of `word`: similarity at least `3/5`. -/
def isCloseMatch (word candidate : Text) : Bool :=
  10 * matched candidate word ≥ 3 * (candidate.length + word.length)

/-- Whether `(m₁, t₁, x₁)` ranks above `(m₂, t₂, x₂)`: a higher similarity `2 m / t`, or the same
and a later text. -/
def ranksAbove (m₁ t₁ : Nat) (x₁ : Text) (m₂ t₂ : Nat) (x₂ : Text) : Bool :=
  m₁ * t₂ > m₂ * t₁ || (m₁ * t₂ = m₂ * t₁ && lexLt x₂ x₁)

def insertRanked (e : Nat × Nat × Text) : List (Nat × Nat × Text) → List (Nat × Nat × Text)
  | [] => [e]
  | f :: rest =>
    if ranksAbove e.1 e.2.1 e.2.2 f.1 f.2.1 f.2.2 then e :: f :: rest else f :: insertRanked e rest

/-- The close matches of `word` among `candidates`: at most three, best first. -/
def closeMatches (word : Text) (candidates : List Text) : List Text :=
  let scored := (candidates.filter (isCloseMatch word)).map fun x =>
    (matched x word, x.length + word.length, x)
  ((scored.foldl (fun acc e => insertRanked e acc) []).take 3).map (·.2.2)

def sortLex (ts : List Text) : List Text :=
  ts.foldl (fun acc t => insertSorted t acc) []
where
  /-- Inserts into a sorted list. -/
  insertSorted (t : Text) : List Text → List Text
    | [] => [t]
    | u :: rest => if lexLt t u then t :: u :: rest else u :: insertSorted t rest

end Text

end Flowchart
