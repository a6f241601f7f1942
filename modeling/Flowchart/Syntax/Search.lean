import Flowchart.Text.Basic

/-!
# Searching a text

A matcher looks at a text from its start and either fails or reports what it read. Searching tries
the matcher at each position from the left, the end included; the first success wins. Scanning
collects every match from the left, each next attempt starting where the previous match ended, so
matches never overlap.
-/

set_option autoImplicit false

namespace Flowchart

namespace Syntax

variable {α : Type}

/-- The first success of `m` at a position of `t`, from the left. -/
def firstMatch (m : Text → Option α) : Text → Option α
  | [] => m []
  | c :: rest => (m (c :: rest)).orElse fun _ => firstMatch m rest

/-- Scans `t` from position `pos`, the first `skip` characters still inside the previous match:
each match with its position. `m` gives a match's value and length. -/
def scanFrom (m : Text → Option (α × Nat)) (pos skip : Nat) : Text → List (Nat × α)
  | [] => []
  | c :: rest =>
    match skip with
    | k + 1 => scanFrom m (pos + 1) k rest
    | 0 =>
      match m (c :: rest) with
      | some (a, len) => (pos, a) :: scanFrom m (pos + 1) (len - 1) rest
      | none => scanFrom m (pos + 1) 0 rest

/-- The matches of `m` in `t`, leftmost first and not overlapping, with their positions. Matches are
not empty, so none starts at the end of the text. -/
def allMatches (m : Text → Option (α × Nat)) (t : Text) : List (Nat × α) := scanFrom m 0 0 t

def blankRanges (ranges : List (Nat × Nat)) (t : Text) : Text :=
  t.mapIdx fun i c => if ranges.any fun r => r.1 ≤ i && i < r.2 then CodePoint.ofChar ' ' else c

theorem firstMatch_cons (m : Text → Option α) (c : CodePoint) (rest : Text) :
    firstMatch m (c :: rest) = (m (c :: rest)).orElse fun _ => firstMatch m rest := rfl

theorem length_blankRanges (ranges : List (Nat × Nat)) (t : Text) :
    (blankRanges ranges t).length = t.length := by
  simp [blankRanges]

end Syntax

end Flowchart
