import Flowchart.Proofs.Separators

/-! # Which edge a statement declares

A search tries its matcher at every position from the left, the end included, and the first
success wins (`Flowchart.Syntax.firstMatch_eq_some_iff`). A statement declares at most one edge,
and the three forms of an edge are searched one after the other, each over the whole statement:
the leftmost pipe-labelled edge wins wherever it stands, then the leftmost inline-labelled one,
then the leftmost plain one. No edge is read exactly when no form is found at any position
(`Flowchart.Syntax.edgeOf?_formsInTurn`).

So the edge read is not always the first one written: in `A --> B -->|x| C` the pipe-labelled arrow
from `B` wins over the plain arrow from `A` before it, and `A` becomes no node
(`Flowchart.Syntax.edgeOf?_pipeAfterPlain`). -/

set_option autoImplicit false

namespace Flowchart

namespace Syntax

open Text

variable {α : Type}

/-! ## Searching -/

/-- `m` succeeds at position `p` of `t`, reading `a`, and at no position before. -/
structure FirstAt (m : Text → Option α) (t : Text) (p : Nat) (a : α) : Prop where
  within : p ≤ t.length
  found : m (t.drop p) = some a
  before : ∀ q < p, m (t.drop q) = none

/-- `m` succeeds at no position of `t`, the end included. -/
def Nowhere (m : Text → Option α) (t : Text) : Prop := ∀ p ≤ t.length, m (t.drop p) = none

theorem firstAt_cons_succ {m : Text → Option α} {c : CodePoint} {t : Text} {p : Nat} {a : α}
    (here : m (c :: t) = none) : FirstAt m (c :: t) (p + 1) a ↔ FirstAt m t p a := by
  constructor
  · rintro ⟨within, found, before⟩
    exact ⟨by simpa using within, found, fun q lt => before (q + 1) (by omega)⟩
  · rintro ⟨within, found, before⟩
    refine ⟨by simpa using within, found, fun q lt => ?_⟩
    cases q with
    | zero => exact here
    | succ q => exact before q (by omega)

theorem nowhere_cons {m : Text → Option α} {c : CodePoint} {t : Text} :
    Nowhere m (c :: t) ↔ m (c :: t) = none ∧ Nowhere m t := by
  constructor
  · intro none
    exact ⟨none 0 (by simp), fun p within => none (p + 1) (by simpa using within)⟩
  · rintro ⟨here, rest⟩ p within
    cases p with
    | zero => exact here
    | succ p => exact rest p (by simpa using within)

/-- A search finds the success at the leftmost position where the matcher succeeds. -/
theorem firstMatch_eq_some_iff (m : Text → Option α) (t : Text) (a : α) :
    firstMatch m t = some a ↔ ∃ p, FirstAt m t p a := by
  induction t with
  | nil =>
      constructor
      · intro found
        exact ⟨0, le_rfl, found, fun q lt => absurd lt (Nat.not_lt_zero q)⟩
      · rintro ⟨p, within, found, -⟩
        rw [Nat.le_zero.1 within] at found
        exact found
  | cons c t ih =>
      rw [firstMatch_cons]
      cases here : m (c :: t) with
      | some b =>
          -- the search stops at once, and no later position is the leftmost one
          simp only [Option.orElse_some, Option.some.injEq]
          constructor
          · rintro rfl
            exact ⟨0, by simp, here, fun q lt => absurd lt (Nat.not_lt_zero q)⟩
          · rintro ⟨p, within, found, before⟩
            cases p with
            | zero => simpa [here] using found
            | succ p =>
                have first := before 0 (by omega)
                rw [List.drop_zero, here] at first
                cases first
      | none =>
          rw [Option.orElse_none, ih]
          constructor
          · rintro ⟨p, first⟩
            exact ⟨p + 1, (firstAt_cons_succ here).2 first⟩
          · rintro ⟨p, first⟩
            cases p with
            | zero =>
                have found := first.found
                rw [List.drop_zero, here] at found
                cases found
            | succ p => exact ⟨p, (firstAt_cons_succ here).1 first⟩

theorem firstMatch_eq_none_iff (m : Text → Option α) (t : Text) :
    firstMatch m t = none ↔ Nowhere m t := by
  induction t with
  | nil =>
      constructor
      · intro none p within
        rw [Nat.le_zero.1 within]
        exact none
      · intro none
        exact none 0 le_rfl
  | cons c t ih =>
      rw [firstMatch_cons, nowhere_cons, ← ih]
      cases m (c :: t) <;> simp

/-! ## The edge of a statement -/

/-- The edge a statement declares. The three forms are searched in turn, each over the whole
statement: the leftmost pipe-labelled edge wins wherever it stands, then the leftmost
inline-labelled edge, then the leftmost plain one; and there is no edge exactly when no form is
found at any position. -/
theorem edgeOf?_formsInTurn (stmt : Text) :
    (edgeOf? stmt = none ↔ Nowhere pipeLink? stmt ∧ Nowhere inlineLink? stmt ∧ Nowhere plainLink? stmt) ∧
      ∀ e, edgeOf? stmt = some e ↔
        (∃ p l, FirstAt pipeLink? stmt p l ∧ l.edge = e) ∨
        (Nowhere pipeLink? stmt ∧ ∃ p l, FirstAt inlineLink? stmt p l ∧ l.edge = e) ∨
        (Nowhere pipeLink? stmt ∧ Nowhere inlineLink? stmt ∧
          ∃ p l, FirstAt plainLink? stmt p l ∧ l.edge = e) := by
  have search (m : Text → Option LinkRead) (e : Edge) :
      (∃ l, firstMatch m stmt = some l ∧ l.edge = e) ↔ ∃ p l, FirstAt m stmt p l ∧ l.edge = e := by
    simp only [firstMatch_eq_some_iff]
    constructor
    · rintro ⟨l, ⟨p, first⟩, edge⟩
      exact ⟨p, l, first, edge⟩
    · rintro ⟨p, l, first, edge⟩
      exact ⟨l, ⟨p, first⟩, edge⟩
  constructor
  · rw [← firstMatch_eq_none_iff, ← firstMatch_eq_none_iff, ← firstMatch_eq_none_iff]
    unfold edgeOf?
    cases firstMatch pipeLink? stmt <;> cases firstMatch inlineLink? stmt <;>
      cases firstMatch plainLink? stmt <;> simp
  · intro e
    rw [← search pipeLink?, ← search inlineLink?, ← search plainLink?,
      ← firstMatch_eq_none_iff, ← firstMatch_eq_none_iff]
    unfold edgeOf?
    cases firstMatch pipeLink? stmt <;> cases firstMatch inlineLink? stmt <;>
      cases firstMatch plainLink? stmt <;> simp

/-- The pipe-labelled arrow wins over the plain arrow written before it: the statement reads the
edge from `B`, and `A` is no node. -/
theorem edgeOf?_pipeAfterPlain :
    edgeOf? (ofString "A --> B -->|x| C") =
        some { source := ofString "B", target := ofString "C", label := ofString "x" } ∧
      ofString "A" ∉ (Diagram.ofSource (ofString "A --> B -->|x| C")).nodeIds := by
  constructor
  · decide +kernel
  · decide +kernel

end Syntax

end Flowchart
