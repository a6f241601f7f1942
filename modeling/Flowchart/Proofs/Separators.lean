import Flowchart.Proofs.Ends
import Mathlib.Algebra.Ring.Parity

/-! # Separators

A line is cut into statements at its separators: the semicolons read at top level, with no double
quote, label or bracket open (`Flowchart.Syntax.TopLevel`). A semicolon at top level ends the
statement before it, and the rest of the line is cut as a line of its own
(`Flowchart.Syntax.statements_separator`); any other semicolon stays in the statement it stands in
(`Flowchart.Syntax.statements_inside`). A semicolon after an odd number of double quotes, after an
opener read at top level with no unmatched closer since, or after a bar read at top level with no bar
since, is of the second kind, brackets and bars inside quotes not counting
(`Flowchart.Syntax.Shielded`, `Flowchart.Syntax.unquoted`).

So cutting removes the separators and nothing else: joining the statements with semicolons gives
the line back, and each statement, cut again on its own, is whole
(`Flowchart.Syntax.statements_rejoin`). Two facts about one step of the cutter carry this. It writes
its finished statements and never reads them (`Flowchart.Syntax.Cutter.step_withDone`), and a cut
leaves it as it was at the start of the line (`Flowchart.Syntax.Cutter.step_of_cuts`), so a
statement is read the same within its line and on its own (`Flowchart.Syntax.Cutter.Rescans`). -/

set_option autoImplicit false

namespace Flowchart

namespace CodePoint

theorem isWord_of_isIdent {x : CodePoint} (ident : x.isIdent = true) : x.isWord = true := by
  have small : x.val < 0x80 := by
    simp only [isIdent, isAsciiLetter, isAsciiDigit, Bool.or_eq_true, Bool.and_eq_true,
      decide_eq_true_eq, beq_iff_eq] at ident
    omega
  simpa [isWord, isAlphanumeric, small, isIdent, Bool.or_assoc] using ident

end CodePoint

namespace Syntax

/-- The characters of `m` read outside double quotes, quoting on at the start when `quoting` is. -/
def unquoted (quoting : Bool) : Text → Text
  | [] => []
  | c :: m =>
    if c = CodePoint.ofChar '"' then unquoted (!quoting) m
    else if quoting then unquoted quoting m
    else c :: unquoted quoting m

namespace Cutter

/-- A semicolon read now separates two statements: no quote, label or bracket is open. -/
def Free (s : Cutter) : Prop := s.inQuotes = false ∧ s.inPipe = false ∧ s.depth = 0

instance (s : Cutter) : Decidable s.Free := inferInstanceAs (Decidable (_ ∧ _ ∧ _))

/-- The cutter ends a statement at `c`. -/
def Cuts (s : Cutter) (c : CodePoint) : Prop := c = CodePoint.ofChar ';' ∧ s.Free

instance (s : Cutter) (c : CodePoint) : Decidable (s.Cuts c) := inferInstanceAs (Decidable (_ ∧ _))

/-- The statements so far, the current one last: what the line gives if it ends here. -/
def pieces (s : Cutter) : List Text := (s.buf.reverse :: s.done).reverse

theorem statements_eq_pieces (line : Text) : statements line = (line.foldl step {}).pieces := rfl

theorem cond_iff_cuts (s : Cutter) (c : CodePoint) :
    (c = CodePoint.ofChar ';' ∧ !s.inQuotes ∧ !s.inPipe ∧ s.depth = 0) ↔ s.Cuts c := by
  simp [Cuts, Free]

/-! ## One step -/

/-- The finished statements are written and never read. -/
theorem step_withDone (s : Cutter) (c : CodePoint) (D : List Text) :
    ({ s with done := D } : Cutter).step c =
      { s.step c with done := if s.Cuts c then s.buf.reverse :: D else D } := by
  by_cases cut : s.Cuts c
  · obtain ⟨rfl, q, p, d⟩ := cut
    simp [step, Cuts, Free, q, p, d]
  · have keep := mt (cond_iff_cuts s c).1 cut
    simp only [step, keep, cut, if_false]
    split_ifs <;> rfl

/-- A cut finishes the current statement and starts the next one as the line started. -/
theorem step_of_cuts {s : Cutter} {c : CodePoint} (cut : s.Cuts c) :
    s.step c = { done := s.buf.reverse :: s.done } := by
  obtain ⟨rfl, q, p, d⟩ := cut
  simp [step, q, p, d]

theorem step_of_not_cuts {s : Cutter} {c : CodePoint} (keep : ¬ s.Cuts c) :
    (s.step c).done = s.done ∧ (s.step c).buf = c :: s.buf := by
  simp only [step, mt (cond_iff_cuts s c).1 keep, if_false]
  split_ifs <;> exact ⟨rfl, rfl⟩

theorem step_withDone_append (s : Cutter) (c : CodePoint) (D : List Text) :
    ({ s with done := s.done ++ D } : Cutter).step c = { s.step c with done := (s.step c).done ++ D } := by
  rw [step_withDone]
  by_cases cut : s.Cuts c
  · rw [if_pos cut, step_of_cuts cut]
    rfl
  · rw [if_neg cut, (step_of_not_cuts cut).1]

/-! ## Runs -/

theorem foldl_withDone_append (t : Text) :
    ∀ (s : Cutter) (D : List Text),
      t.foldl step { s with done := s.done ++ D } =
        { t.foldl step s with done := (t.foldl step s).done ++ D } := by
  induction t with
  | nil => intro s D; rfl
  | cons c t ih =>
      intro s D
      rw [List.foldl_cons, step_withDone_append, ih, List.foldl_cons]

theorem pieces_withDone_append (s : Cutter) (D : List Text) :
    ({ s with done := s.done ++ D } : Cutter).pieces = D.reverse ++ s.pieces := by
  simp [pieces]

theorem pieces_foldl_extends (t : Text) :
    ∀ s : Cutter, ∃ w W, (t.foldl step s).pieces = s.done.reverse ++ (s.buf.reverse ++ w) :: W := by
  induction t with
  | nil => intro s; exact ⟨[], [], by simp [pieces]⟩
  | cons c t ih =>
      intro s
      obtain ⟨w, W, eq⟩ := ih (s.step c)
      rw [List.foldl_cons, eq]
      by_cases cut : s.Cuts c
      · rw [step_of_cuts cut]
        exact ⟨[], w :: W, by simp⟩
      · obtain ⟨done, buf⟩ := step_of_not_cuts cut
        rw [done, buf]
        exact ⟨c :: w, W, by simp⟩

/-- Read on its own, the current statement leaves the cutter where it stands, less the finished
statements; and each finished statement, cut on its own, is whole. -/
structure Rescans (s : Cutter) : Prop where
  current : s.buf.reverse.foldl step {} = { s with done := [] }
  finished : ∀ p ∈ s.done, statements p = [p]

theorem Rescans.start : Rescans {} := ⟨rfl, by simp⟩

theorem Rescans.whole {s : Cutter} (h : s.Rescans) : statements s.buf.reverse = [s.buf.reverse] := by
  rw [statements_eq_pieces, h.current]
  simp [pieces]

theorem Rescans.step {s : Cutter} (h : s.Rescans) (c : CodePoint) : (s.step c).Rescans := by
  by_cases cut : s.Cuts c
  · rw [step_of_cuts cut]
    refine ⟨rfl, ?_⟩
    intro p mem
    rcases List.mem_cons.1 mem with rfl | mem
    · exact h.whole
    · exact h.finished p mem
  · obtain ⟨done, buf⟩ := step_of_not_cuts cut
    refine ⟨?_, by rw [done]; exact h.finished⟩
    conv_lhs => rw [buf, List.reverse_cons, List.foldl_append, h.current]
    rw [List.foldl_cons, List.foldl_nil, step_withDone, if_neg cut]

theorem read_eq_intercalate (s : Cutter) : s.read = [CodePoint.ofChar ';'].intercalate s.pieces := by
  unfold read pieces
  rw [List.reverse_cons]
  induction s.done.reverse with
  | nil => simp
  | cons seg rest ih =>
      rw [List.cons_append, List.intercalate_cons_of_ne_nil (by simp), ← ih]
      simp

/-! ## Quotes, brackets and labels -/

theorem inQuotes_step (s : Cutter) (c : CodePoint) :
    (s.step c).inQuotes = (s.inQuotes ^^ (c == CodePoint.ofChar '"')) := by
  by_cases cut : s.Cuts c
  · rw [step_of_cuts cut, cut.2.1, cut.1]
    rfl
  · simp only [step, mt (cond_iff_cuts s c).1 cut, if_false]
    by_cases quote : c = CodePoint.ofChar '"'
    · simp [quote]
    · have other : (c == CodePoint.ofChar '"') = false := by simpa using quote
      rw [other, Bool.xor_false, if_neg quote]
      split_ifs <;> rfl

theorem inQuotes_foldl (t : Text) :
    ∀ s : Cutter, (t.foldl step s).inQuotes =
      (s.inQuotes ^^ decide (t.count (CodePoint.ofChar '"') % 2 = 1)) := by
  induction t with
  | nil => intro s; simp
  | cons c t ih =>
      intro s
      rw [List.foldl_cons, ih, inQuotes_step, Bool.xor_assoc, List.count_cons]
      congr 1
      by_cases quote : c = CodePoint.ofChar '"'
      · simp only [quote, beq_self_eq_true, if_true]
        cases decide_em : decide (t.count (CodePoint.ofChar '"') % 2 = 1) <;> simp_all <;> omega
      · have other : (c == CodePoint.ofChar '"') = false := by simpa using quote
        simp [other]

theorem depth_step_inBracket {s : Cutter} (q : s.inQuotes = false) (p : s.inPipe = false)
    (d : 0 < s.depth) {c : CodePoint} (notQuote : c ≠ CodePoint.ofChar '"') :
    (s.step c).inQuotes = false ∧ (s.step c).inPipe = false ∧
      s.depth + (if (Text.ofString "[(\x7b").contains c then 1 else 0) ≤
        (s.step c).depth + (if (Text.ofString "])\x7d").contains c then 1 else 0) := by
  have notCut : ¬ s.Cuts c := fun cut => by simp [cut.2.2.2] at d
  have opens : (Text.ofString "[(\x7b").contains c = true → opensBracket s.prev c = true := by
    intro opener
    simp only [opensBracket, opener, Bool.true_or]
  simp only [step, if_false, notQuote, q, p, d.ne', and_false, Bool.false_eq_true]
  by_cases o : opensBracket s.prev c
  · -- an opener, of a node body or of an asymmetric one after a name
    simp only [o, if_true, true_and]
    split <;> split <;> omega
  · have notOpener : (Text.ofString "[(\x7b").contains c = false := by
      cases h : (Text.ofString "[(\x7b").contains c
      · rfl
      · exact absurd (opens h) o
    simp only [o, notOpener, Bool.false_eq_true, if_false]
    split_ifs
    · exact ⟨rfl, rfl, by dsimp only; omega⟩
    · exact ⟨q, p, le_refl _⟩

theorem step_quoted {s : Cutter} {c : CodePoint} (keep : ¬ s.Cuts c)
    (quoted : c = CodePoint.ofChar '"' ∨ s.inQuotes = true) :
    (s.step c).depth = s.depth ∧ (s.step c).inPipe = s.inPipe := by
  simp only [step, mt (cond_iff_cuts s c).1 keep, if_false]
  by_cases quote : c = CodePoint.ofChar '"'
  · simp [quote]
  · simp [quote, quoted.resolve_left quote]

theorem unquoted_step (s : Cutter) (c : CodePoint) (m : Text) :
    unquoted s.inQuotes (c :: m) =
      if c = CodePoint.ofChar '"' ∨ s.inQuotes = true then unquoted (s.step c).inQuotes m
      else c :: unquoted (s.step c).inQuotes m := by
  rw [inQuotes_step]
  by_cases quote : c = CodePoint.ofChar '"'
  · simp [unquoted, quote]
  · have other : (c == CodePoint.ofChar '"') = false := by simpa using quote
    cases q : s.inQuotes <;> simp [unquoted, quote, other]

theorem foldl_inBracket (m : Text) :
    ∀ s : Cutter, s.inPipe = false →
      (∀ k, ((unquoted s.inQuotes m).take k).countP ((Text.ofString "])\x7d").contains ·) <
        s.depth + ((unquoted s.inQuotes m).take k).countP ((Text.ofString "[(\x7b").contains ·)) →
      (m.foldl step s).inPipe = false ∧ 0 < (m.foldl step s).depth := by
  induction m with
  | nil =>
      intro s p bound
      exact ⟨p, by simpa [unquoted] using bound 0⟩
  | cons c m ih =>
      intro s p bound
      have d : 0 < s.depth := by simpa using bound 0
      have keep : ¬ s.Cuts c := fun cut => by simp [cut.2.2.2] at d
      rw [List.foldl_cons]
      rw [unquoted_step] at bound
      by_cases quoted : c = CodePoint.ofChar '"' ∨ s.inQuotes = true
      · -- a quote, or a character inside quotes: no bracket moves
        obtain ⟨depth, pipe⟩ := step_quoted keep quoted
        rw [if_pos quoted] at bound
        exact ih _ (pipe.trans p) fun k => depth ▸ bound k
      · have notQuote : c ≠ CodePoint.ofChar '"' := fun quote => quoted (Or.inl quote)
        have q : s.inQuotes = false := by simpa using fun q => quoted (Or.inr q)
        obtain ⟨-, p', moved⟩ := depth_step_inBracket q p d notQuote
        rw [if_neg quoted] at bound
        refine ih _ p' fun k => ?_
        have := bound (k + 1)
        simp only [List.take_succ_cons, List.countP_cons] at this
        omega

theorem foldl_inPipe (m : Text) :
    ∀ s : Cutter, s.inPipe = true → CodePoint.ofChar '|' ∉ unquoted s.inQuotes m →
      (m.foldl step s).inPipe = true := by
  induction m with
  | nil => intro s p _; exact p
  | cons c m ih =>
      intro s p noBar
      have keep : ¬ s.Cuts c := fun cut => by simp [Cuts, Free, p] at cut
      rw [List.foldl_cons]
      rw [unquoted_step] at noBar
      by_cases quoted : c = CodePoint.ofChar '"' ∨ s.inQuotes = true
      · rw [if_pos quoted] at noBar
        exact ih _ ((step_quoted keep quoted).2.trans p) noBar
      · rw [if_neg quoted, List.mem_cons, not_or] at noBar
        exact ih _ ((inPipe_step s fun bar => noBar.1 bar.symm).trans p) noBar.2

theorem step_opener {s : Cutter} (q : s.inQuotes = false) (p : s.inPipe = false) {c : CodePoint}
    (opens : opensBracket s.prev c = true) :
    (s.step c).inQuotes = false ∧ (s.step c).inPipe = false ∧ (s.step c).depth = s.depth + 1 := by
  have quiet : c ∉ Text.ofString ";\"|" := by
    simp only [opensBracket, Bool.or_eq_true, Bool.and_eq_true, decide_eq_true_eq] at opens
    rcases opens with opener | ⟨rfl, -⟩
    · simp only [Text.ofString, List.contains_iff_mem] at opener
      simp at opener
      rcases opener with rfl | rfl | rfl <;> decide
    · decide
  rw [step_outside s q p quiet]
  simp [q, p, opens]

theorem prev_step {s : Cutter} {c : CodePoint} (keep : ¬ s.Cuts c) :
    (s.step c).prev = if c.isBlank then s.prev else some c := by
  simp only [step, mt (cond_iff_cuts s c).1 keep, if_false]
  split_ifs <;> rfl

theorem prev_foldl_blanks {b : Text} (blanks : ∀ c ∈ b, c.isBlank = true) :
    ∀ s : Cutter, (b.foldl step s).prev = s.prev := by
  induction b with
  | nil => intro s; rfl
  | cons c b ih =>
      intro s
      have blank := blanks c List.mem_cons_self
      have keep : ¬ s.Cuts c := by
        rintro ⟨rfl, -⟩
        cases blank
      rw [List.foldl_cons, ih (fun d mem => blanks d (List.mem_cons_of_mem c mem)), prev_step keep,
        if_pos blank]

theorem prev_foldl_ident (s : Cutter) {x : CodePoint} (ident : x.isIdent = true) {b : Text}
    (blanks : ∀ c ∈ b, c.isBlank = true) : ((x :: b).foldl step s).prev = some x := by
  have keep : ¬ s.Cuts x := by
    rintro ⟨rfl, -⟩
    cases ident
  rw [List.foldl_cons, prev_foldl_blanks blanks, prev_step keep,
    CodePoint.isBlank_eq_false_of_isIdent ident]
  rfl

end Cutter

/-! ## Joining the statements again -/

/-- Cutting removes the separators and nothing else: the statements of a line, joined by
semicolons, are the line, and each of them, cut on its own, is whole. -/
theorem statements_rejoin (line : Text) :
    [CodePoint.ofChar ';'].intercalate (statements line) = line ∧
      ∀ p ∈ statements line, statements p = [p] := by
  constructor
  · rw [Cutter.statements_eq_pieces, ← Cutter.read_eq_intercalate, Cutter.read_foldl]
    rfl
  · intro p mem
    have run : (line.foldl Cutter.step {}).Rescans :=
      Cutter.foldl_invariant line (fun s _ _ h => h.step _) {} Cutter.Rescans.start
    rw [Cutter.statements_eq_pieces, Cutter.pieces, List.mem_reverse, List.mem_cons] at mem
    rcases mem with rfl | mem
    · exact run.whole
    · exact run.finished p mem

/-! ## Separators and the semicolons inside -/

/-- A semicolon after `pre` is read at top level, where it separates two statements. -/
def TopLevel (pre : Text) : Prop := (pre.foldl Cutter.step {}).Free

instance (pre : Text) : Decidable (TopLevel pre) := inferInstanceAs (Decidable (Cutter.Free _))

/-- A semicolon at top level ends the statements before it; the rest of the line is cut as a line
of its own. -/
theorem statements_separator {pre : Text} (top : TopLevel pre) (post : Text) :
    statements (pre ++ CodePoint.ofChar ';' :: post) = statements pre ++ statements post := by
  set s := pre.foldl Cutter.step {}
  have cut : s.Cuts (CodePoint.ofChar ';') := ⟨rfl, top⟩
  rw [Cutter.statements_eq_pieces, List.foldl_append, List.foldl_cons, Cutter.step_of_cuts cut]
  have frame := Cutter.foldl_withDone_append post {} (s.buf.reverse :: s.done)
  rw [List.nil_append] at frame
  change (post.foldl Cutter.step { done := s.buf.reverse :: s.done }).pieces = _
  rw [frame, Cutter.pieces_withDone_append]
  rfl

/-- A semicolon anywhere else stays in the statement it stands in: the last statement of the text
before it goes on through it. -/
theorem statements_inside {pre : Text} (inside : ¬ TopLevel pre) (post : Text) {A : List Text}
    {p : Text} (split : statements pre = A ++ [p]) :
    ∃ w W, statements (pre ++ CodePoint.ofChar ';' :: post) = A ++ (p ++ CodePoint.ofChar ';' :: w) :: W := by
  set s := pre.foldl Cutter.step {}
  have keep : ¬ s.Cuts (CodePoint.ofChar ';') := fun cut => inside cut.2
  obtain ⟨done, buf⟩ := Cutter.step_of_not_cuts keep
  have cutSoFar : s.done.reverse ++ [s.buf.reverse] = A ++ [p] := by
    rw [← split, Cutter.statements_eq_pieces, Cutter.pieces, List.reverse_cons]
  have parts := List.append_inj' cutSoFar rfl
  obtain ⟨w, W, eq⟩ := Cutter.pieces_foldl_extends post (s.step (CodePoint.ofChar ';'))
  refine ⟨w, W, ?_⟩
  rw [Cutter.statements_eq_pieces, List.foldl_append, List.foldl_cons, eq, done, buf, parts.1,
    ← List.singleton_inj.1 parts.2]
  simp

/-! ## Semicolons inside quotes, brackets and labels -/

/-- No stretch of `m` from its start closes more brackets than it opens. -/
def Nested (m : Text) : Prop :=
  ∀ k, (m.take k).countP ((Text.ofString "])\x7d").contains ·) ≤
    (m.take k).countP ((Text.ofString "[(\x7b").contains ·)

/-- A semicolon after `pre` stands inside double quotes, a bracket or a label. -/
inductive Shielded : Text → Prop
  /-- After an odd number of double quotes. -/
  | quoted {pre : Text} : Odd (pre.count (CodePoint.ofChar '"')) → Shielded pre
  /-- After an opener read at top level, with no closer read outside quotes since beyond the
  brackets opened since. -/
  | bracket {u m : Text} {o : CodePoint} : TopLevel u → o ∈ Text.ofString "[(\x7b" →
      Nested (unquoted false m) → Shielded (u ++ o :: m)
  /-- After a `>` that follows an identifier, blanks apart, at top level: the opener of an
  asymmetric node body. -/
  | asymmetric {v b m : Text} {x : CodePoint} : TopLevel (v ++ x :: b) → x.isIdent = true →
      (∀ c ∈ b, c.isBlank = true) → Nested (unquoted false m) →
      Shielded (v ++ x :: b ++ CodePoint.ofChar '>' :: m)
  /-- After a bar read at top level, with no bar read outside quotes since. -/
  | label {u m : Text} : TopLevel u → CodePoint.ofChar '|' ∉ unquoted false m →
      Shielded (u ++ CodePoint.ofChar '|' :: m)

theorem not_topLevel_of_opener {u m : Text} (top : TopLevel u) {o : CodePoint}
    (opens : opensBracket (u.foldl Cutter.step {}).prev o = true) (nested : Nested (unquoted false m)) :
    ¬ TopLevel (u ++ o :: m) := by
  obtain ⟨q, p, d⟩ := top
  obtain ⟨q', p', deeper⟩ := Cutter.step_opener q p opens
  have inside := Cutter.foldl_inBracket m _ p' fun k => by
    have := nested k
    rw [q']
    omega
  intro top'
  unfold TopLevel at top'
  rw [List.foldl_append, List.foldl_cons] at top'
  exact absurd top'.2.2 (by omega)

theorem Shielded.not_topLevel {pre : Text} (shielded : Shielded pre) : ¬ TopLevel pre := by
  cases shielded with
  | quoted odd =>
      intro top
      have quoting := Cutter.inQuotes_foldl pre {}
      rw [top.1] at quoting
      simp [Nat.odd_iff.1 odd] at quoting
  | bracket top opener nested =>
      refine not_topLevel_of_opener top ?_ nested
      simp only [opensBracket, Bool.or_eq_true]
      exact Or.inl (List.contains_iff_mem.2 opener)
  | asymmetric top ident blanks nested =>
      refine not_topLevel_of_opener top ?_ nested
      rw [List.foldl_append, Cutter.prev_foldl_ident _ ident blanks]
      -- the word test of `opensBracket` is `CodePoint.isWord` written out
      have word := CodePoint.isWord_of_isIdent ident
      unfold CodePoint.isWord at word
      simp [opensBracket, word]
  | @label u m top noBar =>
      obtain ⟨q, p, d⟩ := top
      have labelled := (Cutter.step_bar _ q p d).1
      have unquoting : ((u.foldl Cutter.step {}).step (CodePoint.ofChar '|')).inQuotes = false := by
        rw [Cutter.inQuotes_step, q]
        decide
      have still := Cutter.foldl_inPipe m _ labelled (by rw [unquoting]; exact noBar)
      intro top'
      unfold TopLevel at top'
      rw [List.foldl_append, List.foldl_cons] at top'
      simp [Cutter.Free, still] at top'

-- In `A["x"; y]` the semicolon follows a quoted run closed inside the bracket, and in
-- `A -->|a "|" b; c|` a bar inside quotes, which closes no label.
example : Shielded (Text.ofString "A" ++ CodePoint.ofChar '[' :: Text.ofString "\"x\"") := by
  have quoted : unquoted false (Text.ofString "\"x\"") = [] := by decide
  exact .bracket (by decide) (by decide) fun k => by simp [quoted]

example : Shielded (Text.ofString "A -->" ++ CodePoint.ofChar '|' :: Text.ofString "a \"|\" b") :=
  .label (by decide) (by decide)

end Syntax

end Flowchart
