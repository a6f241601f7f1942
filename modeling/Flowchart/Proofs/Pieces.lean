import Flowchart.Syntax.Scan
import Mathlib.Data.List.DropRight
import Mathlib.Data.List.TakeWhile

/-! # Pieces of a source

A flowchart is read from pieces of its source: lines end at line breaks, statements at semicolons,
and a statement is trimmed of blanks. None of these is an identifier character, so no identifier
runs across the end of a piece (`Text.Bounded`), and an identifier that is whole within a trimmed
statement is whole within the source (`Text.IsIdentToken.of_bounded`). -/

set_option autoImplicit false

namespace Flowchart

theorem CodePoint.isIdent_eq_false_of_isBlank {c : CodePoint} (blank : c.isBlank = true) :
    c.isIdent = false := by
  simp only [CodePoint.isBlank, CodePoint.inRanges, blankRanges, List.any_cons, List.any_nil,
    Bool.or_false, Bool.or_eq_true, Bool.and_eq_true, decide_eq_true_eq] at blank
  simp only [CodePoint.isIdent, CodePoint.isAsciiLetter, CodePoint.isAsciiDigit, Bool.or_eq_false_iff,
    Bool.and_eq_false_iff, decide_eq_false_iff_not, beq_eq_false_iff_ne]
  omega

namespace Text

/-- `p` occurs in `t` with no identifier character right before it or right after it, so no
identifier of `t` runs across an end of `p`. -/
def Bounded (p t : Text) : Prop :=
  ∃ pre post, t = pre ++ p ++ post ∧ (∀ c ∈ pre.getLast?, c.isIdent = false) ∧
    ∀ c ∈ post.head?, c.isIdent = false

/-- `id` occurs in `t` as a whole identifier: a non-empty run of identifier characters that is no
proper part of a longer one. -/
def IsIdentToken (id t : Text) : Prop :=
  id ≠ [] ∧ (∀ c ∈ id, c.isIdent = true) ∧ Bounded id t

theorem Bounded.refl (t : Text) : Bounded t t := ⟨[], [], by simp, by simp, by simp⟩

theorem Bounded.trans {a b c : Text} (inner : Bounded a b) (outer : Bounded b c) :
    Bounded a c := by
  obtain ⟨pre, post, rfl, before, after⟩ := inner
  obtain ⟨pre', post', rfl, before', after'⟩ := outer
  refine ⟨pre' ++ pre, post ++ post', by simp, ?_, ?_⟩
  · -- the character before `a` is the last of `pre`, or the last of `pre'` when `pre` is empty
    rcases List.eq_nil_or_concat pre with rfl | ⟨init, y, rfl⟩
    · simpa using before'
    · simpa using before
  · rcases post with _ | ⟨y, rest⟩
    · simpa using after'
    · simpa using after

theorem IsIdentToken.of_bounded {id p t : Text} (token : IsIdentToken id p) (piece : Bounded p t) :
    IsIdentToken id t :=
  ⟨token.1, token.2.1, token.2.2.trans piece⟩

theorem Bounded.append_left {p t : Text} (piece : Bounded p t) (x : Text)
    (start : ∀ c ∈ x.getLast?, c.isIdent = false) : Bounded p (x ++ t) :=
  piece.trans ⟨x, [], by simp, start, by simp⟩

/-! ## Trimming -/

theorem trimEnd_eq_rdropWhile (t : Text) : trimEnd t = t.rdropWhile CodePoint.isBlank := rfl

theorem isBlank_head_trimStart (t : Text) : ∀ c ∈ (trimStart t).head?, c.isBlank = false := by
  intro c mem
  have first := List.head?_dropWhile_not CodePoint.isBlank t
  unfold trimStart at mem
  rw [Option.mem_def] at mem
  rw [mem] at first
  exact first

theorem trim_trim (t : Text) : trim (trim t) = trim t := by
  unfold trim
  rw [trimEnd_eq_rdropWhile, trimEnd_eq_rdropWhile]
  have front : ∀ w : Text, w <+: trimStart t → trimStart w = w := by
    intro w pre
    obtain ⟨rest, split⟩ := pre
    cases w with
    | nil => rfl
    | cons c more =>
        have head : c.isBlank = false := isBlank_head_trimStart t c (by rw [← split]; simp)
        simp [trimStart, head]
  rw [front _ (List.rdropWhile_prefix CodePoint.isBlank (trimStart t)), List.rdropWhile_idempotent]

theorem bounded_trim (t : Text) : Bounded (trim t) t := by
  refine ⟨t.takeWhile CodePoint.isBlank, (trimStart t).rtakeWhile CodePoint.isBlank, ?_, ?_, ?_⟩
  · unfold trim
    rw [trimEnd_eq_rdropWhile, List.append_assoc, List.rdropWhile_append_rtakeWhile]
    exact (List.takeWhile_append_dropWhile).symm
  · intro c mem
    exact CodePoint.isIdent_eq_false_of_isBlank
      (List.mem_takeWhile_imp (List.mem_of_getLast? mem))
  · intro c mem
    exact CodePoint.isIdent_eq_false_of_isBlank
      (List.mem_rtakeWhile_imp (List.mem_of_mem_head? mem))

end Text

namespace Syntax

open Text

/-! ## Lines and statements -/

theorem bounded_of_mem_linesFrom (cur t : Text) :
    ∀ pre : Text, (∀ c ∈ pre.getLast?, c.isIdent = false) →
      ∀ l ∈ linesFrom cur t, Bounded l (pre ++ cur.reverse ++ t) := by
  have breakChar : ∀ c : CodePoint, (c.val = 13 ∨ c.val = 10) → c.isIdent = false := by
    intro c h
    simp only [CodePoint.isIdent, CodePoint.isAsciiLetter, CodePoint.isAsciiDigit,
      Bool.or_eq_false_iff, Bool.and_eq_false_iff, decide_eq_false_iff_not, beq_eq_false_iff_ne]
    omega
  fun_induction linesFrom cur t with
  | case1 cur =>
      intro pre start l mem
      rw [List.mem_singleton.1 mem]
      exact ⟨pre, [], by simp, start, by simp⟩
  | case2 cur c cr d more lf ih =>
      intro pre start l mem
      rcases List.mem_cons.1 mem with rfl | mem
      · exact ⟨pre, c :: d :: more, by simp, start, by simpa using breakChar c (Or.inl cr)⟩
      · have := ih (pre ++ cur.reverse ++ [c, d]) (by simpa using breakChar d (Or.inr lf)) l mem
        simpa using this
  | case3 cur c cr d more notLf ih =>
      intro pre start l mem
      rcases List.mem_cons.1 mem with rfl | mem
      · exact ⟨pre, c :: d :: more, by simp, start, by simpa using breakChar c (Or.inl cr)⟩
      · have := ih (pre ++ cur.reverse ++ [c]) (by simpa using breakChar c (Or.inl cr)) l mem
        simpa using this
  | case4 cur c cr ih =>
      intro pre start l mem
      rcases List.mem_cons.1 mem with rfl | mem
      · exact ⟨pre, [c], by simp, start, by simpa using breakChar c (Or.inl cr)⟩
      · have := ih (pre ++ cur.reverse ++ [c]) (by simpa using breakChar c (Or.inl cr)) l mem
        simpa using this
  | case5 cur c rest notCr lf ih =>
      intro pre start l mem
      rcases List.mem_cons.1 mem with rfl | mem
      · exact ⟨pre, c :: rest, by simp, start, by simpa using breakChar c (Or.inr lf)⟩
      · have := ih (pre ++ cur.reverse ++ [c]) (by simpa using breakChar c (Or.inr lf)) l mem
        simpa using this
  | case6 cur c rest notCr notLf ih =>
      intro pre start l mem
      simpa using ih pre start l mem

theorem bounded_of_mem_lines {src l : Text} (mem : l ∈ lines src) : Bounded l src := by
  simpa using bounded_of_mem_linesFrom [] src [] (by simp) l mem

/-- The text a state of the cutter has read: its statements so far, each closed by a semicolon,
then the current one. -/
def Cutter.read (s : Cutter) : Text :=
  (s.done.reverse.map (· ++ [CodePoint.ofChar ';'])).flatten ++ s.buf.reverse

theorem Cutter.read_step (s : Cutter) (c : CodePoint) : (s.step c).read = s.read ++ [c] := by
  unfold Cutter.step
  split
  · rename_i cut
    simp [Cutter.read, cut.1]
  · -- every other branch only changes the depth and the quote and label flags
    simp only [Cutter.read]
    split_ifs <;> simp

theorem Cutter.read_foldl (s : Cutter) (line : Text) :
    (line.foldl Cutter.step s).read = s.read ++ line := by
  induction line generalizing s with
  | nil => simp
  | cons c rest ih => rw [List.foldl_cons, ih, Cutter.read_step, List.append_assoc]; rfl

theorem bounded_of_mem_cut (sep : CodePoint) (notIdent : sep.isIdent = false) :
    ∀ (segs : List Text) (last : Text), ∀ p ∈ segs ++ [last],
      Bounded p ((segs.map (· ++ [sep])).flatten ++ last) := by
  intro segs
  induction segs with
  | nil =>
      intro last p mem
      simp only [List.nil_append, List.mem_singleton] at mem
      subst mem
      simpa using Bounded.refl p
  | cons seg rest ih =>
      intro last p mem
      rcases List.mem_cons.1 mem with rfl | mem
      · exact ⟨[], sep :: ((rest.map (· ++ [sep])).flatten ++ last), by simp, by simp,
          by simpa using notIdent⟩
      · have := (ih last p mem).append_left (seg ++ [sep]) (by simpa using notIdent)
        simpa using this

theorem bounded_of_mem_statements {line st : Text} (mem : st ∈ statements line) :
    Bounded st line := by
  have whole := Cutter.read_foldl {} line
  simp only [Cutter.read, List.reverse_nil, List.map_nil, List.flatten_nil, List.nil_append]
    at whole
  unfold statements at mem
  rw [List.reverse_cons] at mem
  have := bounded_of_mem_cut (CodePoint.ofChar ';') (by decide) _ _ st mem
  rwa [whole] at this

theorem bounded_of_mem_sourceStatements {src line st : Text} (lineMem : line ∈ lines src)
    (stMem : st ∈ statements line) : Bounded st.trim src :=
  ((bounded_trim st).trans (bounded_of_mem_statements stMem)).trans (bounded_of_mem_lines lineMem)

end Syntax

end Flowchart
