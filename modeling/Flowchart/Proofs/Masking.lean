import Flowchart.Proofs.NodeText
import Flowchart.Proofs.Header

/-! # Masking labels

Masking overwrites the labels of a statement with blanks and changes nothing else. It keeps the
length, and every character outside the masked spans. The spans are the bar-to-bar parts of the
pipe labels found scanning the statement from the left, then the labels of the inline-labelled
edges found scanning the result (`Flowchart.Syntax.Leftmost`, `Flowchart.Syntax.PipeLabel`). A
span starts right after a character that is no identifier character and no identifier runs across
its end. So an identifier of the statement is masked whole or not at all, and the identifiers of
the masked statement are exactly those of the statement outside every span
(`Flowchart.Syntax.maskLabels_blanksLabels`).

Each span is blanked with one rewrite of the text: the text before it, as many blanks, the text
after it (`Flowchart.Syntax.spliceBlanks`). The spans of a scan are all computed before the first
rewrite, and they stay valid while the rewrites are made one after another, since every rewrite
keeps the length (`Flowchart.Syntax.foldl_spliceBlanks`). -/

set_option autoImplicit false

namespace Flowchart

namespace Syntax

open Text

variable {α : Type}

/-! ## Blanking ranges -/

/-- Position `i` lies in one of the ranges `[start, stop)`. -/
def InRanges (R : List (Nat × Nat)) (i : Nat) : Prop := ∃ r ∈ R, r.1 ≤ i ∧ i < r.2

instance (R : List (Nat × Nat)) (i : Nat) : Decidable (InRanges R i) :=
  inferInstanceAs (Decidable (∃ r ∈ R, _))

theorem any_eq_true_iff (R : List (Nat × Nat)) (i : Nat) :
    (R.any fun r => r.1 ≤ i && i < r.2) = true ↔ InRanges R i := by
  simp [InRanges]

theorem inRanges_append (R S : List (Nat × Nat)) (i : Nat) :
    InRanges (R ++ S) i ↔ InRanges R i ∨ InRanges S i := by
  simp only [InRanges, List.mem_append]
  constructor
  · rintro ⟨r, mem | mem, range⟩
    · exact Or.inl ⟨r, mem, range⟩
    · exact Or.inr ⟨r, mem, range⟩
  · rintro (⟨r, mem, range⟩ | ⟨r, mem, range⟩)
    · exact ⟨r, Or.inl mem, range⟩
    · exact ⟨r, Or.inr mem, range⟩

theorem getElem?_blankRanges (R : List (Nat × Nat)) (t : Text) (i : Nat) :
    (blankRanges R t)[i]? = t[i]?.map fun c => if InRanges R i then CodePoint.ofChar ' ' else c := by
  simp only [blankRanges, List.getElem?_mapIdx]
  congr 1
  funext c
  simp only [any_eq_true_iff]

theorem blankRanges_append (R S : List (Nat × Nat)) (t : Text) :
    blankRanges (R ++ S) t = blankRanges S (blankRanges R t) := by
  apply List.ext_getElem?
  intro i
  rw [getElem?_blankRanges, getElem?_blankRanges, getElem?_blankRanges, Option.map_map]
  congr 1
  funext c
  by_cases inS : InRanges S i
  · simp [inRanges_append, inS]
  · by_cases inR : InRanges R i <;> simp [inRanges_append, inR, inS]

/-- `t` with the positions from `r.1` up to `r.2` replaced by as many blanks, rewritten as a whole:
the text before, the blanks, the text after. -/
def spliceBlanks (t : Text) (r : Nat × Nat) : Text := t.take r.1 ++ blanks (r.2 - r.1) ++ t.drop r.2

theorem spliceBlanks_eq {t : Text} {r : Nat × Nat} (le : r.1 ≤ r.2) (within : r.2 ≤ t.length) :
    spliceBlanks t r = blankRanges [r] t := by
  have piece : ((t.drop r.1).take (r.2 - r.1)).length = r.2 - r.1 := by
    simp only [List.length_take, List.length_drop]
    omega
  have front : (t.take r.1).length = r.1 := by
    simp only [List.length_take]
    omega
  have split : t = t.take r.1 ++ (t.drop r.1).take (r.2 - r.1) ++ t.drop r.2 := by
    have back : t.drop r.2 = (t.drop r.1).drop (r.2 - r.1) := by
      rw [List.drop_drop, Nat.add_sub_cancel' le]
    rw [back, List.append_assoc, List.take_append_drop, List.take_append_drop]
  conv_rhs => rw [split]
  have middle := blankRanges_middle (t.take r.1) ((t.drop r.1).take (r.2 - r.1)) (t.drop r.2)
  rw [front, piece, Nat.add_sub_cancel' le] at middle
  rw [middle, spliceBlanks]

/-- Rewriting the ranges one after another, each as a whole, with ranges all computed on the text
before the first rewrite, blanks them all: every rewrite keeps the length, so the ranges still
point where they did. -/
theorem foldl_spliceBlanks :
    ∀ (R : List (Nat × Nat)) (t : Text), (∀ r ∈ R, r.1 ≤ r.2 ∧ r.2 ≤ t.length) →
      R.foldl spliceBlanks t = blankRanges R t := by
  intro R
  induction R with
  | nil => intro t _; exact (blankRanges_nil t).symm
  | cons r R ih =>
      intro t within
      have first := spliceBlanks_eq (within r List.mem_cons_self).1 (within r List.mem_cons_self).2
      -- the rest of the ranges fit the rewritten text, which has the length of the first
      have rest : ∀ r' ∈ R, r'.1 ≤ r'.2 ∧ r'.2 ≤ (spliceBlanks t r).length := by
        intro r' mem
        rw [first, length_blankRanges]
        exact within r' (List.mem_cons_of_mem r mem)
      rw [List.foldl_cons, ih _ rest, first, ← blankRanges_append]
      rfl

/-! ## Scanning from the left -/

/-- `ms` are the matches of `m` in `t` found scanning from position `start`: each is a match of `m`
at its position, each ends before the next starts, and every position from `start` on where `m`
matches lies within one of them. `m` gives a match's value and length. -/
structure Leftmost (m : Text → Option (α × Nat)) (t : Text) (start : Nat) (ms : List (Nat × α)) :
    Prop where
  found : ∀ p ∈ ms, start ≤ p.1 ∧ p.1 < t.length ∧ ∃ n, m (t.drop p.1) = some (p.2, n)
  ordered : ms.Pairwise fun p q => ∃ n, m (t.drop p.1) = some (p.2, n) ∧ p.1 + n ≤ q.1
  covered : ∀ q, start ≤ q → q < t.length → (m (t.drop q)).isSome = true →
    ∃ p ∈ ms, ∃ n, m (t.drop p.1) = some (p.2, n) ∧ p.1 ≤ q ∧ q < p.1 + n

section Leftmost

variable {m : Text → Option (α × Nat)} {t : Text}

theorem Leftmost.nil {start : Nat} (past : t.length ≤ start) : Leftmost m t start [] :=
  ⟨by simp, List.Pairwise.nil, fun q le lt _ => absurd lt (by omega)⟩

theorem Leftmost.miss {pos : Nat} {ms : List (Nat × α)} (rest : Leftmost m t (pos + 1) ms)
    (fails : m (t.drop pos) = none) : Leftmost m t pos ms := by
  refine ⟨fun p mem => ?_, rest.ordered, fun q le lt some => ?_⟩
  · obtain ⟨after, within, hit⟩ := rest.found p mem
    exact ⟨by omega, within, hit⟩
  · rcases Nat.eq_or_lt_of_le le with rfl | later
    · rw [fails] at some
      cases some
    · exact rest.covered q later lt some

theorem Leftmost.hit {pos n : Nat} {a : α} {ms : List (Nat × α)} (rest : Leftmost m t (pos + n) ms)
    (found : m (t.drop pos) = some (a, n)) (within : pos < t.length) (positive : 0 < n) :
    Leftmost m t pos ((pos, a) :: ms) := by
  refine ⟨fun p mem => ?_, List.Pairwise.cons (fun q mem => ?_) rest.ordered, fun q le lt some => ?_⟩
  · rcases List.mem_cons.1 mem with rfl | mem
    · exact ⟨Nat.le_refl _, within, n, found⟩
    · obtain ⟨after, within', hit⟩ := rest.found p mem
      exact ⟨by omega, within', hit⟩
  · exact ⟨n, found, (rest.found q mem).1⟩
  · by_cases inside : q < pos + n
    · exact ⟨(pos, a), List.mem_cons_self, n, found, le, inside⟩
    · obtain ⟨p, mem, n', hit, before, ends⟩ := rest.covered q (by omega) lt some
      exact ⟨p, List.mem_cons_of_mem _ mem, n', hit, before, ends⟩

theorem leftmost_scanFrom (nonempty : ∀ u a n, m u = some (a, n) → 0 < n) :
    ∀ (u : Text) (pos skip : Nat), u = t.drop pos → Leftmost m t (pos + skip) (scanFrom m pos skip u) := by
  intro u
  induction u with
  | nil =>
      intro pos skip rest
      exact Leftmost.nil (by have := congrArg List.length rest; simp at this; omega)
  | cons c u ih =>
      intro pos skip rest
      have within : pos < t.length := by
        have := congrArg List.length rest
        simp at this
        omega
      have next : u = t.drop (pos + 1) := by
        rw [← List.drop_drop, ← rest]
        rfl
      cases skip with
      | succ k =>
          rw [show pos + (k + 1) = pos + 1 + k by omega]
          exact ih (pos + 1) k next
      | zero =>
          rw [Nat.add_zero]
          simp only [scanFrom]
          split
          · rename_i a len found
            rw [rest] at found
            have after := ih (pos + 1) (len - 1) next
            rw [show pos + 1 + (len - 1) = pos + len by have := nonempty _ _ _ found; omega] at after
            exact Leftmost.hit after found within (nonempty _ _ _ found)
          · rename_i fails
            rw [rest] at fails
            exact Leftmost.miss (ih (pos + 1) 0 next) fails

theorem leftmost_allMatches (nonempty : ∀ u a n, m u = some (a, n) → 0 < n) (t : Text) :
    Leftmost m t 0 (allMatches m t) :=
  leftmost_scanFrom nonempty t 0 0 rfl

end Leftmost

/-! ## Pipe labels -/

/-- A pipe label written at the start of `u`: an arrow, blanks, a bar, text without a bar and a
bar. Its bars stand at `start` and at `stop - 1`. -/
def PipeLabel (u : Text) (start stop : Nat) : Prop :=
  ∃ arrow ∈ arrows, ∃ gap inner rest : Text,
    u = Text.ofString arrow ++ gap ++ (CodePoint.ofChar '|' :: inner ++ CodePoint.ofChar '|' :: rest) ∧
    (∀ c ∈ gap, c.isBlank = true) ∧ CodePoint.ofChar '|' ∉ inner ∧
    start = (Text.ofString arrow).length + gap.length ∧ stop = start + inner.length + 2

theorem arrowsAt_arrow_append {arrow : String} (mem : arrow ∈ arrows) {v : Text}
    (notHead : ∀ c ∈ v.head?, c ≠ CodePoint.ofChar '>') :
    ∃ more, arrowsAt (Text.ofString arrow ++ v) = (Text.ofString arrow, v) :: more := by
  simp only [arrows, List.mem_cons, List.not_mem_nil, or_false] at mem
  rcases v with _ | ⟨c, v⟩
  · rcases mem with rfl | rfl | rfl | rfl | rfl | rfl <;>
      simp +decide [arrowsAt, arrows, Text.ofString, Text.dropPrefix?]
  · have ne : CodePoint.ofChar '>' ≠ c := Ne.symm (notHead c rfl)
    rcases mem with rfl | rfl | rfl | rfl | rfl | rfl <;>
      simp +decide [arrowsAt, arrows, Text.ofString, Text.dropPrefix?, ne]

theorem pipeLabel_of_pipeLabelAt {u : Text} {start stop n : Nat}
    (h : pipeLabelAt u = some ((start, stop), n)) : PipeLabel u start stop ∧ n = stop := by
  obtain ⟨⟨arrow, rest⟩, mem, hit⟩ := List.exists_of_findSome?_eq_some h
  obtain ⟨s, memS, rfl, split⟩ := eq_of_mem_arrowsAt mem
  simp only at hit
  split at hit
  · rename_i bar inner skipped
    split at hit
    · rename_i opening
      split at hit
      · rename_i d after dropped
        simp only [Option.some.injEq, Prod.mk.injEq] at hit
        obtain ⟨⟨rfl, rfl⟩, rfl⟩ := hit
        have closing : d = CodePoint.ofChar '|' := by
          have first := List.head?_dropWhile_not (fun x => decide (x ≠ CodePoint.ofChar '|')) inner
          rw [dropped] at first
          simpa using first
        have innerSplit := (List.takeWhile_append_dropWhile (l := inner)
          (p := fun x => decide (x ≠ CodePoint.ofChar '|'))).symm
        rw [dropped, closing] at innerSplit
        have noBar : CodePoint.ofChar '|' ∉ inner.takeWhile fun x => decide (x ≠ CodePoint.ofChar '|') :=
          fun mem => by simpa using List.mem_takeWhile_imp mem
        have whole : Text.ofString s ++ rest = Text.ofString s ++ rest.takeWhile CodePoint.isBlank ++
            (CodePoint.ofChar '|' :: inner.takeWhile (fun x => decide (x ≠ CodePoint.ofChar '|')) ++
              CodePoint.ofChar '|' :: after) := by
          conv_lhs => rw [skipBlanks_split rest, skipped, opening, innerSplit]
          simp
        have length := congrArg List.length whole
        have skippedLength : (skipBlanks rest).length =
            (inner.takeWhile fun x => decide (x ≠ CodePoint.ofChar '|')).length + 2 + after.length := by
          have innerLength := congrArg List.length innerSplit
          simp only [List.length_cons, List.length_append] at innerLength
          rw [skipped, List.length_cons]
          omega
        simp only [List.length_append, List.length_cons] at length
        rw [split]
        refine ⟨⟨s, memS, _, _, after, whole, blanks_takeWhile rest, noBar, ?_, ?_⟩, rfl⟩ <;>
          simp only [List.length_append] <;> omega
      · cases hit
    · cases hit
  · cases hit

theorem pipeLabelAt_of_pipeLabel {u : Text} {start stop : Nat} (h : PipeLabel u start stop) :
    pipeLabelAt u = some ((start, stop), stop) := by
  obtain ⟨arrow, mem, gap, inner, rest, rfl, blank, noBar, rfl, rfl⟩ := h
  have notHead : ∀ c ∈ (gap ++ (CodePoint.ofChar '|' :: inner ++ CodePoint.ofChar '|' :: rest)).head?,
      c ≠ CodePoint.ofChar '>' := by
    intro c first
    rcases gap with _ | ⟨g, gap⟩
    · simp only [List.nil_append, List.cons_append, List.head?_cons, Option.mem_def,
        Option.some.injEq] at first
      subst first
      decide
    · simp only [List.cons_append, List.head?_cons, Option.mem_def, Option.some.injEq] at first
      subst first
      rintro rfl
      exact absurd (blank _ List.mem_cons_self) (by decide)
  obtain ⟨more, found⟩ := arrowsAt_arrow_append mem notHead
  unfold pipeLabelAt
  rw [List.append_assoc, found, List.findSome?_cons]
  simp only [skipBlanks_append_of_blanks blank, List.cons_append, skipBlanks_bar,
    dropWhile_ne_bar noBar, if_true, List.length_append, List.length_cons, Option.some.injEq,
    Prod.mk.injEq]
  omega

/-! ## Inline labels -/

theorem inlineLink?_between_dashes {u : Text} {l : LinkRead} (h : inlineLink? u = some l) :
    ∃ y d e z, u = y ++ d :: (l.rawLabel ++ e :: z) ∧ d ∈ dashes ∧ e ∈ dashes ∧ l.rawLabel ≠ [] ∧
      l.labelFrom = l.rawLabel ++ e :: z ∧ l.rest <:+ z := by
  obtain ⟨⟨src, o, labelFrom, label, c, dst, r⟩, found, rfl⟩ := Option.map_eq_some_iff.1 h
  obtain ⟨rest, v, ident, suffix, tail⟩ := withSource_eq_some found
  obtain ⟨⟨s, mem, rfl, split⟩, x, y, z, rfl, rfl, -, closed⟩ := inlineTail_eq_some tail
  obtain ⟨w, rfl⟩ := suffix_of_ident? ident suffix
  obtain ⟨y', d, opener, dash⟩ :=
    exists_last_of_getLast? (labelOpeners_ne s mem) (labelOpeners_last_dash s mem) (x :: y ++ z)
  obtain ⟨s', mem', rfl, after, rfl, target⟩ := closeAt_eq_some closed
  obtain ⟨e, c', closer⟩ := List.exists_cons_of_ne_nil (labelClosers_ne s' mem')
  have rest : r <:+ c' ++ after := by
    obtain ⟨dstSplit, -⟩ := ident?_eq_some target
    refine List.IsSuffix.trans ?_ (List.suffix_append c' after)
    exact (List.suffix_append dst r).trans (dstSplit ▸ List.dropWhile_suffix _)
  refine ⟨w ++ v.takeWhile CodePoint.isBlank ++ y', d, e, c' ++ after, ?_, dash,
    labelClosers_head_dash s' mem' e (by rw [closer]; rfl), List.cons_ne_nil x y, by rw [closer]; simp, rest⟩
  conv_lhs => rw [skipBlanks_split v, split, opener, closer]
  simp

theorem inlineLabelAt_eq_some {u : Text} {r : Nat × Nat} {n : Nat} (h : inlineLabelAt u = some (r, n)) :
    ∃ l, inlineLink? u = some l ∧ ∃ y d e z, u = y ++ d :: (l.rawLabel ++ e :: z) ∧ d ∈ dashes ∧
      e ∈ dashes ∧ l.rawLabel ≠ [] ∧ r = (y.length + 1, y.length + 1 + l.rawLabel.length) ∧ r.2 < n := by
  obtain ⟨l, found, eq⟩ := Option.map_eq_some_iff.1 h
  simp only [Prod.mk.injEq] at eq
  obtain ⟨rfl, rfl⟩ := eq
  obtain ⟨y, d, e, z, split, hd, he, ne, labelFrom, rest⟩ := inlineLink?_between_dashes found
  have length := congrArg List.length split
  have restLength := rest.length_le
  simp only [List.length_append, List.length_cons] at length
  refine ⟨l, found, y, d, e, z, split, hd, he, ne, ?_, ?_⟩
  · rw [labelFrom]
    simp only [List.length_append, List.length_cons, Prod.mk.injEq]
    omega
  · rw [labelFrom]
    simp only [List.length_append, List.length_cons]
    omega

/-! ## Spans fenced by characters that are no identifier characters -/

/-- The range `r` of `t` is not empty, lies within `t`, follows a character that is no identifier
character, and no identifier of `t` runs across its end. -/
structure Fenced (t : Text) (r : Nat × Nat) : Prop where
  positive : 0 < r.1
  nonempty : r.1 < r.2
  within : r.2 ≤ t.length
  before : identAt t (r.1 - 1) = false
  after : Cut t r.2

theorem Fenced.of_drop {t : Text} {pos : Nat} {r : Nat × Nat} (fenced : Fenced (t.drop pos) r) :
    Fenced t (pos + r.1, pos + r.2) := by
  obtain ⟨positive, nonempty, within, before, after⟩ := fenced
  have inside : pos + r.2 ≤ t.length := by
    simp only [List.length_drop] at within
    omega
  refine ⟨by simp only; omega, by simp only; omega, inside, ?_, after.of_drop⟩
  rw [identAt_drop] at before
  simpa only [show pos + r.1 - 1 = pos + (r.1 - 1) by omega] using before

theorem identAt_of_getLast? {y : Text} (ne : y ≠ [])
    (last : ∀ d ∈ y.getLast?, d.isIdent = false) (rest : Text) : identAt (y ++ rest) (y.length - 1) = false := by
  obtain ⟨x, d, eq, notIdent⟩ := exists_last_of_getLast? ne last rest
  have length : y.length = x.length + 1 := by
    simpa using congrArg List.length (List.append_cancel_right (eq.trans (by simp)) : y = x ++ [d])
  rw [eq, length, Nat.add_sub_cancel, identAt_length, notIdent]

theorem PipeLabel.fenced {u : Text} {start stop : Nat} (label : PipeLabel u start stop) :
    Fenced u (start, stop) := by
  obtain ⟨arrow, mem, gap, inner, rest, split, blank, -, rfl, rfl⟩ := label
  have arrowNe := arrows_ne arrow mem
  have last : ∀ d ∈ (Text.ofString arrow ++ gap).getLast?, d.isIdent = false := by
    intro d mem'
    rcases List.eq_nil_or_concat gap with rfl | ⟨g, b, rfl⟩
    · exact arrows_last arrow mem d (by simpa using mem')
    · simp only [List.concat_eq_append, ← List.append_assoc, List.getLast?_concat, Option.mem_def,
        Option.some.injEq] at mem'
      subst mem'
      exact CodePoint.isIdent_eq_false_of_isBlank (blank _ (by simp))
  have lead : (Text.ofString arrow ++ gap).length = (Text.ofString arrow).length + gap.length := by simp
  have positive : 0 < (Text.ofString arrow).length := List.length_pos_of_ne_nil arrowNe
  have length := congrArg List.length split
  simp only [List.length_append, List.length_cons] at length
  refine ⟨by simp only; omega, by simp only; omega, by simp only; omega, ?_, ?_⟩
  · have := identAt_of_getLast? (List.append_ne_nil_of_left_ne_nil arrowNe gap) last
      (CodePoint.ofChar '|' :: inner ++ CodePoint.ofChar '|' :: rest)
    rw [lead, ← split] at this
    exact this
  · refine cut_after (y := Text.ofString arrow ++ gap ++ CodePoint.ofChar '|' :: inner)
      (c := CodePoint.ofChar '|') (z := rest) (by rw [split]; simp) ?_ (by decide)
    simp only [List.length_append, List.length_cons]
    omega

theorem identAt_of_blankRanges_dash {R : List (Nat × Nat)} {t : Text} {k : Nat} {c : CodePoint}
    (at_k : (blankRanges R t)[k]? = some c) (dash : c ∈ dashes) : identAt t k = false := by
  rw [getElem?_blankRanges] at at_k
  cases original : t[k]? with
  | none => rw [original, Option.map_none] at at_k; cases at_k
  | some c' =>
      rw [original, Option.map_some, Option.some.injEq] at at_k
      have kept : c' = c := by
        by_cases covered : InRanges R k
        · rw [if_pos covered] at at_k
          subst at_k
          exact absurd dash (by decide)
        · rwa [if_neg covered] at at_k
      rw [identAt, original, Option.any_some, kept, dashes_not_ident c dash]

theorem fenced_of_inlineLabelAt {R : List (Nat × Nat)} {t : Text} {pos : Nat} {r : Nat × Nat} {n : Nat}
    (h : inlineLabelAt ((blankRanges R t).drop pos) = some (r, n)) : Fenced t (pos + r.1, pos + r.2) := by
  obtain ⟨l, -, y, d, e, z, split, hd, he, ne, rfl, -⟩ := inlineLabelAt_eq_some h
  have at_d : (blankRanges R t)[pos + y.length]? = some d := by
    rw [← List.getElem?_drop, split]
    simp
  have at_e : (blankRanges R t)[pos + (y.length + 1 + l.rawLabel.length)]? = some e := by
    have regroup : y ++ d :: (l.rawLabel ++ e :: z) = (y ++ d :: l.rawLabel) ++ e :: z := by simp
    rw [← List.getElem?_drop, split, regroup,
      show y.length + 1 + l.rawLabel.length = (y ++ d :: l.rawLabel).length by simp; omega]
    simp
  have within : pos + (y.length + 1 + l.rawLabel.length) < t.length := by
    have := (List.getElem?_eq_some_iff.1 at_e).1
    rwa [length_blankRanges] at this
  have positive : 0 < l.rawLabel.length := List.length_pos_of_ne_nil ne
  refine ⟨by simp only; omega, by simp only; omega, by simp only; omega, ?_,
    Or.inl (identAt_of_blankRanges_dash at_e he)⟩
  rw [show pos + (y.length + 1) - 1 = pos + y.length by omega]
  exact identAt_of_blankRanges_dash at_d hd

/-! ## Identifiers -/

/-- Positions `i` up to `j` of `t` hold a whole identifier: identifier characters, with none right
before or right after them. -/
def IdentSpan (t : Text) (i j : Nat) : Prop :=
  i < j ∧ (∀ k, i ≤ k → k < j → identAt t k = true) ∧ (i = 0 ∨ identAt t (i - 1) = false) ∧
    identAt t j = false

theorem identAt_blankRanges_iff (R : List (Nat × Nat)) (t : Text) (k : Nat) :
    identAt (blankRanges R t) k = true ↔ ¬ InRanges R k ∧ identAt t k = true := by
  rw [identAt_blankRanges, Bool.and_eq_true, Bool.not_eq_true', ← Bool.not_eq_true, any_eq_true_iff]

theorem identAt_blankRanges_of_false {R : List (Nat × Nat)} {t : Text} {k : Nat}
    (notIdent : identAt t k = false) : identAt (blankRanges R t) k = false := by
  rw [identAt_blankRanges, notIdent, Bool.and_false]

theorem inRanges_of_blanked {R : List (Nat × Nat)} {t : Text} {k : Nat} (ident : identAt t k = true)
    (blanked : identAt (blankRanges R t) k = false) : InRanges R k := by
  by_contra uncovered
  rw [(identAt_blankRanges_iff R t k).2 ⟨uncovered, ident⟩] at blanked
  cases blanked

theorem not_cut_of_idents {t : Text} {p : Nat} (here : identAt t p = true)
    (before : identAt t (p - 1) = true) : ¬ Cut t p := by
  rintro (cut | ⟨-, cut⟩)
  · rw [here] at cut
    cases cut
  · rw [before] at cut
    cases cut

theorem identSpan_blankRanges_iff {R : List (Nat × Nat)} {t : Text} (safe : Safe R t) (i j : Nat) :
    IdentSpan (blankRanges R t) i j ↔ IdentSpan t i j ∧ ∀ k, i ≤ k → k < j → ¬ InRanges R k := by
  constructor
  · rintro ⟨lt, idents, before, after⟩
    have kept : ∀ k, i ≤ k → k < j → ¬ InRanges R k ∧ identAt t k = true :=
      fun k le lt' => (identAt_blankRanges_iff R t k).1 (idents k le lt')
    refine ⟨⟨lt, fun k le lt' => (kept k le lt').2, ?_, ?_⟩, fun k le lt' => (kept k le lt').1⟩
    · rcases before with rfl | before
      · exact Or.inl rfl
      · refine Or.inr (Bool.eq_false_iff.2 fun ident => ?_)
        -- the position before is blanked, by a range that would end inside an identifier of `t`
        obtain ⟨r, mem, start, stop⟩ := inRanges_of_blanked ident before
        have first := kept i (Nat.le_refl i) lt
        have ends : r.2 = i := by
          by_contra ne
          exact first.1 ⟨r, mem, by omega, by omega⟩
        subst ends
        exact not_cut_of_idents first.2 ident (safe r mem (by omega)).2
    · refine Bool.eq_false_iff.2 fun ident => ?_
      -- the position after is blanked, by a range that would start inside an identifier of `t`
      obtain ⟨r, mem, start, stop⟩ := inRanges_of_blanked ident after
      have last := kept (j - 1) (by omega) (by omega)
      have starts : r.1 = j := by
        by_contra ne
        exact last.1 ⟨r, mem, by omega, by omega⟩
      subst starts
      exact not_cut_of_idents ident last.2 (safe r mem (by omega)).1
  · rintro ⟨⟨lt, idents, before, after⟩, uncovered⟩
    refine ⟨lt, fun k le lt' => (identAt_blankRanges_iff R t k).2 ⟨uncovered k le lt', idents k le lt'⟩,
      ?_, identAt_blankRanges_of_false after⟩
    rcases before with rfl | before
    · exact Or.inl rfl
    · exact Or.inr (identAt_blankRanges_of_false before)

theorem IdentSpan.inRanges_or {R : List (Nat × Nat)} {t : Text} (safe : Safe R t) {i j : Nat}
    (span : IdentSpan t i j) :
    (∀ k, i ≤ k → k < j → InRanges R k) ∨ ∀ k, i ≤ k → k < j → ¬ InRanges R k := by
  by_cases meets : ∃ k, i ≤ k ∧ k < j ∧ InRanges R k
  · obtain ⟨k, le, lt, r, mem, start, stop⟩ := meets
    obtain ⟨cutStart, cutStop⟩ := safe r mem (by omega)
    have idents := span.2.1
    have starts : r.1 ≤ i := by
      by_contra later
      exact not_cut_of_idents (idents r.1 (by omega) (by omega)) (idents (r.1 - 1) (by omega) (by omega))
        cutStart
    have stops : j ≤ r.2 := by
      by_contra earlier
      exact not_cut_of_idents (idents r.2 (by omega) (by omega)) (idents (r.2 - 1) (by omega) (by omega))
        cutStop
    exact Or.inl fun k' le' lt' => ⟨r, mem, by omega, by omega⟩
  · exact Or.inr fun k le lt covered => meets ⟨k, le, lt, covered⟩

/-! ## Masking a statement -/

theorem Fenced.fits {t : Text} {r : Nat × Nat} (fenced : Fenced t r) : r.1 ≤ r.2 ∧ r.2 ≤ t.length :=
  ⟨fenced.nonempty.le, fenced.within⟩

theorem Fenced.cuts {t : Text} {r : Nat × Nat} (fenced : Fenced t r) : Cut t r.1 ∧ Cut t r.2 :=
  ⟨Or.inr ⟨fenced.positive, fenced.before⟩, fenced.after⟩

theorem safe_of_fenced {R : List (Nat × Nat)} {t : Text} (fenced : ∀ r ∈ R, Fenced t r) : Safe R t :=
  fun r mem _ => (fenced r mem).cuts

theorem fenced_matchRanges {m : Text → Option ((Nat × Nat) × Nat)} {t s : Text}
    (fenced : ∀ pos r n, m (t.drop pos) = some (r, n) → Fenced s (pos + r.1, pos + r.2)) :
    ∀ r ∈ matchRanges m t, Fenced s r := by
  intro r mem
  obtain ⟨p, memP, rfl⟩ := List.mem_map.1 mem
  obtain ⟨n, hit⟩ := mem_allMatches memP
  exact fenced _ _ _ hit

theorem fenced_pipeRanges (t : Text) : ∀ r ∈ matchRanges pipeLabelAt t, Fenced t r :=
  fenced_matchRanges fun _ _ _ hit => (pipeLabel_of_pipeLabelAt hit).1.fenced.of_drop

theorem fenced_inlineRanges (R : List (Nat × Nat)) (t : Text) :
    ∀ r ∈ matchRanges inlineLabelAt (blankRanges R t), Fenced t r :=
  fenced_matchRanges fun _ _ _ hit => fenced_of_inlineLabelAt hit

theorem pipeLabelAt_length_pos (u : Text) (r : Nat × Nat) (n : Nat) (h : pipeLabelAt u = some (r, n)) :
    0 < n := by
  obtain ⟨⟨arrow, -, gap, inner, rest, -, -, -, -, stop⟩, rfl⟩ := pipeLabel_of_pipeLabelAt h
  omega

theorem inlineLabelAt_length_pos (u : Text) (r : Nat × Nat) (n : Nat) (h : inlineLabelAt u = some (r, n)) :
    0 < n := by
  obtain ⟨-, -, -, -, -, -, -, -, -, -, -, ends⟩ := inlineLabelAt_eq_some h
  omega

/-- Masking the labels of a statement. Let `pipes` be the pipe labels found scanning the statement
from the left, `piped` the statement with their bar-to-bar spans blanked, `inlines` the
inline-labelled edges found scanning `piped`, and `spans` those bar-to-bar spans and the labels of
those edges.

Masking keeps the length of the statement and every character outside the spans, and blanks every
character inside them. Each pipe label found is an arrow, blanks, and a text between two bars, and
every pipe label written in the statement lies within one found; each inline label found stands
between the two dashes of its edge. Every span is fenced: the character before it is no identifier
character and no identifier runs across its end. Blanking the spans one after another, each by a
rewrite of the whole text, with all the spans of a scan computed before its first rewrite, gives the
same text. So every identifier of the statement lies within the spans or outside all of them, and
the identifiers of the masked statement are exactly those of the statement outside the spans. -/
theorem maskLabels_blanksLabels (stmt : Text) :
    let pipes := allMatches pipeLabelAt stmt
    let pipeSpans := pipes.map fun p => (p.1 + p.2.1, p.1 + p.2.2)
    let piped := blankRanges pipeSpans stmt
    let inlines := allMatches inlineLabelAt piped
    let inlineSpans := inlines.map fun p => (p.1 + p.2.1, p.1 + p.2.2)
    let spans := pipeSpans ++ inlineSpans
    ((maskLabels stmt).length = stmt.length ∧
      ∀ i (h : i < stmt.length),
        (maskLabels stmt)[i]? = some (if InRanges spans i then CodePoint.ofChar ' ' else stmt[i])) ∧
    (Leftmost pipeLabelAt stmt 0 pipes ∧ (∀ p ∈ pipes, PipeLabel (stmt.drop p.1) p.2.1 p.2.2) ∧
      ∀ q start stop, PipeLabel (stmt.drop q) start stop → ∃ p ∈ pipes, p.1 ≤ q ∧ q < p.1 + p.2.2) ∧
    (Leftmost inlineLabelAt piped 0 inlines ∧
      ∀ p ∈ inlines, ∃ l, inlineLink? (piped.drop p.1) = some l ∧ ∃ y d e z,
        piped.drop p.1 = y ++ d :: (l.rawLabel ++ e :: z) ∧ d ∈ dashes ∧ e ∈ dashes ∧
        p.2 = (y.length + 1, y.length + 1 + l.rawLabel.length)) ∧
    (∀ r ∈ spans, Fenced stmt r) ∧
    (piped = pipeSpans.foldl spliceBlanks stmt ∧ maskLabels stmt = inlineSpans.foldl spliceBlanks piped) ∧
    (∀ i j, IdentSpan stmt i j →
      (∀ k, i ≤ k → k < j → InRanges spans k) ∨ ∀ k, i ≤ k → k < j → ¬ InRanges spans k) ∧
    ∀ i j, IdentSpan (maskLabels stmt) i j ↔
      IdentSpan stmt i j ∧ ∀ k, i ≤ k → k < j → ¬ InRanges spans k := by
  intro pipes pipeSpans piped inlines inlineSpans spans
  have masked : maskLabels stmt = blankRanges spans stmt := by
    rw [blankRanges_append]
    rfl
  have pipeFenced : ∀ r ∈ pipeSpans, Fenced stmt r := fenced_pipeRanges stmt
  have inlineFenced : ∀ r ∈ inlineSpans, Fenced stmt r := fenced_inlineRanges pipeSpans stmt
  have fenced : ∀ r ∈ spans, Fenced stmt r := by
    intro r mem
    rcases List.mem_append.1 mem with pipe | inline
    · exact pipeFenced r pipe
    · exact inlineFenced r inline
  have safe : Safe spans stmt := safe_of_fenced fenced
  have pipesFound := leftmost_allMatches pipeLabelAt_length_pos stmt
  refine ⟨⟨length_maskLabels stmt, fun i h => ?_⟩, ⟨pipesFound, fun p mem => ?_, fun q start stop label => ?_⟩,
    ⟨leftmost_allMatches inlineLabelAt_length_pos piped, fun p mem => ?_⟩, fenced, ⟨?_, ?_⟩,
    fun i j span => span.inRanges_or safe, fun i j => masked ▸ identSpan_blankRanges_iff safe i j⟩
  · rw [masked, getElem?_blankRanges, List.getElem?_eq_getElem h, Option.map_some]
  · obtain ⟨n, hit⟩ := mem_allMatches mem
    exact (pipeLabel_of_pipeLabelAt hit).1
  · -- a pipe label written at `q` is a match there, so it lies within a match found
    have hit := pipeLabelAt_of_pipeLabel label
    have within : q < stmt.length := by
      obtain ⟨-, nonempty, fits, -, -⟩ := label.fenced
      rw [List.length_drop] at fits
      simp only at nonempty fits
      omega
    obtain ⟨p, memP, n, found, before, inside⟩ :=
      pipesFound.covered q (Nat.zero_le q) within (by rw [hit]; rfl)
    obtain ⟨-, rfl⟩ := pipeLabel_of_pipeLabelAt found
    exact ⟨p, memP, before, inside⟩
  · obtain ⟨n, hit⟩ := mem_allMatches mem
    obtain ⟨l, found, y, d, e, z, split, hd, he, -, range, -⟩ := inlineLabelAt_eq_some hit
    exact ⟨l, found, y, d, e, z, split, hd, he, range⟩
  · exact (foldl_spliceBlanks pipeSpans stmt fun r mem => (pipeFenced r mem).fits).symm
  · -- the inline spans are read off the piped statement, which has the statement's length
    refine (foldl_spliceBlanks inlineSpans piped fun r mem => ?_).symm
    rw [length_blankRanges]
    exact (inlineFenced r mem).fits

end Syntax

end Flowchart
