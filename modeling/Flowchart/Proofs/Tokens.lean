import Flowchart.Proofs.Pieces

/-! # Identifier tokens

Where an identifier of a text starts and ends, and two ways of reading a text that keep identifiers
whole. A search from the left (`Flowchart.Syntax.firstMatch`) and a scan for matches
(`Flowchart.Syntax.allMatches`) start a match on an identifier only at its first character, when
the matcher extends to the left over identifier characters and its matches end on a character that
is none (`Flowchart.Syntax.scanFrom_whole`). Overwriting ranges of a text with blanks leaves every
identifier of the result an identifier of the text, when no range starts or ends inside an
identifier (`Flowchart.Text.IsIdentToken.of_blankRanges`). -/

set_option autoImplicit false

namespace Flowchart

namespace Text

/-- Whether the character at position `i` of `t` is an identifier character. -/
def identAt (t : Text) (i : Nat) : Bool := t[i]?.any CodePoint.isIdent

/-- No identifier of `t` runs across position `i`: the character there or the one before it is no
identifier character. -/
def Cut (t : Text) (i : Nat) : Prop := identAt t i = false ∨ (0 < i ∧ identAt t (i - 1) = false)

theorem identAt_drop (t : Text) (pos j : Nat) : identAt (t.drop pos) j = identAt t (pos + j) := by
  simp [identAt, List.getElem?_drop]

theorem identAt_length (y z : Text) (c : CodePoint) : identAt (y ++ c :: z) y.length = c.isIdent := by
  simp [identAt]

theorem Cut.of_drop {t : Text} {pos j : Nat} (cut : Cut (t.drop pos) j) : Cut t (pos + j) := by
  rcases cut with here | ⟨positive, before⟩
  · exact Or.inl (by rwa [identAt_drop] at here)
  · refine Or.inr ⟨by omega, ?_⟩
    rw [identAt_drop] at before
    rwa [show pos + j - 1 = pos + (j - 1) by omega]

theorem cut_at {t y z : Text} {c : CodePoint} {i : Nat} (split : t = y ++ c :: z) (pos : i = y.length)
    (notIdent : c.isIdent = false) : Cut t i := by
  subst split pos
  exact Or.inl (by rw [identAt_length, notIdent])

theorem cut_after {t y z : Text} {c : CodePoint} {i : Nat} (split : t = y ++ c :: z)
    (pos : i = y.length + 1) (notIdent : c.isIdent = false) : Cut t i := by
  subst split pos
  exact Or.inr ⟨by omega, by rw [Nat.add_sub_cancel, identAt_length, notIdent]⟩

/-- `p` stands in `t` at position `i`, with no identifier character right before or right after
it. -/
def BoundedAt (p t : Text) (i : Nat) : Prop :=
  (∀ k < p.length, t[i + k]? = p[k]?) ∧ i + p.length ≤ t.length ∧
    (i = 0 ∨ identAt t (i - 1) = false) ∧ identAt t (i + p.length) = false

theorem Bounded.exists_boundedAt {p t : Text} (h : Bounded p t) : ∃ i, BoundedAt p t i := by
  obtain ⟨pre, post, rfl, before, after⟩ := h
  refine ⟨pre.length, ?_, by simp, ?_, ?_⟩
  · intro k lt
    rw [List.append_assoc, List.getElem?_append_right (by omega), Nat.add_sub_cancel_left,
      List.getElem?_append_left lt]
  · rcases List.eq_nil_or_concat pre with rfl | ⟨init, y, rfl⟩
    · exact Or.inl rfl
    · refine Or.inr ?_
      have last : y.isIdent = false := before y (by simp)
      simpa [identAt, List.getElem?_append_left] using last
  · rcases post with _ | ⟨y, rest⟩
    · simp [identAt]
    · have first : y.isIdent = false := after y (by simp)
      simpa [identAt] using first

theorem BoundedAt.bounded {p t : Text} {i : Nat} (h : BoundedAt p t i) : Bounded p t := by
  obtain ⟨chars, fits, before, after⟩ := h
  have piece : (t.drop i).take p.length = p := by
    apply List.ext_getElem?
    intro k
    by_cases lt : k < p.length
    · rw [List.getElem?_take_of_lt lt, List.getElem?_drop, chars k lt]
    · rw [List.getElem?_eq_none (by simp; omega), List.getElem?_eq_none (by omega)]
  refine ⟨t.take i, t.drop (i + p.length), ?_, ?_, ?_⟩
  · conv_lhs => rw [← List.take_append_drop i t, ← List.take_append_drop p.length (t.drop i)]
    rw [piece, List.drop_drop, List.append_assoc]
  · intro c mem
    rcases before with rfl | before
    · simp at mem
    · rcases Nat.eq_zero_or_pos i with rfl | positive
      · simp at mem
      rw [List.getLast?_eq_getElem?, List.length_take, Nat.min_eq_left (show i ≤ t.length by omega),
        List.getElem?_take_of_lt (show i - 1 < i by omega), Option.mem_def] at mem
      rw [identAt, mem] at before
      simpa using before
  · intro c mem
    rw [List.head?_drop, Option.mem_def] at mem
    rw [identAt, mem] at after
    simpa using after

/-! ## Blanking ranges -/

/-- No range of `R` that is not empty starts or ends inside an identifier of `t`. -/
def Safe (R : List (Nat × Nat)) (t : Text) : Prop := ∀ r ∈ R, r.1 < r.2 → Cut t r.1 ∧ Cut t r.2

theorem identAt_blankRanges (R : List (Nat × Nat)) (t : Text) (j : Nat) :
    identAt (Syntax.blankRanges R t) j = (!(R.any fun r => r.1 ≤ j && j < r.2) && identAt t j) := by
  simp only [identAt, Syntax.blankRanges, List.getElem?_mapIdx]
  cases t[j]? with
  | none => simp
  | some c =>
      by_cases covered : (R.any fun r => r.1 ≤ j && j < r.2) = true
      · simp only [covered, if_true, Option.map_some, Option.any_some]
        rfl
      · simp [covered]

theorem getElem?_blankRanges_of_identAt {R : List (Nat × Nat)} {t : Text} {j : Nat}
    (ident : identAt (Syntax.blankRanges R t) j = true) : (Syntax.blankRanges R t)[j]? = t[j]? := by
  rw [identAt_blankRanges, Bool.and_eq_true, Bool.not_eq_true'] at ident
  simp [Syntax.blankRanges, List.getElem?_mapIdx, ident.1]

theorem BoundedAt.of_blankRanges {R : List (Nat × Nat)} {p t : Text} {i : Nat} (safe : Safe R t)
    (idents : ∀ c ∈ p, c.isIdent = true) (ne : p ≠ [])
    (h : BoundedAt p (Syntax.blankRanges R t) i) : BoundedAt p t i := by
  obtain ⟨chars, fits, before, after⟩ := h
  have inside : ∀ k < p.length, identAt (Syntax.blankRanges R t) (i + k) = true := by
    intro k lt
    rw [identAt, chars k lt, List.getElem?_eq_getElem lt]
    simpa using idents _ (List.getElem_mem lt)
  have kept : ∀ k < p.length,
      (R.any fun r => r.1 ≤ i + k && i + k < r.2) = false ∧ identAt t (i + k) = true := by
    intro k lt
    have := inside k lt
    rw [identAt_blankRanges] at this
    simpa using this
  have positive : 0 < p.length := List.length_pos_of_ne_nil ne
  refine ⟨fun k lt => (getElem?_blankRanges_of_identAt (inside k lt)).symm.trans (chars k lt),
    by simpa [Syntax.length_blankRanges] using fits, ?_, ?_⟩
  · rcases before with rfl | before
    · exact Or.inl rfl
    · refine Or.inr ?_
      rw [identAt_blankRanges] at before
      by_cases covered : (R.any fun r => r.1 ≤ i - 1 && i - 1 < r.2) = true
      · -- the range covering `i - 1` must end at `i`, where an identifier character stands
        obtain ⟨r, mem, range⟩ := List.any_eq_true.1 covered
        have first := kept 0 positive
        rw [Nat.add_zero] at first
        have stop : r.2 ≤ i := by
          have := List.any_eq_false.1 first.1 r mem
          simp only [Bool.and_eq_true, decide_eq_true_eq] at range this
          omega
        have zero : i ≠ 0 := by
          intro zero
          subst zero
          simp only [Bool.and_eq_true, decide_eq_true_eq] at range
          omega
        simp only [Bool.and_eq_true, decide_eq_true_eq] at range
        obtain ⟨_, ends⟩ := safe r mem (by omega)
        rw [show r.2 = i by omega] at ends
        rcases ends with here | ⟨_, ends⟩
        · rw [first.2] at here
          cases here
        · exact ends
      · simpa [covered] using before
  · rw [identAt_blankRanges] at after
    by_cases covered : (R.any fun r => r.1 ≤ i + p.length && i + p.length < r.2) = true
    · -- the range covering the position after the identifier must start there
      obtain ⟨r, mem, range⟩ := List.any_eq_true.1 covered
      have last := kept (p.length - 1) (by omega)
      rw [show i + (p.length - 1) = i + p.length - 1 by omega] at last
      have start : i + p.length ≤ r.1 := by
        have := List.any_eq_false.1 last.1 r mem
        simp only [Bool.and_eq_true, decide_eq_true_eq] at range this
        omega
      simp only [Bool.and_eq_true, decide_eq_true_eq] at range
      obtain ⟨starts, _⟩ := safe r mem (by omega)
      rw [show r.1 = i + p.length by omega] at starts
      rcases starts with here | ⟨_, starts⟩
      · exact here
      · rw [last.2] at starts
        cases starts
    · simpa [covered] using after

/-- Blanking ranges that cut no identifier leaves every identifier of the result one of the
text. -/
theorem IsIdentToken.of_blankRanges {R : List (Nat × Nat)} {id t : Text} (safe : Safe R t)
    (token : IsIdentToken id (Syntax.blankRanges R t)) : IsIdentToken id t := by
  obtain ⟨ne, idents, bounded⟩ := token
  obtain ⟨i, at_i⟩ := bounded.exists_boundedAt
  exact ⟨ne, idents, (at_i.of_blankRanges safe idents ne).bounded⟩

end Text

namespace Syntax

open Text

variable {α : Type}

/-! ## Searching and scanning -/

theorem firstMatch_eq_some {m : Text → Option α} {t : Text} {a : α}
    (found : firstMatch m t = some a) :
    ∃ x suf, t = x ++ suf ∧ m suf = some a ∧ ∀ c ∈ x.getLast?, m (c :: suf) = none := by
  induction t with
  | nil => exact ⟨[], [], rfl, found, by simp⟩
  | cons c rest ih =>
      rw [firstMatch_cons] at found
      cases here : m (c :: rest) with
      | some b =>
          rw [here] at found
          exact ⟨[], c :: rest, rfl, by rw [here]; simpa using found, by simp⟩
      | none =>
          rw [here] at found
          obtain ⟨x, suf, rfl, hit, before⟩ := ih (by simpa using found)
          refine ⟨c :: x, suf, rfl, hit, ?_⟩
          rcases x with _ | ⟨d, x⟩
          · simpa using here
          · rwa [List.getLast?_cons_cons]

theorem mem_scanFrom {m : Text → Option (α × Nat)} :
    ∀ (u : Text) (pos skip : Nat), ∀ p ∈ scanFrom m pos skip u,
      ∃ x suf n, u = x ++ suf ∧ p.1 = pos + x.length ∧ m suf = some (p.2, n) := by
  intro u
  induction u with
  | nil => intro pos skip p mem; simp [scanFrom] at mem
  | cons c rest ih =>
      intro pos skip p mem
      have later : ∀ k, p ∈ scanFrom m (pos + 1) k rest →
          ∃ x suf n, c :: rest = x ++ suf ∧ p.1 = pos + x.length ∧ m suf = some (p.2, n) := by
        intro k mem
        obtain ⟨x, suf, n, rfl, at_p, hit⟩ := ih (pos + 1) k p mem
        exact ⟨c :: x, suf, n, rfl, by simp [at_p]; omega, hit⟩
      cases skip with
      | succ k => exact later k mem
      | zero =>
          simp only [scanFrom] at mem
          split at mem
          · rename_i a len here
            rcases List.mem_cons.1 mem with rfl | mem
            · exact ⟨[], c :: rest, len, rfl, by simp, here⟩
            · exact later _ mem
          · exact later 0 mem

theorem mem_allMatches {m : Text → Option (α × Nat)} {t : Text} {p : Nat × α}
    (mem : p ∈ allMatches m t) : ∃ n, m (t.drop p.1) = some (p.2, n) := by
  obtain ⟨x, suf, n, rfl, at_p, hit⟩ := mem_scanFrom t 0 0 p mem
  exact ⟨n, by simpa [at_p] using hit⟩

theorem safe_matchRanges {m : Text → Option ((Nat × Nat) × Nat)} {t : Text}
    (cuts : ∀ u r n, m u = some (r, n) → r.1 < r.2 → Cut u r.1 ∧ Cut u r.2) :
    Safe (matchRanges m t) t := by
  intro r mem nonempty
  obtain ⟨⟨pos, r⟩, memP, rfl⟩ := List.mem_map.1 mem
  obtain ⟨n, hit⟩ := mem_allMatches memP
  obtain ⟨start, stop⟩ := cuts _ _ _ hit (by simp only at nonempty ⊢; omega)
  exact ⟨start.of_drop, stop.of_drop⟩

/-- A matcher that keeps identifiers whole: a match extends to the left over an identifier
character, and ends on a character that is no identifier character. -/
structure Whole (m : Text → Option (α × Nat)) : Prop where
  extend : ∀ c u, c.isIdent = true → (m u).isSome → (m (c :: u)).isSome
  closed : ∀ u a n, m u = some (a, n) →
    ∃ x c y, u = x ++ c :: y ∧ n = x.length + 1 ∧ c.isIdent = false

/-- Where a scan stands: with nothing left to skip, no match starts at the character before; while
skipping, the last character skipped is no identifier character. -/
def Ready (m : Text → Option (α × Nat)) (prev : Option CodePoint) (skip : Nat) (u : Text) : Prop :=
  (skip = 0 → ∀ c ∈ prev, c.isIdent = true → m (c :: u) = none) ∧
    (0 < skip → ∃ x c y, u = x ++ c :: y ∧ skip = x.length + 1 ∧ c.isIdent = false)

theorem Ready.next {m : Text → Option (α × Nat)} {prev : Option CodePoint} {c : CodePoint}
    {rest : Text} {k : Nat} (ready : Ready m prev (k + 1) (c :: rest)) : Ready m (some c) k rest := by
  obtain ⟨x, d, y, split, len, notIdent⟩ := ready.2 (by omega)
  rcases x with _ | ⟨e, x⟩
  · simp only [List.nil_append, List.cons.injEq] at split
    obtain ⟨rfl, rfl⟩ := split
    refine ⟨fun _ c mem ident => ?_, fun _ => by simp at len; omega⟩
    simp only [Option.mem_def, Option.some.injEq] at mem
    subst mem
    rw [notIdent] at ident
    cases ident
  · simp only [List.cons_append, List.cons.injEq] at split
    obtain ⟨rfl, rfl⟩ := split
    simp only [List.length_cons] at len
    exact ⟨fun zero => by omega, fun _ => ⟨x, d, y, rfl, by omega, notIdent⟩⟩

/-- A scan with a matcher that keeps identifiers whole finds matches only where no identifier
character stands right before. -/
theorem scanFrom_whole {m : Text → Option (α × Nat)} (whole : Whole m) :
    ∀ (u : Text) (pos skip : Nat) (prev : Option CodePoint), Ready m prev skip u →
      ∀ p ∈ scanFrom m pos skip u, ∃ x suf n, u = x ++ suf ∧ p.1 = pos + x.length ∧
        m suf = some (p.2, n) ∧ ∀ c ∈ (prev.toList ++ x).getLast?, c.isIdent = false := by
  intro u
  induction u with
  | nil => intro pos skip prev _ p mem; simp [scanFrom] at mem
  | cons c rest ih =>
      intro pos skip prev ready p mem
      have later : ∀ k, Ready m (some c) k rest → p ∈ scanFrom m (pos + 1) k rest →
          ∃ x suf n, c :: rest = x ++ suf ∧ p.1 = pos + x.length ∧ m suf = some (p.2, n) ∧
            ∀ d ∈ (prev.toList ++ x).getLast?, d.isIdent = false := by
        intro k ready' mem
        obtain ⟨x, suf, n, rfl, at_p, hit, before⟩ := ih (pos + 1) k (some c) ready' p mem
        refine ⟨c :: x, suf, n, rfl, by simp [at_p]; omega, hit, ?_⟩
        rw [List.getLast?_append_cons]
        simpa using before
      cases skip with
      | succ k => exact later k ready.next mem
      | zero =>
          simp only [scanFrom] at mem
          split at mem
          · rename_i a len here
            rcases List.mem_cons.1 mem with rfl | mem
            · refine ⟨[], c :: rest, len, rfl, by simp, here, ?_⟩
              intro d mem
              have last : d ∈ prev := by cases prev <;> simp_all
              cases ident : d.isIdent
              · rfl
              · have none := ready.1 rfl d last ident
                have some := whole.extend d (c :: rest) ident (by simp [here])
                rw [none] at some
                cases some
            · -- the match read `c` and the next `len - 1` characters
              refine later _ ⟨fun zero d mem ident => ?_, fun positive => ?_⟩ mem
              · obtain ⟨x, e, y, split, length, notIdent⟩ := whole.closed _ _ _ here
                simp only [Option.mem_def, Option.some.injEq] at mem
                subst mem
                rcases x with _ | ⟨f, x⟩
                · simp only [List.nil_append, List.cons.injEq] at split
                  rw [split.1, notIdent] at ident
                  cases ident
                · simp at length
                  omega
              · obtain ⟨x, e, y, split, length, notIdent⟩ := whole.closed _ _ _ here
                rcases x with _ | ⟨f, x⟩
                · simp at length
                  omega
                · simp only [List.cons_append, List.cons.injEq] at split
                  exact ⟨x, e, y, split.2, by simp at length; omega, notIdent⟩
          · rename_i here
            refine later 0 ⟨fun _ d mem _ => ?_, fun positive => by omega⟩ mem
            simp only [Option.mem_def, Option.some.injEq] at mem
            subst mem
            exact here

theorem mem_allMatches_whole {m : Text → Option (α × Nat)} (whole : Whole m) {t : Text}
    {p : Nat × α} (mem : p ∈ allMatches m t) :
    ∃ x suf n, t = x ++ suf ∧ m suf = some (p.2, n) ∧ ∀ c ∈ x.getLast?, c.isIdent = false := by
  obtain ⟨x, suf, n, split, -, hit, before⟩ :=
    scanFrom_whole whole t 0 0 none ⟨fun _ c mem => by simp at mem, fun positive => by omega⟩ p mem
  exact ⟨x, suf, n, split, hit, by simpa using before⟩

end Syntax

end Flowchart
