import Flowchart.Proofs.Cutting

/-! # Where labels and declarations are found

A scan passes over a stretch where its matcher fails at every position
(`Flowchart.Syntax.scanFrom_append_none`) and reports a match that covers a stretch at its start,
then goes on after it (`Flowchart.Syntax.scanFrom_append_some`).

What each reader needs to succeed: a pipe label starts on a dash and holds a bar
(`Flowchart.Syntax.pipeLabelAt_eq_some`), and so does a pipe-labelled edge. An inline-labelled edge
has a character that may start a label standing right after one dash and before another
(`Flowchart.Syntax.inlineLink?_split`); so where all dashes of a text stand in one arrow, whose
characters cannot start a label, no inline label is found (`Flowchart.Syntax.inlineLink?_eq_none`).
Here a dash is any of `- . =`. -/

set_option autoImplicit false

namespace Flowchart

namespace Text

theorem dropPrefix?_append (p t : Text) : dropPrefix? p (p ++ t) = some t := by
  induction p with
  | nil => rfl
  | cons c p ih => simp [dropPrefix?, ih]

end Text

namespace Syntax

open Text

variable {α : Type}

/-! ## Scans -/

theorem scanFrom_skip (m : Text → Option (α × Nat)) (pos : Nat) (x y : Text) :
    scanFrom m pos x.length (x ++ y) = scanFrom m (pos + x.length) 0 y := by
  induction x generalizing pos with
  | nil => rfl
  | cons c x ih =>
      simp only [List.cons_append, List.length_cons, scanFrom]
      rw [ih]
      congr 1
      omega

/-- A scan passes over a stretch where its matcher fails at every position. -/
theorem scanFrom_append_none {m : Text → Option (α × Nat)} (pos : Nat) {x : Text} (y : Text)
    (fails : ∀ u, u <:+ x → u ≠ [] → m (u ++ y) = none) :
    scanFrom m pos 0 (x ++ y) = scanFrom m (pos + x.length) 0 y := by
  induction x generalizing pos with
  | nil => rfl
  | cons c x ih =>
      have here := fails (c :: x) List.suffix_rfl (List.cons_ne_nil c x)
      rw [List.cons_append] at here ⊢
      simp only [scanFrom, here]
      rw [ih (pos + 1) fun u suffix ne => fails u (suffix.trans (List.suffix_cons c x)) ne]
      simp only [List.length_cons]
      congr 1
      omega

/-- A match that covers a stretch is reported at its start, and the scan goes on after it. -/
theorem scanFrom_append_some {m : Text → Option (α × Nat)} {a : α} (pos : Nat) {x : Text} (y : Text)
    (ne : x ≠ []) (hit : m (x ++ y) = some (a, x.length)) :
    scanFrom m pos 0 (x ++ y) = (pos, a) :: scanFrom m (pos + x.length) 0 y := by
  obtain ⟨c, x, rfl⟩ := List.exists_cons_of_ne_nil ne
  rw [List.cons_append] at hit ⊢
  simp only [scanFrom, hit, List.length_cons, Nat.add_sub_cancel]
  rw [scanFrom_skip]
  congr 2
  omega

theorem scanFrom_eq_nil {m : Text → Option (α × Nat)} (pos : Nat) {x : Text}
    (fails : ∀ u, u <:+ x → u ≠ [] → m u = none) : scanFrom m pos 0 x = [] := by
  have whole := scanFrom_append_none (m := m) pos [] fun u suffix ne => by
    rw [List.append_nil]
    exact fails u suffix ne
  rw [List.append_nil] at whole
  rw [whole]
  rfl

theorem firstMatch_eq_none {m : Text → Option α} {t : Text} (fails : ∀ u, u <:+ t → m u = none) :
    firstMatch m t = none := by
  induction t with
  | nil => exact fails [] List.suffix_rfl
  | cons c t ih =>
      rw [firstMatch_cons, fails _ List.suffix_rfl, Option.orElse_none,
        ih fun u suffix => fails u (suffix.trans (List.suffix_cons c t))]

theorem firstMatch_of_eq_some {m : Text → Option α} {t : Text} {a : α} (hit : m t = some a) :
    firstMatch m t = some a := by
  cases t with
  | nil => exact hit
  | cons c t => rw [firstMatch_cons, hit, Option.orElse_some]

theorem blankRanges_nil (t : Text) : blankRanges [] t = t := by
  apply List.ext_getElem <;> simp [blankRanges]

theorem blankRanges_middle (x y z : Text) :
    blankRanges [(x.length, x.length + y.length)] (x ++ y ++ z) = x ++ blanks y.length ++ z := by
  apply List.ext_getElem
  · simp [length_blankRanges, blanks]
  · intro i inMasked inResult
    simp only [blankRanges, List.getElem_mapIdx, List.any_cons, List.any_nil, Bool.or_false,
      Bool.and_eq_true, decide_eq_true_eq, blanks, List.getElem_append, List.length_append,
      List.length_replicate, List.getElem_replicate]
    split_ifs <;> first | rfl | omega

/-! ## What a match needs -/

/-- The characters arrows and the openers and closers of inline labels are made of. -/
def dashes : Text := Text.ofString "-.="

theorem arrows_head : ∀ a ∈ arrows, ∀ c ∈ (Text.ofString a).head?, c ∈ dashes := by
  decide

theorem labelOpeners_last_dash : ∀ a ∈ labelOpeners, ∀ c ∈ (Text.ofString a).getLast?, c ∈ dashes := by
  decide

theorem labelClosers_head_dash : ∀ a ∈ labelClosers, ∀ c ∈ (Text.ofString a).head?, c ∈ dashes := by
  decide

theorem mem_of_mem_skipBlanks {c : CodePoint} {t : Text} (mem : c ∈ skipBlanks t) : c ∈ t :=
  (List.dropWhile_suffix _).mem mem

theorem pipeLabelAt_eq_some {u : Text} {r : (Nat × Nat) × Nat} (h : pipeLabelAt u = some r) :
    (∃ c v, u = c :: v ∧ c ∈ dashes) ∧ CodePoint.ofChar '|' ∈ u := by
  obtain ⟨⟨arrow, rest⟩, mem, hit⟩ := List.exists_of_findSome?_eq_some h
  obtain ⟨s, memS, rfl, split⟩ := eq_of_mem_arrowsAt mem
  refine ⟨?_, ?_⟩
  · obtain ⟨c, v, eq⟩ := List.exists_cons_of_ne_nil (arrows_ne s memS)
    exact ⟨c, v ++ rest, by rw [split, eq]; rfl, arrows_head s memS c (by rw [eq]; rfl)⟩
  · simp only at hit
    split at hit
    · rename_i bar inner skipped
      split at hit
      · rename_i isBar
        rw [split]
        refine List.mem_append_right _ (mem_of_mem_skipBlanks ?_)
        rw [skipped, ← isBar]
        exact List.mem_cons_self
      · cases hit
    · cases hit

theorem bar_mem_of_pipeTail {v : Text} {r : Text × Text × Text × Text} (h : pipeTail v = some r) :
    CodePoint.ofChar '|' ∈ v := by
  obtain ⟨⟨arrow, rest⟩, mem, hit⟩ := List.exists_of_findSome?_eq_some h
  obtain ⟨s, -, -, split⟩ := eq_of_mem_arrowsAt mem
  simp only at hit
  split at hit
  · rename_i bar inner skipped
    split at hit
    · rename_i isBar
      refine mem_of_mem_skipBlanks ?_
      rw [split]
      refine List.mem_append_right _ (mem_of_mem_skipBlanks ?_)
      rw [skipped, ← isBar]
      exact List.mem_cons_self
    · cases hit
  · cases hit

theorem bar_mem_of_pipeLink? {u : Text} {l : LinkRead} (h : pipeLink? u = some l) :
    CodePoint.ofChar '|' ∈ u := by
  obtain ⟨⟨src, r⟩, found, -⟩ := Option.map_eq_some_iff.1 h
  obtain ⟨rest, v, ident, suffix, tail⟩ := withSource_eq_some found
  exact (suffix_of_ident? ident suffix).mem (bar_mem_of_pipeTail tail)

/-- An inline label starts, on a character that may start one, right after the dash that ends its
opener, and a dash starts its closer further on. -/
theorem inlineLink?_split {u : Text} {l : LinkRead} (h : inlineLink? u = some l) :
    ∃ U d x V e W, u = U ++ d :: x :: V ++ e :: W ∧ d ∈ dashes ∧ e ∈ dashes ∧
      startsInlineLabel x = true := by
  obtain ⟨⟨src, o, labelFrom, label, c, dst, r⟩, found, -⟩ := Option.map_eq_some_iff.1 h
  obtain ⟨rest, v, ident, suffix, tail⟩ := withSource_eq_some found
  obtain ⟨⟨s, mem, rfl, split⟩, x, y, z, rfl, -, starts, closed⟩ := inlineTail_eq_some tail
  obtain ⟨s', mem', rfl, after, rfl, -⟩ := closeAt_eq_some closed
  obtain ⟨U, d, opener, dash⟩ :=
    exists_last_of_getLast? (labelOpeners_ne s mem) (labelOpeners_last_dash s mem)
      (x :: y ++ (Text.ofString s' ++ after))
  obtain ⟨e, c', closer⟩ := List.exists_cons_of_ne_nil (labelClosers_ne s' mem')
  obtain ⟨w, rfl⟩ := suffix_of_ident? ident suffix
  refine ⟨w ++ v.takeWhile CodePoint.isBlank ++ U, d, x, y, e, c' ++ after, ?_, dash,
    labelClosers_head_dash s' mem' e (by rw [closer]; rfl), starts⟩
  conv_lhs => rw [skipBlanks_split v, split, opener, closer]
  simp

theorem mem_of_between_dashes {X A Y U V W : Text} {d e : CodePoint}
    (outside : ∀ c ∈ X ++ Y, c ∉ dashes) (split : X ++ (A ++ Y) = U ++ d :: V ++ e :: W)
    (hd : d ∈ dashes) (he : e ∈ dashes) : ∀ c ∈ V, c ∈ A := by
  obtain ⟨P, inA⟩ : ∃ P, A ++ Y = P ++ d :: V ++ e :: W := by
    rw [List.append_assoc U] at split
    rcases List.append_eq_append_iff.1 split with ⟨P, -, eq⟩ | ⟨Q, eqX, eq⟩
    · exact ⟨P, by rw [eq]; simp⟩
    · rcases Q with _ | ⟨q, Q⟩
      · exact ⟨[], by simpa using eq.symm⟩
      · have : q ∈ X := by rw [eqX]; simp
        simp only [List.cons_append, List.cons.injEq] at eq
        exact absurd (eq.1 ▸ hd) (outside q (List.mem_append_left _ this))
  rcases List.append_eq_append_iff.1 inA with ⟨Q, -, eqY⟩ | ⟨Q, eqA, -⟩
  · have : e ∈ Y := by rw [eqY]; simp
    exact absurd he (outside e (List.mem_append_right _ this))
  · intro c mem
    rw [eqA]
    simp [mem]

/-- No inline label is found in a text whose dashes all stand in one stretch `A` of characters that
cannot start a label. -/
theorem inlineLink?_eq_none {X A Y u : Text} (outside : ∀ c ∈ X ++ Y, c ∉ dashes)
    (inert : ∀ c ∈ A, startsInlineLabel c = false) (suffix : u <:+ X ++ A ++ Y) :
    inlineLink? u = none := by
  cases found : inlineLink? u with
  | none => rfl
  | some l =>
      obtain ⟨U, d, x, V, e, W, rfl, hd, he, starts⟩ := inlineLink?_split found
      obtain ⟨Z, eq⟩ := suffix
      have between := mem_of_between_dashes (U := Z ++ U) (V := x :: V) (W := W) outside
        (by rw [← List.append_assoc, ← eq]; simp) hd he x List.mem_cons_self
      rw [inert x between] at starts
      cases starts

end Syntax

end Flowchart
