import Flowchart.Proofs.LabelledEdges

/-! # Where the direction comes from

A header is blanks, the keyword `graph` or `flowchart` in any case, at least one blank, a direction
token in any case, and after it no letter, digit or `_` (`Flowchart.Syntax.Header`). Blanks take in
line breaks, so a header may run over several lines. A source flows in the direction of the first
header that starts at the start of the source or right after a line feed, and top-down when there
is none (`Flowchart.Syntax.headerDirection_eq_iff`).

Only a line feed starts a line for the header. A carriage return alone ends a line of statements
but does not start one for the header, so a header after it is not seen; and a header may break
its line between keyword and token. Both give directions that differ from the first header line of
the source (`Flowchart.Syntax.headerDirection_lineFeedOnly`). -/

set_option autoImplicit false

namespace Flowchart

open Text

namespace CodePoint

theorem isAsciiLetter_of_toAsciiLower {c : CodePoint} (letter : c.toAsciiLower.isAsciiLetter = true) :
    c.isAsciiLetter = true := by
  unfold toAsciiLower at letter
  split at letter
  · rename_i upper
    simp only [isAsciiLetter, Bool.and_eq_true, decide_eq_true_eq, Bool.or_eq_true] at letter upper ⊢
    omega
  · exact letter

theorem isAsciiLetter_of_toAsciiUpper {c : CodePoint} (letter : c.toAsciiUpper.isAsciiLetter = true) :
    c.isAsciiLetter = true := by
  unfold toAsciiUpper at letter
  split at letter
  · rename_i lower
    simp only [isAsciiLetter, Bool.and_eq_true, decide_eq_true_eq, Bool.or_eq_true] at letter lower ⊢
    omega
  · exact letter

theorem isBlank_eq_false_of_isAsciiLetter {c : CodePoint} (letter : c.isAsciiLetter = true) :
    c.isBlank = false :=
  isBlank_eq_false_of_isIdent (by simp [isIdent, letter])

end CodePoint

namespace Syntax

theorem head_solid_of_recased {f : CodePoint → CodePoint}
    (keeps : ∀ c, (f c).isAsciiLetter = true → c.isAsciiLetter = true) {u w : Text} (spelt : u.map f = w)
    (start : ∃ c ∈ w.head?, c.isAsciiLetter = true) : u ≠ [] ∧ ∀ c ∈ u.head?, c.isBlank = false := by
  obtain ⟨c, first, letter⟩ := start
  cases u with
  | nil =>
      subst spelt
      simp at first
  | cons x u =>
      subst spelt
      simp only [List.map_cons, List.head?_cons, Option.mem_def, Option.some.injEq] at first
      subst first
      refine ⟨List.cons_ne_nil x u, fun y mem => ?_⟩
      simp only [List.head?_cons, Option.mem_def, Option.some.injEq] at mem
      subst mem
      exact CodePoint.isBlank_eq_false_of_isAsciiLetter (keeps _ letter)

theorem skipBlanks_append_of_blanks {lead : Text} (blanks : ∀ c ∈ lead, c.isBlank = true) (u : Text) :
    skipBlanks (lead ++ u) = skipBlanks u := by
  induction lead with
  | nil => rfl
  | cons c lead ih =>
      rw [List.cons_append, skipBlanks, List.dropWhile_cons_of_pos (blanks c List.mem_cons_self)]
      exact ih fun d mem => blanks d (List.mem_cons_of_mem c mem)

theorem blanks_takeWhile (t : Text) : ∀ c ∈ t.takeWhile CodePoint.isBlank, c.isBlank = true :=
  fun _ mem => List.mem_takeWhile_imp mem

/-! ## Keywords and tokens -/

theorem keyword?_eq_some_iff (word : String) (t rest : Text) :
    keyword? word t = some rest ↔ ∃ kw, t = kw ++ rest ∧ kw.toAsciiLower = ofString word := by
  unfold keyword?
  dsimp only
  constructor
  · intro found
    split at found
    · rename_i spelt
      cases found
      exact ⟨_, (List.take_append_drop _ t).symm, spelt⟩
    · cases found
  · rintro ⟨kw, rfl, spelt⟩
    have len : kw.length = (ofString word).length := by rw [← spelt]; simp [toAsciiLower]
    rw [← len, List.take_left, if_pos spelt, List.drop_left]

theorem ofToken?_eq_some_iff (t : Text) (d : Direction) : Direction.ofToken? t = some d ↔ t = d.tokenText := by
  constructor
  · intro found
    unfold Direction.ofToken? at found
    rw [List.find?_eq_some_iff_append] at found
    exact (of_decide_eq_true found.1).symm
  · rintro rfl
    exact Direction.ofToken?_tokenText d

theorem tokenText_start (d : Direction) : ∃ c ∈ d.tokenText.head?, c.isAsciiLetter = true := by
  cases d <;> exact ⟨_, rfl, by decide⟩

theorem length_tokenText (d : Direction) : d.tokenText.length = 2 := by
  cases d <;> rfl

/-- The keywords of a header. -/
def headerKeywords : List Text := [ofString "graph", ofString "flowchart"]

theorem headerKeywords_start : ∀ w ∈ headerKeywords, ∃ c ∈ w.head?, c.isAsciiLetter = true := by
  decide

/-! ## A header at the start of a text -/

/-- `t` starts with a header that declares `d`: blanks, line breaks among them; the keyword `graph`
or `flowchart` in any case; at least one blank; the token of `d` in any case; and after it no letter,
digit or `_`. -/
inductive Header : Text → Direction → Prop
  | intro {lead keyword gap token rest : Text} {d : Direction} :
      (∀ c ∈ lead, c.isBlank = true) → keyword.toAsciiLower ∈ headerKeywords →
      gap ≠ [] → (∀ c ∈ gap, c.isBlank = true) → token.toAsciiUpper = d.tokenText →
      (∀ c ∈ rest.head?, c.isWord = false) → Header (lead ++ keyword ++ gap ++ token ++ rest) d

theorem keyword?_graph_of_flowchart {kw : Text} (spelt : kw.toAsciiLower = ofString "flowchart")
    (rest : Text) : keyword? "graph" (kw ++ rest) = none := by
  have len : kw.length = 9 := by
    have spelt := congrArg List.length spelt
    simp only [toAsciiLower, List.length_map] at spelt
    exact spelt.trans (by decide)
  unfold keyword?
  dsimp only
  rw [if_neg]
  rw [show (ofString "graph").length = 5 from rfl, List.take_append_of_le_length (by omega),
    toAsciiLower, List.map_take]
  change (kw.toAsciiLower).take 5 ≠ _
  rw [spelt]
  decide

theorem header_of_headerAt {t : Text} {d : Direction} (h : headerAt t = some d) : Header t d := by
  unfold headerAt at h
  simp only [Option.bind_eq_bind, Option.bind_eq_some_iff] at h
  obtain ⟨rest, keyword, after⟩ := h
  obtain ⟨kw, split, spelt⟩ : ∃ kw, skipBlanks t = kw ++ rest ∧ kw.toAsciiLower ∈ headerKeywords := by
    cases graph : keyword? "graph" (skipBlanks t) with
    | some r =>
        rw [graph, Option.orElse_some, Option.some.injEq] at keyword
        subst keyword
        obtain ⟨kw, split, spelt⟩ := (keyword?_eq_some_iff _ _ _).1 graph
        exact ⟨kw, split, by simp [headerKeywords, spelt]⟩
    | none =>
        rw [graph, Option.orElse_none] at keyword
        obtain ⟨kw, split, spelt⟩ := (keyword?_eq_some_iff _ _ _).1 keyword
        exact ⟨kw, split, by simp [headerKeywords, spelt]⟩
  split at after
  · rename_i c more
    split at after
    · rename_i blank
      simp only [Option.bind_eq_some_iff] at after
      obtain ⟨d', token, tail⟩ := after
      have upper := (ofToken?_eq_some_iff _ _).1 token
      have stop : d' = d ∧ ∀ x ∈ ((skipBlanks (c :: more)).drop 2).head?, x.isWord = false := by
        split at tail
        · rename_i x xs next
          split at tail
          · cases tail
          · rename_i notWord
            cases tail
            refine ⟨rfl, ?_⟩
            rw [next]
            simpa using notWord
        · rename_i next
          cases tail
          exact ⟨rfl, by rw [next]; simp⟩
      obtain ⟨rfl, stop⟩ := stop
      have whole : t = t.takeWhile CodePoint.isBlank ++ kw ++ (c :: more).takeWhile CodePoint.isBlank ++
          (skipBlanks (c :: more)).take 2 ++ (skipBlanks (c :: more)).drop 2 := by
        have front := skipBlanks_split t
        rw [split] at front
        have gap := skipBlanks_split (c :: more)
        rw [← List.take_append_drop 2 (skipBlanks (c :: more))] at gap
        simp only [List.append_assoc]
        rw [← gap]
        exact front
      rw [whole]
      refine Header.intro (blanks_takeWhile t) spelt ?_ (blanks_takeWhile _) upper stop
      simp [blank]
    · cases after
  · cases after

theorem headerAt_of_header {t : Text} {d : Direction} (h : Header t d) : headerAt t = some d := by
  obtain ⟨blanks, spelt, gapNe, gapBlanks, upper, stop⟩ := h
  rename_i lead kw gap token rest
  -- neither the keyword nor the token starts with a blank
  have kwSolid := head_solid_of_recased (fun _ => CodePoint.isAsciiLetter_of_toAsciiLower)
    (rfl : kw.map CodePoint.toAsciiLower = kw.toAsciiLower) (headerKeywords_start _ spelt)
  have tokenSolid := head_solid_of_recased (fun _ => CodePoint.isAsciiLetter_of_toAsciiUpper) upper
    (tokenText_start d)
  have skipLead : skipBlanks (lead ++ kw ++ gap ++ token ++ rest) = kw ++ (gap ++ token ++ rest) := by
    simp only [List.append_assoc]
    rw [skipBlanks_append_of_blanks blanks, skipBlanks_append_of_head kwSolid.1 kwSolid.2]
  have keyword : ((keyword? "graph" (kw ++ (gap ++ token ++ rest))).orElse fun _ =>
      keyword? "flowchart" (kw ++ (gap ++ token ++ rest))) = some (gap ++ token ++ rest) := by
    simp only [headerKeywords, List.mem_cons, List.not_mem_nil, or_false] at spelt
    rcases spelt with graph | flowchart
    · rw [(keyword?_eq_some_iff _ _ _).2 ⟨kw, rfl, graph⟩, Option.orElse_some]
    · rw [keyword?_graph_of_flowchart flowchart, Option.orElse_none,
        (keyword?_eq_some_iff _ _ _).2 ⟨kw, rfl, flowchart⟩]
  have skipGap : skipBlanks (gap ++ token ++ rest) = token ++ rest := by
    rw [List.append_assoc, skipBlanks_append_of_blanks gapBlanks,
      skipBlanks_append_of_head tokenSolid.1 tokenSolid.2]
  have len : token.length = 2 := by
    rw [← length_tokenText d, ← upper]
    simp [toAsciiUpper]
  obtain ⟨g, more, rfl⟩ := List.exists_cons_of_ne_nil gapNe
  have blank : g.isBlank = true := gapBlanks g List.mem_cons_self
  unfold headerAt
  simp only [Option.bind_eq_bind]
  rw [skipLead, keyword, Option.bind_some]
  simp only [List.cons_append, blank, if_true]
  rw [← List.cons_append, ← List.cons_append, skipGap, List.take_left' len, upper,
    Direction.ofToken?_tokenText, Option.bind_some, List.drop_left' len]
  cases rest with
  | nil => rfl
  | cons x xs =>
      have notWord : x.isWord = false := stop x rfl
      simp [notWord]

theorem headerAt_eq_some_iff (t : Text) (d : Direction) : headerAt t = some d ↔ Header t d :=
  ⟨header_of_headerAt, headerAt_of_header⟩

/-! ## The first header of a source -/

/-- Position `p` of `t` starts a line for the header search: the start of `t` when `t` starts a
line, or right after a line feed. -/
def FeedStart (atLineStart : Bool) (t : Text) (p : Nat) : Prop :=
  p ≤ t.length ∧ ((p = 0 ∧ atLineStart = true) ∨ (0 < p ∧ t[p - 1]? = some (CodePoint.ofChar '\n')))

theorem feedStart_cons_succ (b : Bool) (c : CodePoint) (t : Text) (p : Nat) :
    FeedStart b (c :: t) (p + 1) ↔ FeedStart (c.val = 10) t p := by
  unfold FeedStart
  cases p with
  | zero =>
      have feed : c = CodePoint.ofChar '\n' ↔ c.val = 10 := by
        constructor
        · rintro rfl
          rfl
        · intro ten
          cases c
          simp only at ten
          subst ten
          rfl
      simp [feed]
  | succ p => simp

theorem feedStart_zero_cons (b : Bool) (c : CodePoint) (t : Text) :
    FeedStart b (c :: t) 0 ↔ b = true := by
  simp [FeedStart]

theorem headerAt_of_look {b : Bool} {c : CodePoint} {t : Text} {d : Direction}
    (here : (if b then headerAt (c :: t) else none) = some d) :
    FeedStart b (c :: t) 0 ∧ headerAt (c :: t) = some d := by
  cases b <;> simp_all [feedStart_zero_cons]

theorem headerAt_eq_none_of_look {b : Bool} {c : CodePoint} {t : Text}
    (here : (if b then headerAt (c :: t) else none) = none) :
    FeedStart b (c :: t) 0 → headerAt (c :: t) = none := by
  rw [feedStart_zero_cons]
  rintro rfl
  simpa using here

theorem headerFrom_eq_some_iff (b : Bool) (t : Text) (d : Direction) :
    headerFrom b t = some d ↔
      ∃ p, FeedStart b t p ∧ headerAt (t.drop p) = some d ∧
        ∀ q < p, FeedStart b t q → headerAt (t.drop q) = none := by
  induction t generalizing b with
  | nil =>
      cases b <;> simp [headerFrom, FeedStart]
  | cons c t ih =>
      rw [headerFrom]
      cases here : (if b then headerAt (c :: t) else none) with
      | some d₀ =>
          have start := headerAt_of_look here
          rw [Option.orElse_some, Option.some.injEq]
          constructor
          · rintro rfl
            exact ⟨0, start.1, start.2, fun q lt => absurd lt (Nat.not_lt_zero q)⟩
          · rintro ⟨p, feed, found, before⟩
            cases p with
            | zero =>
                rw [List.drop_zero, start.2, Option.some.injEq] at found
                exact found
            | succ p =>
                have first := before 0 (Nat.zero_lt_succ p) start.1
                rw [List.drop_zero, start.2] at first
                cases first
      | none =>
          have quiet := headerAt_eq_none_of_look here
          rw [Option.orElse_none, ih]
          constructor
          · rintro ⟨p, feed, found, before⟩
            refine ⟨p + 1, (feedStart_cons_succ b c t p).2 feed, found, fun q lt qFeed => ?_⟩
            cases q with
            | zero => exact quiet qFeed
            | succ q => exact before q (by omega) ((feedStart_cons_succ b c t q).1 qFeed)
          · rintro ⟨p, feed, found, before⟩
            cases p with
            | zero =>
                rw [List.drop_zero, quiet feed] at found
                cases found
            | succ p =>
                exact ⟨p, (feedStart_cons_succ b c t p).1 feed, found, fun q lt qFeed =>
                  before (q + 1) (by omega) ((feedStart_cons_succ b c t q).2 qFeed)⟩

theorem headerFrom_eq_none_iff (b : Bool) (t : Text) :
    headerFrom b t = none ↔ ∀ p, FeedStart b t p → headerAt (t.drop p) = none := by
  induction t generalizing b with
  | nil =>
      cases b <;> simp [headerFrom, FeedStart]
  | cons c t ih =>
      rw [headerFrom]
      cases here : (if b then headerAt (c :: t) else none) with
      | some d₀ =>
          have start := headerAt_of_look here
          simp only [Option.orElse_some, reduceCtorEq, false_iff, not_forall]
          exact ⟨0, start.1, by simp [start.2]⟩
      | none =>
          have quiet := headerAt_eq_none_of_look here
          rw [Option.orElse_none, ih]
          constructor
          · intro none p feed
            cases p with
            | zero => exact quiet feed
            | succ p => exact none p ((feedStart_cons_succ b c t p).1 feed)
          · intro none p feed
            exact none (p + 1) ((feedStart_cons_succ b c t p).2 feed)

/-- The direction of a source: that of the first header that starts at the start of the source
or right after a line feed, running over line breaks if it likes; top-down when no header starts
at such a place. -/
theorem headerDirection_eq_iff (src : Text) (d : Direction) :
    headerDirection src = d ↔
      (∃ p, FeedStart true src p ∧ Header (src.drop p) d ∧
        ∀ q < p, FeedStart true src q → ∀ d', ¬ Header (src.drop q) d') ∨
      (d = .td ∧ ∀ p, FeedStart true src p → ∀ d', ¬ Header (src.drop p) d') := by
  have none_iff : ∀ q, (headerAt (src.drop q) = none ↔ ∀ d', ¬ Header (src.drop q) d') := by
    intro q
    simp only [← headerAt_eq_some_iff]
    cases headerAt (src.drop q) <;> simp
  unfold headerDirection
  cases found : headerFrom true src with
  | some d₀ =>
      obtain ⟨p₀, feed₀, header₀, before₀⟩ := (headerFrom_eq_some_iff true src d₀).1 found
      rw [Option.getD_some]
      constructor
      · rintro rfl
        exact Or.inl ⟨p₀, feed₀, (headerAt_eq_some_iff _ _).1 header₀,
          fun q lt feed => (none_iff q).1 (before₀ q lt feed)⟩
      · rintro (⟨p, feed, header, before⟩ | ⟨-, none⟩)
        · -- two first headers stand at the same place, so they declare the same direction
          rcases Nat.lt_trichotomy p p₀ with lt | rfl | gt
          · exact absurd ((headerAt_eq_some_iff _ _).2 header) (by rw [before₀ p lt feed]; simp)
          · rw [(headerAt_eq_some_iff _ _).2 header, Option.some.injEq] at header₀
            exact header₀.symm
          · exact absurd ((headerAt_eq_some_iff _ _).1 header₀) (before p₀ gt feed₀ d₀)
        · exact absurd ((headerAt_eq_some_iff _ _).1 header₀) (none p₀ feed₀ d₀)
  | none =>
      have nowhere := (headerFrom_eq_none_iff true src).1 found
      rw [Option.getD_none]
      constructor
      · rintro rfl
        exact Or.inr ⟨rfl, fun p feed => (none_iff p).1 (nowhere p feed)⟩
      · rintro (⟨p, feed, header, -⟩ | ⟨rfl, -⟩)
        · exact absurd header ((none_iff p).1 (nowhere p feed) d)
        · rfl

/-- Only a line feed starts a line for the header. After a carriage return, which ends a line of
statements, a header is not seen; and a header may break its line between keyword and token. -/
theorem headerDirection_lineFeedOnly :
    lines (ofString "%% c\rgraph LR") = [ofString "%% c", ofString "graph LR"] ∧
      headerDirection (ofString "%% c\rgraph LR") = .td ∧
      headerDirection (ofString "%% c\ngraph LR") = .lr ∧
      headerDirection (ofString "graph\nLR-->B") = .lr := by
  refine ⟨?_, ?_, ?_, ?_⟩ <;> decide +kernel

end Syntax

end Flowchart
