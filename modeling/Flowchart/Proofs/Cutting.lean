import Flowchart.Proofs.Reading

/-! # Sources that are one statement

A line break ends a line, and a semicolon ends a statement only outside double quotes, brackets and
pipe labels. So a source with no line break is one line (`Flowchart.Syntax.lines_of_unbroken`), and
a line whose cutter never cuts is one statement (`Flowchart.Syntax.statements_of_done`). Characters
other than semicolons, quotes, bars, brackets and `>` only extend the statement being read
(`Flowchart.Syntax.Cutter.step_plain`). A statement that starts with an identifier, followed by more than
the identifier, is read for nodes and an edge unless it starts with a reserved word standing alone
(`Flowchart.Syntax.read_eq_elements_of_unreserved`), so whenever the identifier is no reserved word
(`Flowchart.Syntax.read_eq_elements`). -/

set_option autoImplicit false

namespace Flowchart

namespace Syntax

open Text

/-! ## Lines -/

theorem linesFrom_of_unbroken (cur t : Text) (unbroken : ∀ c ∈ t, c.val ≠ 13 ∧ c.val ≠ 10) :
    linesFrom cur t = [cur.reverse ++ t] := by
  fun_induction linesFrom cur t with
  | case1 cur => simp
  | case2 cur c cr => exact absurd cr (unbroken c (by simp)).1
  | case3 cur c cr => exact absurd cr (unbroken c (by simp)).1
  | case4 cur c cr => exact absurd cr (unbroken c (by simp)).1
  | case5 cur c rest notCr lf => exact absurd lf (unbroken c (by simp)).2
  | case6 cur c rest notCr notLf ih =>
      rw [ih fun d mem => unbroken d (by simp [mem])]
      simp

/-- The characters that end a line. -/
def lineBreaks : Text := Text.ofString "\r\n"

theorem lines_of_unbroken {t : Text} (unbroken : ∀ c ∈ t, c ∉ lineBreaks) : lines t = [t] := by
  have values : ∀ c ∈ t, c.val ≠ 13 ∧ c.val ≠ 10 := by
    intro ⟨v⟩ mem
    constructor <;> rintro rfl <;> exact unbroken _ mem (by decide)
  simpa [lines] using linesFrom_of_unbroken [] t values

/-! ## Cutting a line -/

namespace Cutter

theorem foldl_invariant {P : Cutter → Prop} (t : Text) (keeps : ∀ s, ∀ c ∈ t, P s → P (s.step c)) :
    ∀ s, P s → P (t.foldl step s) := by
  induction t with
  | nil => intro s holds; exact holds
  | cons c rest ih =>
      intro s holds
      exact ih (fun s' d mem => keeps s' d (by simp [mem])) _ (keeps s c (by simp) holds)

theorem done_step (s : Cutter) {c : CodePoint} (notCut : c ≠ CodePoint.ofChar ';') :
    (s.step c).done = s.done := by
  unfold step
  rw [if_neg fun cut => notCut cut.1]
  dsimp only
  split_ifs <;> rfl

theorem done_step_of_inPipe {s : Cutter} (c : CodePoint) (inPipe : s.inPipe = true) :
    (s.step c).done = s.done := by
  unfold step
  rw [if_neg fun cut => by simp [inPipe] at cut]
  dsimp only
  split_ifs <;> rfl

theorem inPipe_step (s : Cutter) {c : CodePoint} (notBar : c ≠ CodePoint.ofChar '|') :
    (s.step c).inPipe = s.inPipe := by
  unfold step
  split
  · rfl
  · simp only
    split_ifs <;> simp_all

/-- The characters that do more than extend the statement being read. -/
def special : Text :=
  [CodePoint.ofChar ';', CodePoint.ofChar '"', CodePoint.ofChar '|', CodePoint.ofChar '[',
   CodePoint.ofChar '(', CodePoint.ofChar '\x7b', CodePoint.ofChar ']', CodePoint.ofChar ')',
   CodePoint.ofChar '\x7d', CodePoint.ofChar '>']

theorem step_plain (s : Cutter) {c : CodePoint} (plain : c ∉ special) :
    s.step c = { s with buf := c :: s.buf, prev := if c.isBlank then s.prev else some c } := by
  simp only [special, List.mem_cons, List.not_mem_nil, or_false, not_or] at plain
  obtain ⟨notCut, notQuote, notBar, notSquare, notRound, notCurly, closeSquare, closeRound,
    closeCurly, notGt⟩ := plain
  unfold step
  rw [if_neg fun cut => notCut cut.1]
  have notOpen : opensBracket s.prev c = false := by
    simp +decide [opensBracket, Text.ofString, notSquare, notRound, notCurly, notGt]
  have notClose : (Text.ofString "])\x7d").contains c = false := by
    simp +decide [Text.ofString, closeSquare, closeRound, closeCurly]
  split_ifs <;> simp_all

theorem foldl_plain (t : Text) (plain : ∀ c ∈ t, c ∉ special) (s : Cutter) :
    ∃ buf prev, t.foldl step s = { s with buf, prev } := by
  induction t generalizing s with
  | nil => exact ⟨s.buf, s.prev, rfl⟩
  | cons c t ih =>
      rw [List.foldl_cons, step_plain s (plain c List.mem_cons_self)]
      obtain ⟨buf, prev, eq⟩ := ih (fun d mem => plain d (List.mem_cons_of_mem c mem)) _
      exact ⟨buf, prev, eq⟩

theorem step_outside (s : Cutter) {c : CodePoint} (q : s.inQuotes = false) (p : s.inPipe = false)
    (quiet : c ∉ Text.ofString ";\"|") :
    s.step c = { s with
      depth := if opensBracket s.prev c then s.depth + 1
        else if (Text.ofString "])\x7d").contains c then s.depth - 1 else s.depth
      buf := c :: s.buf
      prev := if c.isBlank then s.prev else some c } := by
  simp only [Text.ofString] at quiet
  simp only [List.mem_map, not_exists, not_and] at quiet
  have notCut : c ≠ CodePoint.ofChar ';' := fun h => quiet ';' (by simp) h.symm
  have notQuote : c ≠ CodePoint.ofChar '"' := fun h => quiet '"' (by simp) h.symm
  have notBar : c ≠ CodePoint.ofChar '|' := fun h => quiet '|' (by simp) h.symm
  unfold step
  rw [if_neg fun cut => notCut cut.1]
  simp only [if_neg notQuote, q, p, Bool.false_eq_true, if_false, notBar, false_and]
  split_ifs <;> simp only [q, p]
theorem foldl_opening (t : Text) (opening : ∀ c ∈ t, c ∈ Text.ofString "[(\x7b>") (s : Cutter)
    (q : s.inQuotes = false) (p : s.inPipe = false) :
    ∃ depth ≤ s.depth + t.length, ∃ buf prev, t.foldl step s = { s with depth, buf, prev } := by
  induction t generalizing s with
  | nil => exact ⟨s.depth, le_refl _, s.buf, s.prev, rfl⟩
  | cons c t ih =>
      have one : ∃ depth ≤ s.depth + 1, s.step c = { s with depth, buf := c :: s.buf, prev := some c } := by
        have opener := opening c List.mem_cons_self
        simp [Text.ofString] at opener
        have quiet : c ∉ Text.ofString ";\"|" := by
          rcases opener with rfl | rfl | rfl | rfl <;> decide
        have notClose : (Text.ofString "])\x7d").contains c = false := by
          rcases opener with rfl | rfl | rfl | rfl <;> decide
        have solid : c.isBlank = false := by
          rcases opener with rfl | rfl | rfl | rfl <;> decide
        rw [step_outside s q p quiet]
        simp only [notClose, solid, Bool.false_eq_true, if_false]
        refine ⟨_, ?_, rfl⟩
        split <;> omega
      obtain ⟨d, le, one⟩ := one
      obtain ⟨d', le', buf, prev, rest⟩ :=
        ih (fun x mem => opening x (List.mem_cons_of_mem c mem)) { s with depth := d, buf := c :: s.buf, prev := some c } q p
      refine ⟨d', ?_, buf, prev, by rw [List.foldl_cons, one, rest]⟩
      simp only [List.length_cons] at le' ⊢
      omega

theorem foldl_closing (t : Text) (closing : ∀ c ∈ t, c ∈ Text.ofString "])\x7d") (s : Cutter)
    (q : s.inQuotes = false) (p : s.inPipe = false) :
    ∃ buf prev, t.foldl step s = { s with depth := s.depth - t.length, buf, prev } := by
  induction t generalizing s with
  | nil => exact ⟨s.buf, s.prev, rfl⟩
  | cons c t ih =>
      have closer := closing c List.mem_cons_self
      simp [Text.ofString] at closer
      have quiet : c ∉ Text.ofString ";\"|" := by
        rcases closer with rfl | rfl | rfl <;> decide
      have notOpen : opensBracket s.prev c = false := by
        rcases closer with rfl | rfl | rfl <;> simp +decide [opensBracket]
      have close : (Text.ofString "])\x7d").contains c = true := by
        rcases closer with rfl | rfl | rfl <;> decide
      have solid : c.isBlank = false := by
        rcases closer with rfl | rfl | rfl <;> decide
      obtain ⟨buf, prev, rest⟩ := ih (fun x mem => closing x (List.mem_cons_of_mem c mem))
        { s with depth := s.depth - 1, buf := c :: s.buf, prev := some c } q p
      refine ⟨buf, prev, ?_⟩
      rw [List.foldl_cons, step_outside s q p quiet]
      simp only [notOpen, close, solid, Bool.false_eq_true, if_false, if_true]
      rw [rest, List.length_cons]
      congr 1
      dsimp only
      omega

theorem foldl_arrow {a : String} (arrow : a ∈ arrows) (s : Cutter) (q : s.inQuotes = false)
    (p : s.inPipe = false) : ∃ buf prev, (Text.ofString a).foldl step s = { s with buf, prev } := by
  simp only [arrows, List.mem_cons, List.not_mem_nil, or_false] at arrow
  rcases arrow with rfl | rfl | rfl | rfl | rfl | rfl <;>
    simp +decide [Text.ofString, step_outside, opensBracket, q, p]

theorem step_bar (s : Cutter) (q : s.inQuotes = false) (p : s.inPipe = false) (d : s.depth = 0) :
    (s.step (CodePoint.ofChar '|')).inPipe = true ∧ (s.step (CodePoint.ofChar '|')).done = s.done := by
  unfold step
  simp +decide [q, p, d]

theorem done_foldl (t : Text) (noCut : ∀ c ∈ t, c ≠ CodePoint.ofChar ';') (s : Cutter) :
    (t.foldl step s).done = s.done :=
  foldl_invariant (P := fun s' => s'.done = s.done) t
    (fun s' c mem same => (done_step s' (noCut c mem)).trans same) s rfl

theorem done_foldl_of_inPipe (t : Text) (noBar : ∀ c ∈ t, c ≠ CodePoint.ofChar '|') (s : Cutter)
    (inPipe : s.inPipe = true) : (t.foldl step s).done = s.done :=
  (foldl_invariant (P := fun s' => s'.inPipe = true ∧ s'.done = s.done) t
    (fun s' c mem ⟨pipe, same⟩ =>
      ⟨(inPipe_step s' (noBar c mem)).trans pipe, (done_step_of_inPipe c pipe).trans same⟩)
    s ⟨inPipe, rfl⟩).2

end Cutter

theorem statements_of_done {line : Text} (uncut : (line.foldl Cutter.step {}).done = []) :
    statements line = [line] := by
  have whole := Cutter.read_foldl {} line
  simp only [Cutter.read, uncut, List.reverse_nil, List.map_nil, List.flatten_nil,
    List.nil_append] at whole
  simp [statements, uncut, whole]

/-! ## Trimming and reading a statement -/

theorem trim_eq_self {t : Text} (head : ∀ c ∈ t.head?, c.isBlank = false)
    (last : ∀ c ∈ t.getLast?, c.isBlank = false) : t.trim = t := by
  have start : trimStart t = t := List.dropWhile_eq_self_iff.2 fun positive => by
    simp [head t[0] (by rw [List.head?_eq_getElem?, List.getElem?_eq_getElem positive]; rfl)]
  unfold trim
  rw [start, trimEnd_eq_rdropWhile, List.rdropWhile_eq_self_iff.2]
  intro ne
  simp [last (t.getLast ne) (by rw [List.getLast?_eq_some_getLast ne]; rfl)]

/-- The words that open a statement read for something other than nodes and edges. -/
def reservedWords : List String :=
  ["graph", "flowchart", "subgraph", "classDef", "class", "style", "linkStyle", "click", "direction"]

theorem reservedWords_ident : ∀ word ∈ reservedWords, ∀ c ∈ Text.ofString word, c.isIdent = true := by
  decide

theorem eq_of_dropPrefix? {w id rest r : Text} (wIdent : ∀ c ∈ w, c.isIdent = true)
    (idIdent : ∀ c ∈ id, c.isIdent = true) (restHead : ∀ c ∈ rest.head?, c.isIdent = false)
    (dropped : Text.dropPrefix? w (id ++ rest) = some r) (rHead : ∀ c ∈ r.head?, c.isIdent = false) :
    w = id := by
  have split := Text.eq_append_of_dropPrefix? dropped
  rcases List.append_eq_append_iff.1 split with ⟨a, rfl, rfl⟩ | ⟨c, rfl, rfl⟩
  · rcases a with _ | ⟨x, a⟩
    · simp
    · have := restHead x (by simp)
      rw [wIdent x (by simp)] at this
      cases this
  · rcases c with _ | ⟨x, c⟩
    · simp
    · have := rHead x (by simp)
      rw [idIdent x (by simp)] at this
      cases this

theorem startsWithWord_eq_true {atEnd : Bool} {word : String} {t : Text}
    (h : startsWithWord atEnd word t = true) :
    ∃ r, Text.dropPrefix? (Text.ofString word) t = some r ∧ ∀ c ∈ r.head?, c.isBlank = true := by
  unfold startsWithWord at h
  split at h
  · rename_i c more dropped
    exact ⟨c :: more, dropped, fun d mem => by
      simp only [List.head?_cons, Option.mem_def, Option.some.injEq] at mem
      exact mem ▸ h⟩
  · rename_i dropped
    exact ⟨[], dropped, by simp⟩
  · cases h

/-- A statement that starts with an identifier, goes on past it, and starts with no reserved word
standing alone (followed by a blank or by nothing), is read for nodes and an edge. -/
theorem read_eq_elements_of_unreserved {id rest : Text} (idNe : id ≠ [])
    (idIdent : ∀ c ∈ id, c.isIdent = true) (restNe : rest ≠ [])
    (restHead : ∀ c ∈ rest.head?, c.isIdent = false)
    (notWord : ∀ word ∈ reservedWords, ∀ r,
      Text.dropPrefix? (Text.ofString word) (id ++ rest) = some r → (∀ c ∈ r.head?, c.isBlank = true) →
        False) :
    Statement.read (id ++ rest) =
      .elements (declarations (id ++ rest)) (edgeOf? (id ++ rest)) := by
  have ignorable : isIgnorable (id ++ rest) = false := by
    have comment : Text.dropPrefix? (Text.ofString "%%") (id ++ rest) = none := by
      obtain ⟨c, id', rfl⟩ := List.exists_cons_of_ne_nil idNe
      have percent : CodePoint.ofChar '%' ≠ c := by
        intro eq
        have ident := idIdent c (by simp)
        rw [← eq] at ident
        revert ident
        decide
      simp [Text.ofString, Text.dropPrefix?, percent]
    have headers : ["graph", "flowchart"] ⊆ reservedWords := by decide
    have directives : ["classDef", "class", "style", "linkStyle", "click", "direction"] ⊆ reservedWords := by
      decide
    simp only [isIgnorable, comment, Option.isSome_none, Bool.false_or, Bool.or_eq_false_iff,
      List.any_eq_false]
    refine ⟨fun word mem starts => ?_, fun word mem starts => ?_⟩
    · obtain ⟨r, dropped, rHead⟩ := startsWithWord_eq_true starts
      exact notWord word (headers mem) r dropped rHead
    · obtain ⟨r, dropped, rHead⟩ := startsWithWord_eq_true starts
      exact notWord word (directives mem) r dropped rHead
  have region : subgraphRest? (id ++ rest) = none := by
    unfold subgraphRest?
    split
    · rename_i dropped
      exact (notWord "subgraph" (by simp [reservedWords]) [] dropped (by simp)).elim
    · rename_i d more dropped
      split
      · rename_i blank
        exact (notWord "subgraph" (by simp [reservedWords]) _ dropped fun e mem => by
          simp only [List.head?_cons, Option.mem_def, Option.some.injEq] at mem
          exact mem ▸ blank).elim
      · rfl
    · rfl
  have notEnd : id ++ rest ≠ Text.ofString "end" := by
    intro isEnd
    obtain ⟨x, more, rfl⟩ := List.exists_cons_of_ne_nil restNe
    have mem : x ∈ Text.ofString "end" := by rw [← isEnd]; simp
    have word : ∀ d ∈ Text.ofString "end", d.isIdent = true := by decide
    have notIdent := restHead x (by simp)
    rw [word x mem] at notIdent
    cases notIdent
  have nonempty : (id ++ rest).isEmpty = false := by simp [restNe]
  simp [Statement.read, nonempty, ignorable, region, notEnd]

/-- A statement that starts with an identifier which is no reserved word, and goes on past it, is
read for nodes and an edge. -/
theorem read_eq_elements {id rest : Text} (idNe : id ≠ []) (idIdent : ∀ c ∈ id, c.isIdent = true)
    (free : id ∉ reservedWords.map Text.ofString) (restNe : rest ≠ [])
    (restHead : ∀ c ∈ rest.head?, c.isIdent = false) :
    Statement.read (id ++ rest) =
      .elements (declarations (id ++ rest)) (edgeOf? (id ++ rest)) := by
  refine read_eq_elements_of_unreserved idNe idIdent restNe restHead fun word mem r dropped rHead => ?_
  -- a reserved word at the start of the statement would be the identifier itself
  exact free (List.mem_map.2 ⟨word, mem, eq_of_dropPrefix? (reservedWords_ident word mem) idIdent restHead
    dropped fun c mem => CodePoint.isIdent_eq_false_of_isBlank (rHead c mem)⟩)

end Syntax

end Flowchart
