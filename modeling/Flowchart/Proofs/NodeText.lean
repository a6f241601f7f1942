import Flowchart.Proofs.LabelledEdges
import Flowchart.Proofs.EdgeChoice

/-! # Node text

A statement that is one node, `id opener text closer`, declares that node and nothing else when no
edge form and no label form is found anywhere in it (`Flowchart.Syntax.Inert`): the node has the text
made clean and the shape of the row of `Flowchart.Syntax.shapeSyntax` the statement is written in,
and there is no edge and no region (`Flowchart.Diagram.ofSource_loneNode`). Dashes or equals signs
that begin no edge, as in `Step 1 -- validate` or `x == y`, leave the text as it is.

Nothing shields the text from the edge readers, which search the whole statement, so a text in which
an edge form is found is read as an edge too (`Flowchart.Diagram.ofSource_arrowInNodeText`).

The row a node is read in is the first that reads the text whole. A row tried before it reads a
longer opener, and its closer holds the first character of the later closer, so it cannot stop
short of the end of the text (`Flowchart.Syntax.ClosesLate`, `Flowchart.Syntax.shapedBodies_head`).
-/

set_option autoImplicit false

namespace Flowchart

namespace Syntax

open Text

/-! ## Statements in which no edge form is found -/

/-- No edge form and no label form is found anywhere in `t`: no pipe-labelled, inline-labelled or
plain edge, and no pipe label. An inline label is found only where an inline-labelled edge is. -/
def Inert (t : Text) : Prop :=
  Nowhere pipeLink? t ∧ Nowhere inlineLink? t ∧ Nowhere plainLink? t ∧ Nowhere pipeLabelAt t

/-- Whether `t` is inert is decided by running the four searches over it. -/
instance (t : Text) : Decidable (Inert t) :=
  decidable_of_iff ((firstMatch pipeLink? t).isNone && (firstMatch inlineLink? t).isNone &&
      (firstMatch plainLink? t).isNone && (firstMatch pipeLabelAt t).isNone) (by
    simp only [Bool.and_eq_true, Option.isNone_iff_eq_none, firstMatch_eq_none_iff, Inert, and_assoc])

theorem Nowhere.suffix {α : Type} {m : Text → Option α} {t u : Text} (nowhere : Nowhere m t)
    (suffix : u <:+ t) : m u = none := by
  obtain ⟨v, rfl⟩ := suffix
  simpa using nowhere v.length (by simp)

theorem dashes_not_ident : ∀ c ∈ dashes, c.isIdent = false := by
  decide

theorem edgeOf?_of_inert {t : Text} (inert : Inert t) : edgeOf? t = none := by
  simp [edgeOf?, (firstMatch_eq_none_iff _ _).2 inert.1, (firstMatch_eq_none_iff _ _).2 inert.2.1,
    (firstMatch_eq_none_iff _ _).2 inert.2.2.1]

theorem matchRanges_eq_nil {m : Text → Option ((Nat × Nat) × Nat)} {t : Text}
    (fails : ∀ u, u <:+ t → m u = none) : matchRanges m t = [] := by
  simp [matchRanges, allMatches, scanFrom_eq_nil 0 fun u suffix _ => fails u suffix]

theorem maskLabels_of_inert {t : Text} (inert : Inert t) : maskLabels t = t := by
  have piped : matchRanges pipeLabelAt t = [] :=
    matchRanges_eq_nil fun u suffix => inert.2.2.2.suffix suffix
  have inline : matchRanges inlineLabelAt t = [] := matchRanges_eq_nil fun u suffix => by
    simp [inlineLabelAt, inert.2.1.suffix suffix]
  simp [maskLabels, piped, blankRanges_nil, inline]

/-! ## The row a node is read in -/

/-- `t` is written with the row's opener, then `body`, which does not hold the first character of
the row's closer, then the closer. -/
def Encloses (r : String × String × Shape) (t body : Text) : Prop :=
  t = Text.ofString r.1 ++ body ++ Text.ofString r.2.1 ∧ ∀ x ∈ body, x ≠ (Text.ofString r.2.1).headD default

/-- Row `r'`, tried before row `r`, closes no earlier than `r`: where one opener is a prefix of the
other, the closer of `r'` holds the first character of the closer of `r` at a place `j` that leaves
room for at least the closer of `r` from there on. -/
def ClosesLate (r' r : String × String × Shape) : Prop :=
  (Text.ofString r'.1 <+: Text.ofString r.1 ∨ Text.ofString r.1 <+: Text.ofString r'.1) →
    ∃ j < (Text.ofString r'.2.1).length,
      (Text.ofString r'.2.1)[j]? = some ((Text.ofString r.2.1).headD default) ∧
        (Text.ofString r.2.1).length + j ≤ (Text.ofString r'.2.1).length

instance (r' r : String × String × Shape) : Decidable (ClosesLate r' r) :=
  inferInstanceAs (Decidable (_ → _))

theorem shapeSyntax_closesLate : shapeSyntax.Pairwise ClosesLate := by
  decide

theorem shapeSyntax_opener_closer : ∀ r ∈ shapeSyntax,
    (Text.ofString r.2.1).headD default ∉ Text.ofString r.1 := by
  decide

theorem enclosed?_stops {o c t body after : Text} (h : enclosed? o c t = some (body, after)) :
    ∀ x ∈ body, x ≠ c.headD default := by
  simp only [enclosed?, Option.bind_eq_bind, Option.bind_eq_some_iff, Option.pure_def,
    Option.some.injEq, Prod.mk.injEq] at h
  obtain ⟨inner, -, rest, -, rfl, -⟩ := h
  intro x mem
  simpa using List.mem_takeWhile_imp mem

theorem enclosed?_of_encloses {r : String × String × Shape} (mem : r ∈ shapeSyntax) {t body : Text}
    (written : Encloses r t body) :
    enclosed? (Text.ofString r.1) (Text.ofString r.2.1) t = some (body, []) := by
  rw [written.1, ← List.append_nil (Text.ofString r.1 ++ body ++ Text.ofString r.2.1)]
  exact enclosed?_written _ _ _ _ (shapeSyntax_closer_ne r mem) written.2

theorem not_encloses {r : String × String × Shape} (mem : r ∈ shapeSyntax) {t : Text}
    (short : ∀ read ∈ enclosed? (Text.ofString r.1) (Text.ofString r.2.1) t, read.2 ≠ []) (body : Text) :
    ¬ Encloses r t body :=
  fun written => short _ (enclosed?_of_encloses mem written) rfl

theorem length_after_closer {o body c o' body' c' after : Text} {x : CodePoint}
    (split : o ++ body ++ c = o' ++ body' ++ c' ++ after) (outside : x ∉ o ++ body) {j : Nat}
    (found : c'[j]? = some x) : after.length + c'.length ≤ c.length + j := by
  have inCloser : j < c'.length := (List.getElem?_eq_some_iff.1 found).1
  have at_ : (o ++ body ++ c)[(o' ++ body').length + j]? = some x := by
    rw [split, List.append_assoc (o' ++ body'), List.getElem?_append_right (Nat.le_add_right _ _),
      Nat.add_sub_cancel_left, List.getElem?_append_left inCloser, found]
  have late : (o ++ body).length ≤ (o' ++ body').length + j := by
    refine Nat.le_of_not_lt fun early => outside ?_
    rw [List.getElem?_append_left early] at at_
    exact List.mem_of_getElem? at_
  have lengths := congrArg List.length split
  simp only [List.length_append] at lengths late
  omega

theorem enclosed?_of_closesLate {r' r : String × String × Shape} (late : ClosesLate r' r)
    (row : r ∈ shapeSyntax) {t body body' after : Text} (written : Encloses r t body)
    (found : enclosed? (Text.ofString r'.1) (Text.ofString r'.2.1) t = some (body', after)) :
    after = [] := by
  obtain ⟨rfl, stops⟩ := written
  have split := enclosed?_eq_some found
  -- both openers are read at the start of the text, so one is a prefix of the other
  have nested := List.prefix_or_prefix_of_prefix
    (⟨body' ++ Text.ofString r'.2.1 ++ after, by rw [split]; simp⟩ :
      Text.ofString r'.1 <+: Text.ofString r.1 ++ body ++ Text.ofString r.2.1)
    (⟨body ++ Text.ofString r.2.1, by simp⟩ :
      Text.ofString r.1 <+: Text.ofString r.1 ++ body ++ Text.ofString r.2.1)
  obtain ⟨j, -, found', short⟩ := late nested
  have outside : (Text.ofString r.2.1).headD default ∉ Text.ofString r.1 ++ body := by
    simp only [List.mem_append, not_or]
    exact ⟨shapeSyntax_opener_closer r row, fun mem => stops _ mem rfl⟩
  have bound := length_after_closer split outside found'
  exact List.eq_nil_of_length_eq_zero (by omega)

/-- A text written in a row is read in that row first, when no row tried before it reads the text
whole. -/
theorem shapedBodies_head {before after : List (String × String × Shape)} {r : String × String × Shape}
    (row : shapeSyntax = before ++ r :: after) {t body : Text} (written : Encloses r t body)
    (first : ∀ r' ∈ before, ∀ body', ¬ Encloses r' t body') :
    (shapedBodies t).head? = some (r.2.2, body, []) := by
  have mem : r ∈ shapeSyntax := by rw [row]; simp
  have earlier : ∀ r' ∈ before, ClosesLate r' r := fun r' mem' =>
    (List.pairwise_append.1 (row ▸ shapeSyntax_closesLate)).2.2 r' mem' r List.mem_cons_self
  have here := enclosed?_of_encloses mem written
  -- an earlier row that read the text would read it whole
  have skipped : ∀ r' ∈ before, enclosed? (Text.ofString r'.1) (Text.ofString r'.2.1) t = none := by
    intro r' mem'
    cases found : enclosed? (Text.ofString r'.1) (Text.ofString r'.2.1) t with
    | none => rfl
    | some read =>
        obtain ⟨body', rest⟩ := read
        have whole := enclosed?_of_closesLate (earlier r' mem') mem written found
        subst whole
        exact (first r' mem' body' ⟨by simpa using enclosed?_eq_some found, enclosed?_stops found⟩).elim
  unfold shapedBodies
  rw [row, List.filterMap_append, List.filterMap_eq_nil_iff.2 fun r' mem' => by simp [skipped r' mem'],
    List.filterMap_cons]
  simp [here]

/-! ## A statement that is one node -/

theorem read_eq_elements_of_solid {id rest : Text} (idNe : id ≠ []) (idIdent : ∀ c ∈ id, c.isIdent = true)
    (restNe : rest ≠ []) (restHead : ∀ c ∈ rest.head?, c.isIdent = false ∧ c.isBlank = false) :
    Statement.read (id ++ rest) =
      .elements (declarations (id ++ rest)) (edgeOf? (id ++ rest)) := by
  refine read_eq_elements_of_unreserved idNe idIdent restNe (fun c mem => (restHead c mem).1)
    fun word mem r dropped rHead => ?_
  have same := eq_of_dropPrefix? (reservedWords_ident word mem) idIdent (fun c mem => (restHead c mem).1)
    dropped fun c mem => CodePoint.isIdent_eq_false_of_isBlank (rHead c mem)
  rw [same, Text.dropPrefix?_append, Option.some.injEq] at dropped
  subst dropped
  obtain ⟨c, more, rfl⟩ := List.exists_cons_of_ne_nil restNe
  have solid := (restHead c rfl).2
  rw [rHead c rfl] at solid
  cases solid

section Lone

variable {id body : Text} {r : String × String × Shape}

theorem lone_uncut (idIdent : ∀ x ∈ id, x.isIdent = true) (mem : r ∈ shapeSyntax)
    (uncut : ∀ x ∈ body, x ∉ Text.ofString "\r\n;") :
    ∀ x ∈ id ++ (Text.ofString r.1 ++ body ++ Text.ofString r.2.1), x ∉ Text.ofString "\r\n;" := by
  have cuts : Text.ofString "\r\n;" ⊆ edgeMarks := by decide
  have cutsNotIdent : ∀ y ∈ Text.ofString "\r\n;", y.isIdent = false := by decide
  have brackets := (Endpoint.shapeSyntax_brackets r mem).2.2.2
  intro x inS
  simp only [List.mem_append] at inS
  rcases inS with inId | (inOpener | inBody) | inCloser
  · exact Endpoint.not_mem_of_ident (idIdent x inId) cutsNotIdent
  · exact fun cut => brackets x (List.mem_append_left _ inOpener) (cuts cut)
  · exact uncut x inBody
  · exact fun cut => brackets x (List.mem_append_right _ inCloser) (cuts cut)

theorem trim_lone (idNe : id ≠ []) (idIdent : ∀ x ∈ id, x.isIdent = true) (mem : r ∈ shapeSyntax) :
    (id ++ (Text.ofString r.1 ++ body ++ Text.ofString r.2.1)).trim =
      id ++ (Text.ofString r.1 ++ body ++ Text.ofString r.2.1) := by
  have closerNe := shapeSyntax_closer_ne r mem
  apply trim_eq_self
  · intro c first
    rw [List.head?_append_of_ne_nil _ idNe] at first
    exact CodePoint.isBlank_eq_false_of_isIdent (idIdent c (List.mem_of_mem_head? first))
  · intro c last
    rw [List.getLast?_append_of_ne_nil _ (by simp [closerNe]),
      List.getLast?_append_of_ne_nil _ closerNe] at last
    exact Endpoint.closer_last_solid r mem c last

theorem bracketed_head (mem : r ∈ shapeSyntax) :
    ∀ c ∈ (Text.ofString r.1 ++ body ++ Text.ofString r.2.1).head?, c.isIdent = false ∧ c.isBlank = false := by
  rw [List.append_assoc, List.head?_append_of_ne_nil _ (Endpoint.shapeSyntax_opener_ne r mem)]
  exact Endpoint.opener_head_solid r mem

variable {before after : List (String × String × Shape)} (idNe : id ≠ [])
  (idIdent : ∀ x ∈ id, x.isIdent = true) (row : shapeSyntax = before ++ r :: after)
  (stops : ∀ x ∈ body, x ≠ (Text.ofString r.2.1).headD default)
  (first : ∀ r' ∈ before, ∀ body', ¬ Encloses r' (Text.ofString r.1 ++ body ++ Text.ofString r.2.1) body')
  (inert : Inert (id ++ (Text.ofString r.1 ++ body ++ Text.ofString r.2.1)))
include idNe idIdent row stops first inert

theorem declarations_lone :
    declarations (id ++ (Text.ofString r.1 ++ body ++ Text.ofString r.2.1)) = [(id, clean body, r.2.2)] := by
  have mem : r ∈ shapeSyntax := by rw [row]; simp
  have restHead : ∀ c ∈ (Text.ofString r.1 ++ body ++ Text.ofString r.2.1).head?,
      c.isIdent = false ∧ c.isBlank = false := bracketed_head mem
  have whole : declarationAt (id ++ (Text.ofString r.1 ++ body ++ Text.ofString r.2.1)) =
      some ((id, clean body, r.2.2), (id ++ (Text.ofString r.1 ++ body ++ Text.ofString r.2.1)).length) := by
    simp only [declarationAt, ident?_append idNe idIdent fun c mem => (restHead c mem).1,
      skipBlanks_of_head fun c mem => (restHead c mem).2, shapedBodies_head row ⟨rfl, stops⟩ first,
      Option.pure_def, Option.bind_eq_bind, Option.bind_some, List.length_nil, Nat.sub_zero]
  unfold declarations allMatches
  rw [maskLabels_of_inert inert,
    ← List.append_nil (id ++ (Text.ofString r.1 ++ body ++ Text.ofString r.2.1)),
    scanFrom_append_some 0 [] (by simp [idNe]) (by rw [List.append_nil]; exact whole)]
  rfl

theorem sourceStatements_lone (uncut : ∀ x ∈ body, x ∉ Text.ofString "\r\n;") :
    sourceStatements (id ++ (Text.ofString r.1 ++ body ++ Text.ofString r.2.1)) =
      [.elements [(id, clean body, r.2.2)] none] := by
  have mem : r ∈ shapeSyntax := by rw [row]; simp
  have openerNe := Endpoint.shapeSyntax_opener_ne r mem
  have cut := lone_uncut idIdent mem uncut
  have breaks : lineBreaks ⊆ Text.ofString "\r\n;" := by decide
  have semicolon : CodePoint.ofChar ';' ∈ Text.ofString "\r\n;" := by decide
  have restHead : ∀ c ∈ (Text.ofString r.1 ++ body ++ Text.ofString r.2.1).head?,
      c.isIdent = false ∧ c.isBlank = false := bracketed_head mem
  have read := read_eq_elements_of_solid idNe idIdent (by simp [openerNe]) restHead
  simp only [sourceStatements,
    lines_of_unbroken fun x inS br => cut x inS (breaks br),
    statements_of_done (Cutter.done_foldl _ (fun x inS eq => cut x inS (eq ▸ semicolon)) {}),
    List.flatMap_cons, List.flatMap_nil, List.map_cons, List.map_nil, List.append_nil,
    trim_lone idNe idIdent mem, read, declarations_lone idNe idIdent row stops first inert,
    edgeOf?_of_inert inert]

end Lone

end Syntax

open Syntax in
/-- A statement that is one node, `id opener body closer`, with the first row of `shapeSyntax` that
reads it whole, a body that holds no line break or semicolon, and no edge form and no label form
found anywhere in it, makes a diagram of that node alone: the body made clean is its text (the id
when that is empty), the row gives its shape, and there is no edge and no region. -/
theorem Diagram.ofSource_loneNode {id body : Text} {before after : List (String × String × Shape)}
    {o c : String} {shape : Shape} (idNe : id ≠ []) (idIdent : ∀ x ∈ id, x.isIdent = true)
    (row : shapeSyntax = before ++ (o, c, shape) :: after)
    (stops : ∀ x ∈ body, x ≠ (Text.ofString c).headD default)
    (first : ∀ r ∈ before, ∀ body', ¬ Encloses r (Text.ofString o ++ body ++ Text.ofString c) body')
    (uncut : ∀ x ∈ body, x ∉ Text.ofString "\r\n;")
    (inert : Inert (id ++ (Text.ofString o ++ body ++ Text.ofString c))) :
    let g := Diagram.ofSource (id ++ (Text.ofString o ++ body ++ Text.ofString c))
    g.nodes = [Node.declared id (clean body) shape] ∧ g.edges = [] ∧ g.regions = [] := by
  intro g
  have read : g = (({ diagram := { direction := headerDirection (id ++ (Text.ofString o ++ body ++
      Text.ofString c)) } } : Scan).step (.elements [(id, clean body, shape)] none)).diagram := by
    show Diagram.ofSource _ = _
    rw [Diagram.ofSource, sourceStatements_lone idNe idIdent row stops first inert uncut]
    rfl
  rw [read]
  exact ⟨rfl, rfl, rfl⟩

/-- `subgraph[[Step 1 -- validate]` is the node `subgraph` with text `[Step 1 -- validate`: the
identifier is a reserved word, the subroutine row, tried first, finds no closer of its own, and the
dashes in the text begin no edge. -/
theorem Diagram.ofSource_loneNode_dashedText :
    let id := Text.ofString "subgraph"
    let body := Text.ofString "[Step 1 -- validate"
    (id ≠ [] ∧ (∀ x ∈ id, x.isIdent = true) ∧
      Syntax.shapeSyntax = Syntax.shapeSyntax.take 4 ++ ("[", "]", .rectangle) :: Syntax.shapeSyntax.drop 5 ∧
      (∀ x ∈ body, x ≠ (Text.ofString "]").headD default) ∧
      (∀ r ∈ Syntax.shapeSyntax.take 4, ∀ body',
        ¬ Syntax.Encloses r (Text.ofString "[" ++ body ++ Text.ofString "]") body') ∧
      (∀ x ∈ body, x ∉ Text.ofString "\r\n;") ∧
      Syntax.Inert (id ++ (Text.ofString "[" ++ body ++ Text.ofString "]"))) ∧
    let g := Diagram.ofSource (id ++ (Text.ofString "[" ++ body ++ Text.ofString "]"))
    g.nodes = [Node.declared id (Syntax.clean body) .rectangle] ∧ g.edges = [] ∧ g.regions = [] := by
  intro id body
  have first : ∀ r ∈ Syntax.shapeSyntax.take 4, ∀ body',
      ¬ Syntax.Encloses r (Text.ofString "[" ++ body ++ Text.ofString "]") body' :=
    fun r mem => Syntax.not_encloses (List.mem_of_mem_take mem) (by revert r mem; decide)
  have row : Syntax.shapeSyntax =
      Syntax.shapeSyntax.take 4 ++ ("[", "]", .rectangle) :: Syntax.shapeSyntax.drop 5 := by
    decide
  have inert : Syntax.Inert (id ++ (Text.ofString "[" ++ body ++ Text.ofString "]")) := by
    decide +kernel
  exact ⟨⟨by decide, by decide, row, by decide, first, by decide, inert⟩,
    Diagram.ofSource_loneNode (by decide) (by decide) row (by decide) first (by decide) inert⟩

/-- In `A["x --> y"]` the body holds no closer, line break or semicolon, and the rectangle row is
the first to read it whole; yet the plain edge form is found in it, and the arrow is read as an edge,
with its two ends as nodes. -/
theorem Diagram.ofSource_arrowInNodeText :
    let id := Text.ofString "A"
    let body := Text.ofString "\"x --> y\""
    ((∀ x ∈ id, x.isIdent = true) ∧ (∀ x ∈ body, x ≠ (Text.ofString "]").headD default) ∧
      (∀ r ∈ Syntax.shapeSyntax.take 4, ∀ body',
        ¬ Syntax.Encloses r (Text.ofString "[" ++ body ++ Text.ofString "]") body') ∧
      (∀ x ∈ body, x ∉ Text.ofString "\r\n;") ∧
      ¬ Syntax.Inert (id ++ (Text.ofString "[" ++ body ++ Text.ofString "]"))) ∧
    let g := Diagram.ofSource (id ++ (Text.ofString "[" ++ body ++ Text.ofString "]"))
    g.nodeIds = [Text.ofString "A", Text.ofString "x", Text.ofString "y"] ∧
      g.edges = [{ source := Text.ofString "x", target := Text.ofString "y" }] :=
  ⟨⟨by decide, by decide,
    fun r mem => Syntax.not_encloses (List.mem_of_mem_take mem) (by revert r mem; decide),
    by decide, fun inert => absurd (Syntax.edgeOf?_of_inert inert) (by decide +kernel)⟩, by decide +kernel⟩

end Flowchart
