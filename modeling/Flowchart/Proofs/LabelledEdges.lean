import Flowchart.Proofs.Ends

/-! # Label text declares no node

A statement joining two written ends (`Flowchart.Syntax.Endpoint`) by an arrow with a label, in
either form of `Flowchart.Syntax.LabelForm`, is read as written, whatever the label holds. A pipe
label may hold brackets, quotes, semicolons and identifiers. The statement stays whole
(`Flowchart.Syntax.statements_labelled`), masking blanks exactly the label
(`Flowchart.Syntax.maskLabels_labelled`), so only the bodies of the ends declare nodes
(`Flowchart.Syntax.declarations_labelled`), and the edge is read between the two ends
(`Flowchart.Syntax.edgeOf?_labelled`). The diagram then has the two ends as its only nodes, each as
its body declares it, and the one edge (`Flowchart.Diagram.ofSource_labelledEdge`). -/

set_option autoImplicit false

namespace Flowchart

namespace Diagram

theorem node?_eq_some_iff (g : Diagram) {id : Text} {n : Node} :
    g.node? id = some n ↔ n ∈ g.nodes ∧ n.id = id :=
  ⟨mem_of_node?_eq_some, fun ⟨mem, same⟩ => same ▸ g.node?_eq_some_of_mem mem⟩

theorem mem_nodeIds_iff (g : Diagram) (id : Text) : id ∈ g.nodeIds ↔ (g.node? id).isSome := by
  simp only [nodeIds, List.mem_map, node?, List.find?_isSome, decide_eq_true_eq]

theorem mem_nodeIds_putNode (g : Diagram) (n : Node) (x : Text) :
    x ∈ (g.putNode n).nodeIds ↔ x ∈ g.nodeIds ∨ x = n.id := by
  rw [nodeIds_putNode]
  split
  · rename_i present
    have mem := (hasNode_iff g n.id).1 present
    constructor
    · exact Or.inl
    · rintro (old | rfl)
      · exact old
      · exact mem
  · simp

theorem node?_putNode (g : Diagram) (n : Node) (x : Text) :
    (g.putNode n).node? x = if x = n.id then some n else g.node? x := by
  split
  · rename_i same
    subst same
    refine (node?_eq_some_iff _).2 ⟨?_, rfl⟩
    unfold putNode
    split
    · rename_i present
      obtain ⟨m, mem, same⟩ := List.any_eq_true.1 present
      exact List.mem_map.2 ⟨m, mem, by simp at same; simp [same]⟩
    · simp
  · rename_i other
    cases found : g.node? x with
    | some m =>
        obtain ⟨mem, rfl⟩ := mem_of_node?_eq_some found
        refine (node?_eq_some_iff _).2 ⟨?_, rfl⟩
        unfold putNode
        split
        · exact List.mem_map.2 ⟨m, mem, by simp [other]⟩
        · exact List.mem_append_left _ mem
    | none =>
        cases put : (g.putNode n).node? x with
        | none => rfl
        | some m =>
            obtain ⟨mem, rfl⟩ := mem_of_node?_eq_some put
            rcases mem_putNode mem with rfl | old
            · exact absurd rfl other
            · rw [g.node?_eq_some_of_mem old] at found
              cases found

end Diagram

namespace Syntax.Scan

open Diagram

variable (s : Scan)

@[simp] theorem node?_attach (id x : Text) : (s.attach id).diagram.node? x = s.diagram.node? x := by
  simp [Diagram.node?]

@[simp] theorem nodeIds_attach (id : Text) : (s.attach id).diagram.nodeIds = s.diagram.nodeIds := by
  simp [Diagram.nodeIds]

@[simp] theorem inRegion_attach (id : Text) : (s.attach id).inRegion = s.inRegion := by
  unfold attach
  split <;> rfl

theorem declare_frame (id text : Text) (shape : Shape) (outside : s.inRegion = false) :
    (s.declare id text shape).inRegion = false ∧
      (s.declare id text shape).diagram.regions = s.diagram.regions ∧
      (s.declare id text shape).diagram.edges = s.diagram.edges := by
  unfold declare
  split
  · exact ⟨by simp [outside], by simp [regions_attach, outside], by simp⟩
  · split
    · exact ⟨by simp [outside], by simp [regions_attach, outside], by simp⟩
    · exact ⟨outside, rfl, rfl⟩

theorem ensure_frame (id : Text) (outside : s.inRegion = false) :
    (s.ensure id).inRegion = false ∧ (s.ensure id).diagram.regions = s.diagram.regions ∧
      (s.ensure id).diagram.edges = s.diagram.edges := by
  unfold ensure
  split
  · exact ⟨outside, rfl, rfl⟩
  · exact ⟨by simp [outside], by simp [regions_attach, outside], by simp⟩

theorem mem_nodeIds_declare (id text : Text) (shape : Shape) (x : Text) :
    x ∈ (s.declare id text shape).diagram.nodeIds ↔ x ∈ s.diagram.nodeIds ∨ x = id := by
  unfold declare
  split
  · simp [mem_nodeIds_putNode, Node.declared]
  · rename_i n found
    obtain ⟨mem, same⟩ := mem_of_node?_eq_some found
    split
    · simp [mem_nodeIds_putNode, same]
    · have present : id ∈ s.diagram.nodeIds := List.mem_map.2 ⟨n, mem, same⟩
      constructor
      · exact Or.inl
      · rintro (old | rfl)
        · exact old
        · exact present

theorem mem_nodeIds_ensure (id x : Text) :
    x ∈ (s.ensure id).diagram.nodeIds ↔ x ∈ s.diagram.nodeIds ∨ x = id := by
  unfold ensure
  split
  · rename_i present
    have mem := (hasNode_iff _ id).1 present
    constructor
    · exact Or.inl
    · rintro (old | rfl)
      · exact old
      · exact mem
  · simp [mem_nodeIds_putNode, Node.bare]

theorem node?_declare_of_none {id : Text} (text : Text) (shape : Shape) (absent : s.diagram.node? id = none)
    (x : Text) : (s.declare id text shape).diagram.node? x =
      if x = id then some (Node.declared id text shape) else s.diagram.node? x := by
  unfold declare
  rw [absent]
  simp [node?_putNode, Node.declared]

theorem node?_ensure (id x : Text) : (s.ensure id).diagram.node? x =
    if x = id then some ((s.diagram.node? id).getD (Node.bare id)) else s.diagram.node? x := by
  unfold ensure
  split
  · rename_i present
    obtain ⟨n, found⟩ := Option.isSome_iff_exists.1 ((mem_nodeIds_iff _ id).1 ((hasNode_iff _ id).1 present))
    split
    · rename_i same
      rw [same, found]
      rfl
    · rfl
  · rename_i absent
    have none : s.diagram.node? id = none := by
      cases found : s.diagram.node? id with
      | none => rfl
      | some n =>
          exact absurd ((hasNode_iff s.diagram id).2 ((mem_nodeIds_iff s.diagram id).2 (by simp [found])))
            absent
    simp [node?_putNode, Node.bare, none]

theorem node?_ensure_of_isSome {id x : Text} (present : (s.diagram.node? x).isSome) :
    (s.ensure id).diagram.node? x = s.diagram.node? x := by
  rw [node?_ensure]
  split
  · next same =>
      subst same
      obtain ⟨n, found⟩ := Option.isSome_iff_exists.1 present
      simp [found]
  · rfl

theorem foldl_declare_frame (nodes : List (Text × Text × Shape)) :
    ∀ s : Scan, s.inRegion = false →
      (nodes.foldl (fun s (id, text, shape) => s.declare id text shape) s).inRegion = false ∧
      (nodes.foldl (fun s (id, text, shape) => s.declare id text shape) s).diagram.regions =
        s.diagram.regions ∧
      (nodes.foldl (fun s (id, text, shape) => s.declare id text shape) s).diagram.edges = s.diagram.edges := by
  induction nodes with
  | nil => intro s outside; exact ⟨outside, rfl, rfl⟩
  | cons d rest ih =>
      intro s outside
      obtain ⟨id, text, shape⟩ := d
      obtain ⟨outside', regions, edges⟩ := declare_frame s id text shape outside
      obtain ⟨stays, regions', edges'⟩ := ih _ outside'
      exact ⟨stays, regions'.trans regions, edges'.trans edges⟩

theorem mem_nodeIds_foldl_declare (nodes : List (Text × Text × Shape)) :
    ∀ (s : Scan) (x : Text),
      x ∈ (nodes.foldl (fun s (id, text, shape) => s.declare id text shape) s).diagram.nodeIds ↔
        x ∈ s.diagram.nodeIds ∨ ∃ d ∈ nodes, d.1 = x := by
  induction nodes with
  | nil => intro s x; simp
  | cons d rest ih =>
      intro s x
      obtain ⟨id, text, shape⟩ := d
      rw [List.foldl_cons]
      dsimp only
      rw [ih, mem_nodeIds_declare]
      simp only [List.mem_cons, exists_eq_or_imp]
      tauto

theorem link_frame (e : Edge) (outside : s.inRegion = false) :
    (s.link e).diagram.regions = s.diagram.regions ∧ (s.link e).diagram.edges = s.diagram.edges ++ [e] := by
  obtain ⟨outside', regions, edges⟩ := ensure_frame s e.source outside
  obtain ⟨-, regions', edges'⟩ := ensure_frame _ e.target outside'
  exact ⟨regions'.trans regions, by simp [link, edges', edges]⟩

theorem mem_nodeIds_link (e : Edge) (x : Text) :
    x ∈ (s.link e).diagram.nodeIds ↔ x ∈ s.diagram.nodeIds ∨ x = e.source ∨ x = e.target := by
  show x ∈ ((s.ensure e.source).ensure e.target).diagram.nodeIds ↔ _
  rw [mem_nodeIds_ensure, mem_nodeIds_ensure, or_assoc]

theorem node?_link (e : Edge) (x : Text) :
    (s.link e).diagram.node? x = ((s.ensure e.source).ensure e.target).diagram.node? x := rfl

end Syntax.Scan

namespace Syntax

open Text

/-! ## Arrows with labels -/

/-- The two ways a label is written on an arrow: between bars right after the arrow, or between an
opener and a closer that make the arrow together. -/
inductive LabelForm where
  | pipe (arrow : String)
  | inline (opener closer : String)
deriving DecidableEq, Repr

namespace LabelForm

/-- The arrow with its label, as written. -/
def written : LabelForm → Text → Text
  | pipe arrow, label => Text.ofString arrow ++ CodePoint.ofChar '|' :: label ++ [CodePoint.ofChar '|']
  | inline opener closer, label => Text.ofString opener ++ label ++ Text.ofString closer

/-- The arrow with its label blanked. -/
def masked : LabelForm → Text → Text
  | pipe arrow, label => Text.ofString arrow ++ blanks (label.length + 2)
  | inline opener closer, label => Text.ofString opener ++ blanks label.length ++ Text.ofString closer

/-- The stroke the arrow is drawn with. -/
def stroke : LabelForm → Stroke
  | pipe arrow => Stroke.ofArrow (Text.ofString arrow)
  | inline opener closer => Stroke.ofArrow (Text.ofString opener ++ Text.ofString closer)

/-- The labels a form carries as written: a pipe label has no bar, an inline label is not empty
and has no dash, dot, equals sign, `>`, bar or semicolon; neither has a line break. -/
def Fits : LabelForm → Text → Prop
  | pipe arrow, label => arrow ∈ arrows ∧ CodePoint.ofChar '|' ∉ label ∧ ∀ c ∈ label, c ∉ lineBreaks
  | inline opener closer, label => opener ∈ labelOpeners ∧ closer ∈ labelClosers ∧ label ≠ [] ∧
      (∀ c ∈ label, c ∉ Text.ofString "-.=>|;") ∧ ∀ c ∈ label, c ∉ lineBreaks

instance (f : LabelForm) (label : Text) : Decidable (f.Fits label) :=
  match f with
  | pipe _ => inferInstanceAs (Decidable (_ ∧ _ ∧ _))
  | inline _ _ => inferInstanceAs (Decidable (_ ∧ _ ∧ _ ∧ _ ∧ _))

end LabelForm

/-- The statement `a`, a space, the arrow with its label, a space, `b`. -/
def labelledStatement (a : Endpoint) (f : LabelForm) (label : Text) (b : Endpoint) : Text :=
  a.written ++ CodePoint.ofChar ' ' :: f.written label ++ CodePoint.ofChar ' ' :: b.written

/-- The characters arrows, openers and closers are made of. -/
def arrowChars : Text := Text.ofString "-.=>"

theorem arrowChars_inert : ∀ c ∈ arrowChars, c.isIdent = false ∧ c ∉ lineBreaks ∧
    c ≠ CodePoint.ofChar ';' ∧ c ≠ CodePoint.ofChar '|' ∧ startsInlineLabel c = false := by
  decide

theorem arrows_arrowChars : ∀ a ∈ arrows, ∀ c ∈ Text.ofString a, c ∈ arrowChars := by
  decide

theorem labelOpeners_arrowChars : ∀ a ∈ labelOpeners, ∀ c ∈ Text.ofString a, c ∈ arrowChars := by
  decide

theorem labelClosers_arrowChars : ∀ a ∈ labelClosers, ∀ c ∈ Text.ofString a, c ∈ arrowChars := by
  decide

theorem labelOpeners_head : ∀ a ∈ labelOpeners, ∀ c ∈ (Text.ofString a).head?, c ∈ dashes := by
  decide

theorem dashes_solid : ∀ c ∈ dashes, c ∉ Text.ofString "[(\x7b>" ∧ c.isBlank = false := by
  decide

theorem inert_of_not_mem_edgeMarks {c : CodePoint} (h : c ∉ edgeMarks) :
    c ∉ lineBreaks ∧ c ≠ CodePoint.ofChar ';' ∧ c ≠ CodePoint.ofChar '|' ∧ c ∉ dashes := by
  have breaks : ∀ x ∈ lineBreaks, x ∈ edgeMarks := by decide
  have marks : ∀ x ∈ dashes, x ∈ edgeMarks := by decide
  refine ⟨fun mem => h (breaks c mem), ?_, ?_, fun mem => h (marks c mem)⟩
  · rintro rfl
    exact h (by decide)
  · rintro rfl
    exact h (by decide)

/-! ## Readers on an arrow with a label -/

theorem takeWhile_ne_bar {label : Text} (noBar : CodePoint.ofChar '|' ∉ label) (rest : Text) :
    (label ++ CodePoint.ofChar '|' :: rest).takeWhile (· ≠ CodePoint.ofChar '|') = label := by
  rw [List.takeWhile_append_of_pos (fun c mem => by simp; rintro rfl; exact noBar mem),
    List.takeWhile_cons_of_neg (by simp)]
  simp

theorem dropWhile_ne_bar {label : Text} (noBar : CodePoint.ofChar '|' ∉ label) (rest : Text) :
    (label ++ CodePoint.ofChar '|' :: rest).dropWhile (· ≠ CodePoint.ofChar '|') =
      CodePoint.ofChar '|' :: rest := by
  rw [List.dropWhile_append_of_pos (fun c mem => by simp; rintro rfl; exact noBar mem),
    List.dropWhile_cons_of_neg (by simp)]

theorem arrowsAt_arrow {arrow : String} (mem : arrow ∈ arrows) (rest : Text) :
    ∃ more, arrowsAt (Text.ofString arrow ++ CodePoint.ofChar '|' :: rest) =
      (Text.ofString arrow, CodePoint.ofChar '|' :: rest) :: more := by
  simp only [arrows, List.mem_cons, List.not_mem_nil, or_false] at mem
  rcases mem with rfl | rfl | rfl | rfl | rfl | rfl <;>
    simp +decide [arrowsAt, arrows, Text.ofString, Text.dropPrefix?]

theorem skipBlanks_bar (rest : Text) :
    skipBlanks (CodePoint.ofChar '|' :: rest) = CodePoint.ofChar '|' :: rest :=
  List.dropWhile_cons_of_neg (by decide)

theorem skipBlanks_space (rest : Text) : skipBlanks (CodePoint.ofChar ' ' :: rest) = skipBlanks rest :=
  List.dropWhile_cons_of_pos (by decide)

theorem skipBlanks_append_of_head {p : Text} (ne : p ≠ []) (solid : ∀ c ∈ p.head?, c.isBlank = false)
    (rest : Text) : skipBlanks (p ++ rest) = p ++ rest :=
  skipBlanks_of_head fun c mem => solid c (by rwa [List.head?_append_of_ne_nil _ ne] at mem)

theorem arrows_head_solid : ∀ a ∈ arrows, ∀ c ∈ (Text.ofString a).head?, c.isBlank = false := by
  decide

theorem pipeLabelAt_arrow {arrow : String} (mem : arrow ∈ arrows) {label : Text}
    (noBar : CodePoint.ofChar '|' ∉ label) (rest : Text) :
    pipeLabelAt ((Text.ofString arrow ++ CodePoint.ofChar '|' :: label ++ [CodePoint.ofChar '|']) ++ rest) =
      some (((Text.ofString arrow).length, (Text.ofString arrow).length + (label.length + 2)),
        (Text.ofString arrow ++ CodePoint.ofChar '|' :: label ++ [CodePoint.ofChar '|']).length) := by
  obtain ⟨more, found⟩ := arrowsAt_arrow mem (label ++ CodePoint.ofChar '|' :: rest)
  have split : (Text.ofString arrow ++ CodePoint.ofChar '|' :: label ++ [CodePoint.ofChar '|']) ++ rest =
      Text.ofString arrow ++ CodePoint.ofChar '|' :: (label ++ CodePoint.ofChar '|' :: rest) := by
    simp
  unfold pipeLabelAt
  rw [split, found, List.findSome?_cons]
  simp only [skipBlanks_bar, dropWhile_ne_bar noBar]
  simp only [if_true, List.length_append, List.length_cons, List.length_nil, Option.some.injEq,
    Prod.mk.injEq]
  omega

theorem pipeTail_arrow {arrow : String} (mem : arrow ∈ arrows) {label W dst r : Text}
    (noBar : CodePoint.ofChar '|' ∉ label) (target : target? W = some (dst, r)) :
    pipeTail (CodePoint.ofChar ' ' :: (Text.ofString arrow ++ CodePoint.ofChar '|' ::
      (label ++ CodePoint.ofChar '|' :: W))) = some (Text.ofString arrow, label, dst, r) := by
  obtain ⟨more, found⟩ := arrowsAt_arrow mem (label ++ CodePoint.ofChar '|' :: W)
  unfold pipeTail
  rw [skipBlanks_space, skipBlanks_append_of_head (arrows_ne arrow mem) (arrows_head_solid arrow mem),
    found, List.findSome?_cons]
  simp only [skipBlanks_bar, dropWhile_ne_bar noBar, takeWhile_ne_bar noBar]
  simp [target]

theorem closeAt_of_head {y : CodePoint} (notDash : y ∉ dashes) (t : Text) : closeAt (y :: t) = none := by
  simp [dashes, Text.ofString] at notDash
  obtain ⟨h1, h2, h3⟩ := notDash
  simp +decide [closeAt, labelClosers, Text.ofString, Text.dropPrefix?, Ne.symm h1, Ne.symm h2, Ne.symm h3]

theorem closeAt_closer {closer : String} (mem : closer ∈ labelClosers) {W dst r : Text}
    (target : target? (CodePoint.ofChar ' ' :: W) = some (dst, r)) :
    closeAt (Text.ofString closer ++ CodePoint.ofChar ' ' :: W) = some (Text.ofString closer, dst, r) := by
  simp only [labelClosers, List.mem_cons, List.not_mem_nil, or_false] at mem
  rcases mem with rfl | rfl | rfl | rfl <;>
    simp +decide [closeAt, labelClosers, Text.ofString, Text.dropPrefix?, target]

theorem shortestLabel_append (acc w : Text) {t : Text} {r : Text × Text × Text}
    (inert : ∀ y ∈ w, y ∉ dashes ∧ y ≠ CodePoint.ofChar '|') (ne : t ≠ []) (close : closeAt t = some r) :
    shortestLabel acc (w ++ t) = some ((w.reverse ++ acc).reverse, r.1, r.2.1, r.2.2) := by
  induction w generalizing acc with
  | nil =>
      obtain ⟨y, t, rfl⟩ := List.exists_cons_of_ne_nil ne
      simp [shortestLabel, close]
  | cons y w ih =>
      obtain ⟨notDash, notBar⟩ := inert y List.mem_cons_self
      rw [List.cons_append, shortestLabel, closeAt_of_head notDash]
      simp only [if_neg notBar]
      rw [ih (y :: acc) fun z mem => inert z (List.mem_cons_of_mem y mem)]
      simp

theorem inlineTail_opener {opener : String} (mem : opener ∈ labelOpeners) {x : CodePoint} {Z : Text}
    (starts : startsInlineLabel x = true) {r : Text × Text × Text × Text}
    (found : shortestLabel [x] Z = some r) :
    inlineTail (CodePoint.ofChar ' ' :: Text.ofString opener ++ x :: Z) =
      some (Text.ofString opener, x :: Z, r.1, r.2.1, r.2.2.1, r.2.2.2) := by
  simp only [labelOpeners, List.mem_cons, List.not_mem_nil, or_false] at mem
  rcases mem with rfl | rfl | rfl <;>
    simp +decide [inlineTail, labelOpeners, Text.ofString, Text.dropPrefix?, skipBlanks, starts, found]

/-! ## Cutting, masking and reading the statement -/

namespace Cutter

/-- A cutter outside quotes, brackets and labels, that has cut nothing yet. -/
structure Fresh (s : Cutter) : Prop where
  depth : s.depth = 0
  quotes : s.inQuotes = false
  pipe : s.inPipe = false
  done : s.done = []

theorem Fresh.of_eq {s s' : Cutter} (fresh : s.Fresh) {buf : Text} {prev : Option CodePoint}
    (eq : s' = { s with buf, prev }) : s'.Fresh := by
  subst eq
  exact ⟨fresh.depth, fresh.quotes, fresh.pipe, fresh.done⟩

end Cutter

theorem pipeLabelAt_of_head {c : CodePoint} (notDash : c ∉ dashes) (u : Text) : pipeLabelAt (c :: u) = none := by
  cases found : pipeLabelAt (c :: u) with
  | none => rfl
  | some r =>
      obtain ⟨⟨d, v, eq, dash⟩, -⟩ := pipeLabelAt_eq_some found
      simp only [List.cons.injEq] at eq
      exact absurd (eq.1 ▸ dash) notDash

theorem pipeLabelAt_of_noBar {u : Text} (noBar : CodePoint.ofChar '|' ∉ u) : pipeLabelAt u = none := by
  cases found : pipeLabelAt u with
  | none => rfl
  | some r => exact absurd (pipeLabelAt_eq_some found).2 noBar

section

variable {a b : Endpoint} (ha : a.WellWritten) (hb : b.WellWritten) {label : Text}
include ha hb

theorem around_arrow : (∀ c ∈ a.written ++ [CodePoint.ofChar ' '], c ∉ dashes ∧ c ≠ CodePoint.ofChar '|') ∧
    ∀ c ∈ CodePoint.ofChar ' ' :: b.written, c ∉ dashes ∧ c ≠ CodePoint.ofChar '|' ∧ c ≠ CodePoint.ofChar ';' := by
  constructor
  · intro c mem
    rcases List.mem_append.1 mem with inA | space
    · have := inert_of_not_mem_edgeMarks (Endpoint.not_mem_edgeMarks ha c inA)
      exact ⟨this.2.2.2, this.2.2.1⟩
    · rw [List.mem_singleton.1 space]
      decide
  · intro c mem
    rcases List.mem_cons.1 mem with rfl | inB
    · decide
    · have := inert_of_not_mem_edgeMarks (Endpoint.not_mem_edgeMarks hb c inB)
      exact ⟨this.2.2.2, this.2.2.1, this.2.1⟩

section pipe

variable {arrow : String} (harrow : arrow ∈ arrows) (noBar : CodePoint.ofChar '|' ∉ label)
include harrow noBar

theorem statements_pipe :
    statements (labelledStatement a (.pipe arrow) label b) = [labelledStatement a (.pipe arrow) label b] := by
  apply statements_of_done
  have split : labelledStatement a (.pipe arrow) label b =
      (a.written ++ CodePoint.ofChar ' ' :: Text.ofString arrow) ++
        CodePoint.ofChar '|' :: (label ++ CodePoint.ofChar '|' :: CodePoint.ofChar ' ' :: b.written) := by
    simp [labelledStatement, LabelForm.written]
  -- up to the bar the cutter stays outside quotes, brackets and labels
  have written : (a.written.foldl Cutter.step {}).Fresh := by
    obtain ⟨buf, prev, eq⟩ := a.foldl_written ha {} rfl rfl rfl
    exact Cutter.Fresh.of_eq ⟨rfl, rfl, rfl, rfl⟩ eq
  have space : ((a.written.foldl Cutter.step {}).step (CodePoint.ofChar ' ')).Fresh :=
    written.of_eq (Cutter.step_plain _ (by decide))
  have arrowed : ((Text.ofString arrow).foldl Cutter.step
      ((a.written.foldl Cutter.step {}).step (CodePoint.ofChar ' '))).Fresh := by
    obtain ⟨buf, prev, eq⟩ := Cutter.foldl_arrow harrow _ space.quotes space.pipe
    exact space.of_eq eq
  obtain ⟨inPipe, opened⟩ := Cutter.step_bar _ arrowed.quotes arrowed.pipe arrowed.depth
  have labelled := Cutter.done_foldl_of_inPipe label (fun c mem eq => noBar (eq ▸ mem)) _ inPipe
  have rest := Cutter.done_foldl b.written (fun c mem => ((around_arrow ha hb).2 c (List.mem_cons_of_mem _ mem)).2.2)
  rw [split]
  simp only [List.foldl_append, List.foldl_cons]
  rw [rest, Cutter.done_step _ (by decide), Cutter.done_step _ (by decide), labelled, opened, arrowed.done]

theorem maskLabels_pipe :
    maskLabels (labelledStatement a (.pipe arrow) label b) =
      a.written ++ CodePoint.ofChar ' ' :: LabelForm.masked (.pipe arrow) label ++
        CodePoint.ofChar ' ' :: b.written := by
  obtain ⟨before, after⟩ := around_arrow ha hb
  have split : labelledStatement a (.pipe arrow) label b =
      (a.written ++ [CodePoint.ofChar ' ']) ++
        ((Text.ofString arrow ++ CodePoint.ofChar '|' :: label ++ [CodePoint.ofChar '|']) ++
          CodePoint.ofChar ' ' :: b.written) := by
    simp [labelledStatement, LabelForm.written]
  have pipes : matchRanges pipeLabelAt (labelledStatement a (.pipe arrow) label b) =
      [((a.written ++ CodePoint.ofChar ' ' :: Text.ofString arrow).length,
        (a.written ++ CodePoint.ofChar ' ' :: Text.ofString arrow).length +
          (CodePoint.ofChar '|' :: label ++ [CodePoint.ofChar '|']).length)] := by
    unfold matchRanges allMatches
    rw [split, scanFrom_append_none 0 _ fun u suffix ne => by
        obtain ⟨d, u', rfl⟩ := List.exists_cons_of_ne_nil ne
        exact pipeLabelAt_of_head (before d (suffix.subset List.mem_cons_self)).1 _,
      scanFrom_append_some _ _ (by simp) (pipeLabelAt_arrow harrow noBar _),
      scanFrom_eq_nil _ fun u suffix _ => pipeLabelAt_of_noBar fun mem => (after _ (suffix.subset mem)).2.1 rfl]
    simp only [List.map_cons, List.map_nil, List.length_append, List.length_cons, List.length_nil,
      List.cons.injEq, Prod.mk.injEq, and_true]
    omega
  have piped : blankRanges (matchRanges pipeLabelAt (labelledStatement a (.pipe arrow) label b))
      (labelledStatement a (.pipe arrow) label b) =
        (a.written ++ [CodePoint.ofChar ' ']) ++ Text.ofString arrow ++
          (blanks (label.length + 2) ++ CodePoint.ofChar ' ' :: b.written) := by
    rw [pipes]
    have whole : labelledStatement a (.pipe arrow) label b =
        (a.written ++ CodePoint.ofChar ' ' :: Text.ofString arrow) ++
          (CodePoint.ofChar '|' :: label ++ [CodePoint.ofChar '|']) ++ CodePoint.ofChar ' ' :: b.written := by
      simp [labelledStatement, LabelForm.written]
    rw [whole, blankRanges_middle]
    simp
  -- no inline label is found in what is left: its dashes all stand in the arrow
  have inlines : matchRanges inlineLabelAt ((a.written ++ [CodePoint.ofChar ' ']) ++ Text.ofString arrow ++
      (blanks (label.length + 2) ++ CodePoint.ofChar ' ' :: b.written)) = [] := by
    have outside : ∀ c ∈ (a.written ++ [CodePoint.ofChar ' ']) ++
        (blanks (label.length + 2) ++ CodePoint.ofChar ' ' :: b.written), c ∉ dashes := by
      intro c mem
      rcases List.mem_append.1 mem with inBefore | inAfter
      · exact (before c inBefore).1
      · rcases List.mem_append.1 inAfter with inBlanks | inB
        · simp only [blanks] at inBlanks
          rw [List.eq_of_mem_replicate inBlanks]
          decide
        · exact (after c inB).1
    have inert : ∀ c ∈ Text.ofString arrow, startsInlineLabel c = false := fun c mem =>
      (arrowChars_inert c (arrows_arrowChars arrow harrow c mem)).2.2.2.2
    unfold matchRanges allMatches
    rw [scanFrom_eq_nil _ fun u suffix _ => by simp [inlineLabelAt, inlineLink?_eq_none outside inert suffix]]
    rfl
  unfold maskLabels
  dsimp only
  rw [piped, inlines, blankRanges_nil]
  simp [LabelForm.masked]

theorem edgeOf?_pipe :
    edgeOf? (labelledStatement a (.pipe arrow) label b) =
      some { source := a.id, target := b.id, label := label.trim, stroke := Stroke.ofArrow (Text.ofString arrow) } := by
  have split : labelledStatement a (.pipe arrow) label b =
      a.written ++ CodePoint.ofChar ' ' :: (Text.ofString arrow ++ CodePoint.ofChar '|' ::
        (label ++ CodePoint.ofChar '|' :: CodePoint.ofChar ' ' :: b.written)) := by
    simp [labelledStatement, LabelForm.written]
  have source := Endpoint.withSource_written ha (k := pipeTail)
    (fun c mem => by simp only [List.head?_cons, Option.mem_def, Option.some.injEq] at mem; subst mem; decide)
    (by
      rw [skipBlanks_space, skipBlanks_append_of_head (arrows_ne arrow harrow) (arrows_head_solid arrow harrow)]
      intro c mem
      rw [List.head?_append_of_ne_nil _ (arrows_ne arrow harrow)] at mem
      exact (dashes_solid c (arrows_head arrow harrow c mem)).1)
    (pipeTail_arrow harrow noBar (Endpoint.target?_written hb))
  have link : pipeLink? (labelledStatement a (.pipe arrow) label b) = some
      { edge := { source := a.id, target := b.id, label := label.trim, stroke := Stroke.ofArrow (Text.ofString arrow) },
        rest := Endpoint.bodyText b.body } := by
    rw [split]
    simp [pipeLink?, source]
  unfold edgeOf?
  rw [firstMatch_of_eq_some link]
  rfl

end pipe

section inline

variable {opener closer : String} (hopen : opener ∈ labelOpeners) (hclose : closer ∈ labelClosers)
  (plain : ∀ c ∈ label, c ∉ Text.ofString "-.=>|;")
include hopen hclose plain

theorem inline_chars : ∀ c ∈ labelledStatement a (.inline opener closer) label b,
    c ≠ CodePoint.ofChar ';' ∧ c ≠ CodePoint.ofChar '|' := by
  have labelChars : ∀ c ∈ label, c ≠ CodePoint.ofChar ';' ∧ c ≠ CodePoint.ofChar '|' := by
    intro c mem
    have notMark := plain c mem
    exact ⟨by rintro rfl; exact notMark (by decide), by rintro rfl; exact notMark (by decide)⟩
  have arrowChar : ∀ c ∈ arrowChars, c ≠ CodePoint.ofChar ';' ∧ c ≠ CodePoint.ofChar '|' :=
    fun c mem => ⟨(arrowChars_inert c mem).2.2.1, (arrowChars_inert c mem).2.2.2.1⟩
  intro c mem
  simp only [labelledStatement, LabelForm.written, List.mem_append, List.mem_cons] at mem
  rcases mem with ((inA | rfl | (inO | inL) | inC) | rfl | inB)
  · have := inert_of_not_mem_edgeMarks (Endpoint.not_mem_edgeMarks ha c inA)
    exact ⟨this.2.1, this.2.2.1⟩
  · decide
  · exact arrowChar c (labelOpeners_arrowChars opener hopen c inO)
  · exact labelChars c inL
  · exact arrowChar c (labelClosers_arrowChars closer hclose c inC)
  · decide
  · have := inert_of_not_mem_edgeMarks (Endpoint.not_mem_edgeMarks hb c inB)
    exact ⟨this.2.1, this.2.2.1⟩

theorem statements_inline :
    statements (labelledStatement a (.inline opener closer) label b) =
      [labelledStatement a (.inline opener closer) label b] :=
  statements_of_done
    ((Cutter.done_foldl _ (fun c mem => (inline_chars ha hb hopen hclose plain c mem).1) {}).trans rfl)

variable (ne : label ≠ [])
include ne

theorem inlineLink?_inline :
    inlineLink? (labelledStatement a (.inline opener closer) label b) = some
      { edge :=
          { source := a.id, target := b.id, label := label.trim,
            stroke := Stroke.ofArrow (Text.ofString opener ++ Text.ofString closer) },
        rawLabel := label,
        labelFrom := label ++ Text.ofString closer ++ CodePoint.ofChar ' ' :: b.written,
        rest := Endpoint.bodyText b.body } := by
  obtain ⟨x, more, rfl⟩ := List.exists_cons_of_ne_nil ne
  have inert : ∀ y ∈ x :: more, y ∉ dashes ∧ y ≠ CodePoint.ofChar '|' ∧ startsInlineLabel y = true := by
    intro y mem
    have notMark := plain y mem
    simp only [dashes, startsInlineLabel, Text.ofString] at notMark ⊢
    simp_all
  have close := closeAt_closer hclose (Endpoint.target?_written hb)
  have label := shortestLabel_append [x] more (fun y mem => ⟨(inert y (List.mem_cons_of_mem x mem)).1,
    (inert y (List.mem_cons_of_mem x mem)).2.1⟩) (by simp) close
  have tail := inlineTail_opener hopen (inert x List.mem_cons_self).2.2 label
  have split : labelledStatement a (.inline opener closer) (x :: more) b =
      a.written ++ (CodePoint.ofChar ' ' :: Text.ofString opener ++ x ::
        (more ++ (Text.ofString closer ++ CodePoint.ofChar ' ' :: b.written))) := by
    simp [labelledStatement, LabelForm.written]
  have source := Endpoint.withSource_written ha
    (fun c mem => by simp only [List.cons_append, List.head?_cons, Option.mem_def, Option.some.injEq] at mem; subst mem; decide)
    (by
      obtain ⟨d, rest, eq⟩ := List.exists_cons_of_ne_nil (labelOpeners_ne opener hopen)
      have dash := labelOpeners_head opener hopen d (by rw [eq]; rfl)
      rw [List.cons_append, skipBlanks_space, eq, List.cons_append,
        skipBlanks_of_head (by simpa using (dashes_solid d dash).2)]
      simpa using (dashes_solid d dash).1)
    tail
  rw [split]
  simp only [inlineLink?, source, Option.map_some]
  simp

theorem maskLabels_inline :
    maskLabels (labelledStatement a (.inline opener closer) label b) =
      a.written ++ CodePoint.ofChar ' ' :: LabelForm.masked (.inline opener closer) label ++
        CodePoint.ofChar ' ' :: b.written := by
  have chars := inline_chars ha hb hopen hclose plain
  have pipes : matchRanges pipeLabelAt (labelledStatement a (.inline opener closer) label b) = [] := by
    unfold matchRanges allMatches
    rw [scanFrom_eq_nil _ fun u suffix _ => pipeLabelAt_of_noBar fun mem => (chars _ (suffix.subset mem)).2 rfl]
    rfl
  have hit : inlineLabelAt (labelledStatement a (.inline opener closer) label b) =
      some (((a.written ++ CodePoint.ofChar ' ' :: Text.ofString opener).length,
        (a.written ++ CodePoint.ofChar ' ' :: Text.ofString opener).length + label.length),
        (a.written ++ CodePoint.ofChar ' ' :: Text.ofString opener ++ label ++ Text.ofString closer ++
          CodePoint.ofChar ' ' :: b.id).length) := by
    simp only [inlineLabelAt, inlineLink?_inline ha hb hopen hclose plain ne, Option.map_some,
      Option.some.injEq, Prod.mk.injEq]
    simp only [labelledStatement, LabelForm.written, Endpoint.written, List.length_append, List.length_cons]
    omega
  have body : ∀ c ∈ Endpoint.bodyText b.body ++ [], c ∉ dashes := fun c mem =>
    (inert_of_not_mem_edgeMarks (Endpoint.not_mem_edgeMarks hb c
      (List.mem_append_right _ (by simpa using mem)))).2.2.2
  have split : labelledStatement a (.inline opener closer) label b =
      (a.written ++ CodePoint.ofChar ' ' :: Text.ofString opener ++ label ++ Text.ofString closer ++
        CodePoint.ofChar ' ' :: b.id) ++ Endpoint.bodyText b.body := by
    simp [labelledStatement, LabelForm.written, Endpoint.written]
  have inlines : matchRanges inlineLabelAt (labelledStatement a (.inline opener closer) label b) =
      [((a.written ++ CodePoint.ofChar ' ' :: Text.ofString opener).length,
        (a.written ++ CodePoint.ofChar ' ' :: Text.ofString opener).length + label.length)] := by
    unfold matchRanges allMatches
    rw [split] at hit ⊢
    rw [scanFrom_append_some 0 _ (by simp) hit, scanFrom_eq_nil _ fun u suffix _ => by
      simp [inlineLabelAt, inlineLink?_eq_none (A := []) body (by simp) (by simpa using suffix)]]
    simp
  have whole : labelledStatement a (.inline opener closer) label b =
      (a.written ++ CodePoint.ofChar ' ' :: Text.ofString opener) ++ label ++
        (Text.ofString closer ++ CodePoint.ofChar ' ' :: b.written) := by
    simp [labelledStatement, LabelForm.written]
  unfold maskLabels
  dsimp only
  rw [pipes, blankRanges_nil, inlines, whole, blankRanges_middle]
  simp [LabelForm.masked]

theorem edgeOf?_inline :
    edgeOf? (labelledStatement a (.inline opener closer) label b) = some
      { source := a.id, target := b.id, label := label.trim,
        stroke := Stroke.ofArrow (Text.ofString opener ++ Text.ofString closer) } := by
  have chars := inline_chars ha hb hopen hclose plain
  have noPipe : firstMatch pipeLink? (labelledStatement a (.inline opener closer) label b) = none :=
    firstMatch_eq_none fun u suffix => by
      cases found : pipeLink? u with
      | none => rfl
      | some l => exact absurd rfl (chars _ (suffix.subset (bar_mem_of_pipeLink? found))).2
  unfold edgeOf?
  rw [noPipe, Option.orElse_none, firstMatch_of_eq_some (inlineLink?_inline ha hb hopen hclose plain ne)]
  rfl

end inline

variable {f : LabelForm}

theorem lines_labelled (fits : f.Fits label) :
    lines (labelledStatement a f label b) = [labelledStatement a f label b] := by
  apply lines_of_unbroken
  have arrowChar : ∀ c ∈ arrowChars, c ∉ lineBreaks := fun c mem => (arrowChars_inert c mem).2.1
  intro c mem
  simp only [labelledStatement, List.mem_append, List.mem_cons] at mem
  rcases mem with (inA | rfl | inF) | rfl | inB
  · exact (inert_of_not_mem_edgeMarks (Endpoint.not_mem_edgeMarks ha c inA)).1
  · decide
  · cases f with
    | pipe arrow =>
        simp only [LabelForm.written, List.mem_append, List.mem_cons, List.not_mem_nil, or_false] at inF
        rcases inF with (inArrow | rfl | inLabel) | rfl
        · exact arrowChar c (arrows_arrowChars arrow fits.1 c inArrow)
        · decide
        · exact fits.2.2 c inLabel
        · decide
    | inline opener closer =>
        simp only [LabelForm.written, List.mem_append] at inF
        rcases inF with (inOpener | inLabel) | inCloser
        · exact arrowChar c (labelOpeners_arrowChars opener fits.1 c inOpener)
        · exact fits.2.2.2.2 c inLabel
        · exact arrowChar c (labelClosers_arrowChars closer fits.2.1 c inCloser)
  · decide
  · exact (inert_of_not_mem_edgeMarks (Endpoint.not_mem_edgeMarks hb c inB)).1

theorem statements_labelled (fits : f.Fits label) :
    statements (labelledStatement a f label b) = [labelledStatement a f label b] := by
  cases f with
  | pipe arrow => exact statements_pipe ha hb fits.1 fits.2.1
  | inline opener closer => exact statements_inline ha hb fits.1 fits.2.1 fits.2.2.2.1

theorem trim_labelled : (labelledStatement a f label b).trim = labelledStatement a f label b := by
  have ne : b.written ≠ [] := by simp [Endpoint.written, hb.id_ne]
  apply trim_eq_self
  · intro c mem
    rw [labelledStatement, List.append_assoc, List.head?_append_of_ne_nil _ (by simp [Endpoint.written, ha.id_ne])] at mem
    exact CodePoint.isBlank_eq_false_of_isIdent (Endpoint.written_head ha c mem)
  · intro c mem
    rw [labelledStatement, List.getLast?_append_of_ne_nil _ (List.cons_ne_nil _ _),
      List.getLast?_cons, List.getLast?_eq_some_getLast ne] at mem
    exact Endpoint.written_last hb c (by rw [List.getLast?_eq_some_getLast ne]; exact mem)

omit hb in
theorem read_labelled (free : a.id ∉ reservedWords.map Text.ofString) :
    Statement.read (labelledStatement a f label b) =
      .elements (declarations (labelledStatement a f label b)) (edgeOf? (labelledStatement a f label b)) := by
  have split : labelledStatement a f label b = a.id ++ (Endpoint.bodyText a.body ++
      (CodePoint.ofChar ' ' :: f.written label ++ CodePoint.ofChar ' ' :: b.written)) := by
    simp [labelledStatement, Endpoint.written]
  rw [split]
  exact read_eq_elements ha.id_ne ha.ident free (by simp)
    (Endpoint.body_head_append ha fun c mem => by
      simp only [List.cons_append, List.head?_cons, Option.mem_def, Option.some.injEq] at mem
      subst mem
      decide)

omit ha hb in
theorem masked_inert (fits : f.Fits label) :
    (∀ c ∈ f.masked label, c.isIdent = false) ∧ (∀ c ∈ (f.masked label).head?, c ∈ dashes) ∧
      f.masked label ≠ [] := by
  have space : ∀ n, ∀ c ∈ blanks n, c.isIdent = false := fun n c mem => by
    simp only [blanks] at mem
    rw [List.eq_of_mem_replicate mem]
    decide
  have arrowChar : ∀ c ∈ arrowChars, c.isIdent = false := fun c mem => (arrowChars_inert c mem).1
  cases f with
  | pipe arrow =>
      have ne := arrows_ne arrow fits.1
      refine ⟨fun c mem => ?_, fun c mem => ?_, by simp [LabelForm.masked, ne]⟩
      · rcases List.mem_append.1 mem with inArrow | inBlanks
        · exact arrowChar c (arrows_arrowChars arrow fits.1 c inArrow)
        · exact space _ c inBlanks
      · rw [LabelForm.masked, List.head?_append_of_ne_nil _ ne] at mem
        exact arrows_head arrow fits.1 c mem
  | inline opener closer =>
      have ne := labelOpeners_ne opener fits.1
      refine ⟨fun c mem => ?_, fun c mem => ?_, by simp [LabelForm.masked, ne]⟩
      · rcases List.mem_append.1 mem with inFront | inCloser
        · rcases List.mem_append.1 inFront with inOpener | inBlanks
          · exact arrowChar c (labelOpeners_arrowChars opener fits.1 c inOpener)
          · exact space _ c inBlanks
        · exact arrowChar c (labelClosers_arrowChars closer fits.2.1 c inCloser)
      · rw [LabelForm.masked, List.append_assoc, List.head?_append_of_ne_nil _ ne] at mem
        exact labelOpeners_head opener fits.1 c mem

theorem maskLabels_labelled (fits : f.Fits label) :
    maskLabels (labelledStatement a f label b) =
      a.written ++ CodePoint.ofChar ' ' :: f.masked label ++ CodePoint.ofChar ' ' :: b.written := by
  cases f with
  | pipe arrow => exact maskLabels_pipe ha hb fits.1 fits.2.1
  | inline opener closer => exact maskLabels_inline ha hb fits.1 fits.2.1 fits.2.2.2.1 fits.2.2.1

/-- Only the bodies of the two ends declare nodes. -/
theorem declarations_labelled (fits : f.Fits label) :
    declarations (labelledStatement a f label b) = a.declaration.toList ++ b.declaration.toList := by
  obtain ⟨notIdent, head, ne⟩ := masked_inert fits
  have split : a.written ++ CodePoint.ofChar ' ' :: f.masked label ++ CodePoint.ofChar ' ' :: b.written =
      a.written ++ ((CodePoint.ofChar ' ' :: f.masked label ++ [CodePoint.ofChar ' ']) ++ (b.written ++ [])) := by
    simp
  have noBody : ∀ c ∈ (skipBlanks ((CodePoint.ofChar ' ' :: f.masked label ++ [CodePoint.ofChar ' ']) ++
      (b.written ++ []))).head?, c ∉ Text.ofString "[(\x7b>" := by
    have solid : ∀ c ∈ (f.masked label).head?, c.isBlank = false := fun c mem => (dashes_solid c (head c mem)).2
    rw [List.cons_append, List.cons_append, skipBlanks_space, List.append_assoc,
      skipBlanks_append_of_head ne solid, List.head?_append_of_ne_nil _ ne]
    exact fun c mem => (dashes_solid c (head c mem)).1
  have between : ∀ u, u <:+ CodePoint.ofChar ' ' :: f.masked label ++ [CodePoint.ofChar ' '] → u ≠ [] →
      declarationAt (u ++ (b.written ++ [])) = none := by
    intro u suffix ne
    obtain ⟨d, u', rfl⟩ := List.exists_cons_of_ne_nil ne
    have mem := suffix.subset List.mem_cons_self
    simp only [List.cons_append, List.mem_cons, List.mem_append, List.not_mem_nil, or_false] at mem
    refine declarationAt_of_not_ident _ ?_
    rcases mem with rfl | inMasked | rfl
    · decide
    · exact notIdent d inMasked
    · decide
  unfold declarations allMatches
  rw [maskLabels_labelled ha hb fits, split,
    Endpoint.scanFrom_written ha (fun c mem => by
      simp only [List.cons_append, List.head?_cons, Option.mem_def, Option.some.injEq] at mem
      subst mem
      decide) noBody,
    scanFrom_append_none _ _ between, Endpoint.scanFrom_written hb (by simp) (by simp [skipBlanks])]
  cases a.declaration <;> cases b.declaration <;> rfl

theorem edgeOf?_labelled (fits : f.Fits label) :
    edgeOf? (labelledStatement a f label b) =
      some { source := a.id, target := b.id, label := label.trim, stroke := f.stroke } := by
  cases f with
  | pipe arrow => exact edgeOf?_pipe ha hb fits.1 fits.2.1
  | inline opener closer => exact edgeOf?_inline ha hb fits.1 fits.2.1 fits.2.2.2.1 fits.2.2.1

theorem sourceStatements_labelled (free : a.id ∉ reservedWords.map Text.ofString) (fits : f.Fits label) :
    sourceStatements (labelledStatement a f label b) =
      [.elements (a.declaration.toList ++ b.declaration.toList)
        (some { source := a.id, target := b.id, label := label.trim, stroke := f.stroke })] := by
  simp only [sourceStatements, lines_labelled ha hb fits, statements_labelled ha hb fits, List.flatMap_cons,
    List.flatMap_nil, List.map_cons, List.map_nil, List.append_nil, trim_labelled ha hb,
    read_labelled ha free, declarations_labelled ha hb fits, edgeOf?_labelled ha hb fits]

end

/-! ## The diagram of the statement -/

namespace Scan

variable (s : Scan)

theorem mem_nodeIds_step_elements (nodes : List (Text × Text × Shape)) (e : Edge) (x : Text) :
    x ∈ (s.step (.elements nodes (some e))).diagram.nodeIds ↔
      x ∈ s.diagram.nodeIds ∨ (∃ d ∈ nodes, d.1 = x) ∨ x = e.source ∨ x = e.target := by
  simp only [step]
  rw [mem_nodeIds_link, mem_nodeIds_foldl_declare, or_assoc]

theorem step_elements_frame (nodes : List (Text × Text × Shape)) (e : Edge) (outside : s.inRegion = false) :
    (s.step (.elements nodes (some e))).diagram.regions = s.diagram.regions ∧
      (s.step (.elements nodes (some e))).diagram.edges = s.diagram.edges ++ [e] := by
  simp only [step]
  obtain ⟨outside', regions, edges⟩ := foldl_declare_frame nodes s outside
  obtain ⟨regions', edges'⟩ := link_frame _ e outside'
  exact ⟨regions'.trans regions, by rw [edges', edges]⟩

theorem node?_foldl_declaration {a : Endpoint} (ha : a.WellWritten)
    (fresh : a.body.isSome → s.diagram.node? a.id = none) (x : Text) :
    (a.declaration.toList.foldl (fun s (id, text, shape) => s.declare id text shape) s).diagram.node? x =
      if a.body.isSome ∧ x = a.id then some a.node else s.diagram.node? x := by
  cases body : a.body with
  | none => simp [Endpoint.declaration, body]
  | some written =>
      obtain ⟨⟨o, c, sh⟩, t⟩ := written
      have decl : a.declaration = some (a.id, clean t, sh) := by simp [Endpoint.declaration, body]
      simp only [decl, Option.toList_some, List.foldl_cons, List.foldl_nil]
      rw [node?_declare_of_none _ _ _ (fresh (by simp [body])), Endpoint.declared_eq_node ha body]
      simp

variable {s} {a b : Endpoint} (ha : a.WellWritten) (hb : b.WellWritten)
  (empty : ∀ x, s.diagram.node? x = none)
include ha hb empty

theorem node?_foldl_declarations (apart : a.body.isSome → b.body.isSome → a.id ≠ b.id) (x : Text) :
    ((a.declaration.toList ++ b.declaration.toList).foldl
        (fun s (id, text, shape) => s.declare id text shape) s).diagram.node? x =
      if b.body.isSome ∧ x = b.id then some b.node
      else if a.body.isSome ∧ x = a.id then some a.node else none := by
  have first := node?_foldl_declaration s ha fun _ => empty a.id
  have fresh : b.body.isSome → (a.declaration.toList.foldl
      (fun s (id, text, shape) => s.declare id text shape) s).diagram.node? b.id = none := by
    intro declared
    rw [first, if_neg fun ⟨declaredA, same⟩ => apart declaredA declared same.symm, empty]
  rw [List.foldl_append, node?_foldl_declaration _ hb fresh, first, empty]

variable {e : Edge} (source : e.source = a.id) (target : e.target = b.id)
include source target

theorem node?_step_first (other : b.id = a.id → b.body = none) :
    (s.step (.elements (a.declaration.toList ++ b.declaration.toList) (some e))).diagram.node? a.id =
      some a.node := by
  have apart : a.body.isSome → b.body.isSome → a.id ≠ b.id := fun _ declared same => by
    simp [other same.symm] at declared
  -- the first end is placed by its declaration or by the edge, and the second end leaves it be
  have placed : ((a.declaration.toList ++ b.declaration.toList).foldl
      (fun s (id, text, shape) => s.declare id text shape) s |>.ensure a.id).diagram.node? a.id =
        some a.node := by
    rw [node?_ensure, if_pos rfl, node?_foldl_declarations ha hb empty apart]
    rcases eq_or_ne a.id b.id with same | differ
    · cases body : a.body <;> simp [body, same, other, Endpoint.node_of_body_eq_none]
    · cases body : a.body <;> simp [body, differ, Endpoint.node_of_body_eq_none]
  simp only [step, node?_link, source, target]
  rw [node?_ensure_of_isSome _ (by rw [placed]; rfl), placed]

theorem node?_step_second (other : a.id = b.id → a.body = none) :
    (s.step (.elements (a.declaration.toList ++ b.declaration.toList) (some e))).diagram.node? b.id =
      some b.node := by
  have apart : a.body.isSome → b.body.isSome → a.id ≠ b.id := fun declared _ same => by
    simp [other same] at declared
  simp only [step, node?_link, source, target]
  rw [node?_ensure, if_pos rfl, node?_ensure]
  simp only [node?_foldl_declarations ha hb empty apart]
  rcases eq_or_ne a.id b.id with same | differ
  · cases body : b.body <;> simp [body, same, other, Endpoint.node_of_body_eq_none]
  · cases body : b.body <;> simp [body, differ.symm, Endpoint.node_of_body_eq_none]

end Scan

end Syntax

open Syntax in
/-- Two ends joined by a labelled arrow, in either form, make a diagram of exactly those two nodes,
no region and the one edge between them, with the trimmed label and the arrow's stroke. Each end
is the node its body declares, or a plain node, unless the other end declares the same id. -/
theorem Diagram.ofSource_labelledEdge {a b : Endpoint} {f : LabelForm} {label : Text}
    (ha : a.WellWritten) (hb : b.WellWritten) (free : a.id ∉ reservedWords.map Text.ofString)
    (fits : f.Fits label) :
    let g := Diagram.ofSource (labelledStatement a f label b)
    (∀ x, x ∈ g.nodeIds ↔ x = a.id ∨ x = b.id) ∧ g.regions = [] ∧
      g.edges = [{ source := a.id, target := b.id, label := label.trim, stroke := f.stroke }] ∧
      ((b.id = a.id → b.body = none) → g.node? a.id = some a.node) ∧
      ((a.id = b.id → a.body = none) → g.node? b.id = some b.node) := by
  intro g
  let s : Scan := { diagram := { direction := headerDirection (labelledStatement a f label b) } }
  let e : Edge := { source := a.id, target := b.id, label := label.trim, stroke := f.stroke }
  have read : g = (s.step (.elements (a.declaration.toList ++ b.declaration.toList) (some e))).diagram := by
    show Diagram.ofSource (labelledStatement a f label b) = _
    rw [Diagram.ofSource, sourceStatements_labelled ha hb free fits]
    rfl
  have empty : ∀ x, s.diagram.node? x = none := fun _ => rfl
  obtain ⟨regions, edges⟩ := Scan.step_elements_frame s _ e rfl
  refine ⟨fun x => ?_, read ▸ regions, read ▸ edges, fun other => ?_, fun other => ?_⟩
  · -- the only declarations are of the two ends, under their ids
    have declared : (∃ d ∈ a.declaration.toList ++ b.declaration.toList, d.1 = x) → x = a.id ∨ x = b.id := by
      rintro ⟨d, mem, rfl⟩
      rcases List.mem_append.1 mem with mem | mem
      · exact Or.inl (a.declaration_id d (Option.mem_toList.1 mem))
      · exact Or.inr (b.declaration_id d (Option.mem_toList.1 mem))
    rw [read, Scan.mem_nodeIds_step_elements]
    constructor
    · rintro (none | decl | ends)
      · simp [s, Diagram.nodeIds] at none
      · exact declared decl
      · exact ends
    · intro ends
      exact Or.inr (Or.inr ends)
  · rw [read]
    exact Scan.node?_step_first ha hb empty rfl rfl other
  · rw [read]
    exact Scan.node?_step_second ha hb empty rfl rfl other

/-- In [A(Start) -->|x; B[y]| B] the label's semicolon, brackets and identifier declare nothing. -/
theorem Diagram.ofSource_labelledEdge_stadium :
    let a : Syntax.Endpoint := ⟨Text.ofString "A", some (("(", ")", .stadium), Text.ofString "Start")⟩
    let b : Syntax.Endpoint := ⟨Text.ofString "B", none⟩
    let f : Syntax.LabelForm := .pipe "-->"
    let label := Text.ofString "x; B[y]"
    (a.WellWritten ∧ b.WellWritten ∧ a.id ∉ Syntax.reservedWords.map Text.ofString ∧ f.Fits label) ∧
    let g := Diagram.ofSource (Syntax.labelledStatement a f label b)
    (∀ x, x ∈ g.nodeIds ↔ x = a.id ∨ x = b.id) ∧ g.regions = [] ∧
      g.edges = [{ source := a.id, target := b.id, label := label.trim, stroke := f.stroke }] ∧
      ((b.id = a.id → b.body = none) → g.node? a.id = some a.node) ∧
      ((a.id = b.id → a.body = none) → g.node? b.id = some b.node) :=
  ⟨⟨by decide, by decide, by decide, by decide⟩,
    Diagram.ofSource_labelledEdge (by decide) (by decide) (by decide) (by decide)⟩

end Flowchart
