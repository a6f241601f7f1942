import Flowchart.Proofs.LabelledEdges

/-! # Reading as a run of events

A statement acts on the diagram one event at a time: the node declarations it holds, from the left,
then the two ends of its edge and the edge itself; or it opens or closes a region. Reading a source
applies the events of its statements in order (`Flowchart.Diagram.ofSource_eq_foldl_apply`).

Under each id a run leaves what the events about that id fix (`Flowchart.Syntax.Scan.node?_foldl_apply`):
nothing when there is none; else the text and shape of the last declaration that gives the node a
text, one that is neither empty nor the id; else the id as text, with the shape of the first event,
a rectangle when that is an edge's end. The last such declaration wins, and a declaration without a
text never undoes one (`Flowchart.Diagram.ofSource_textAndShape`). -/

set_option autoImplicit false

namespace Flowchart

namespace Syntax

/-- One thing a statement does to the diagram. -/
inductive Event where
  /-- Declare a node with a text and a shape. -/
  | declare (id text : Text) (shape : Shape)
  /-- Make sure an end of an edge is a node. -/
  | endpoint (id : Text)
  /-- Add an edge. -/
  | edge (e : Edge)
  /-- Open a region with a title. -/
  | openRegion (title : Text)
  /-- Close the open region. -/
  | closeRegion
deriving DecidableEq, Repr

namespace Event

/-- The id of the node an event is about. -/
def subject : Event → Option Text
  | declare id _ _ => some id
  | endpoint id => some id
  | _ => none

/-- Whether an event declares a text for its node: one that is neither empty nor the id. -/
def informative : Event → Bool
  | declare id text _ => !text.isEmpty && text != id
  | _ => false

/-- The text an event declares. -/
def text : Event → Text
  | declare _ text _ => text
  | _ => []

/-- The shape an event gives the node it creates. -/
def shape : Event → Shape
  | declare _ _ shape => shape
  | _ => .rectangle

/-- What the node under `id` is after the event, given what it was before: a declaration with a
text sets text and shape, and the node keeps its box; otherwise a first event about the node creates
it with the id as text. -/
def settle (e : Event) (id : Text) (before : Option Node) : Option Node :=
  if e.subject = some id then
    if e.informative then
      some { id, text := e.text, shape := e.shape, box := (before.map (·.box)).getD Box.none }
    else some (before.getD { id, text := id, shape := e.shape })
  else before

end Event

/-- The events of a statement, in order. -/
def Statement.events : Statement → List Event
  | .nothing => []
  | .openRegion title => [.openRegion title]
  | .closeRegion => [.closeRegion]
  | .elements nodes edge =>
    nodes.map (fun (id, text, shape) => .declare id text shape) ++
      (edge.map fun e => [.endpoint e.source, .endpoint e.target, .edge e]).getD []

/-- The events of a source, in order. -/
def sourceEvents (src : Text) : List Event := (sourceStatements src).flatMap Statement.events

/-- The events of a run about the node `id`, in order. -/
def eventsFor (id : Text) (evs : List Event) : List Event := evs.filter (·.subject == some id)

/-- The node a run of events leaves under `id`: none when no event is about it; else the text and
shape of its last informative declaration; else the id as text, with its first event's shape. -/
def settled (evs : List Event) (id : Text) : Option Node :=
  (eventsFor id evs).head?.map fun first =>
    match ((eventsFor id evs).filter Event.informative).getLast? with
    | some last => { id, text := last.text, shape := last.shape }
    | none => { id, text := id, shape := first.shape }

theorem eventsFor_append (id : Text) (evs evs' : List Event) :
    eventsFor id (evs ++ evs') = eventsFor id evs ++ eventsFor id evs' := by
  simp [eventsFor, List.filter_append]

theorem eventsFor_singleton (id : Text) (e : Event) :
    eventsFor id [e] = if e.subject = some id then [e] else [] := by
  by_cases about : e.subject = some id <;> simp [eventsFor, about]

theorem eventsFor_eq_nil_iff (id : Text) (evs : List Event) :
    eventsFor id evs = [] ↔ ∀ e ∈ evs, e.subject ≠ some id := by
  simp [eventsFor, List.filter_eq_nil_iff]

theorem settled_eq_none_iff (evs : List Event) (id : Text) :
    settled evs id = none ↔ eventsFor id evs = [] := by
  simp [settled]

theorem box_settled (evs : List Event) (id : Text) : ((settled evs id).map (·.box)).getD Box.none = Box.none := by
  unfold settled
  cases (eventsFor id evs).head? with
  | none => rfl
  | some first => cases ((eventsFor id evs).filter Event.informative).getLast? <;> rfl

theorem settled_append (evs : List Event) (e : Event) (id : Text) :
    settled (evs ++ [e]) id = e.settle id (settled evs id) := by
  unfold Event.settle
  by_cases about : e.subject = some id
  · rw [if_pos about]
    have mine : eventsFor id (evs ++ [e]) = eventsFor id evs ++ [e] := by
      rw [eventsFor_append, eventsFor_singleton, if_pos about]
    by_cases informs : e.informative
    · -- the event is the last informative one
      rw [if_pos informs, box_settled]
      simp [settled, mine, List.filter_append, informs]
    · rw [if_neg informs]
      have kept : ((eventsFor id evs ++ [e]).filter Event.informative) =
          (eventsFor id evs).filter Event.informative := by
        simp [List.filter_append, informs]
      cases first : eventsFor id evs with
      | nil => simp [settled, mine, first, informs]
      | cons f rest =>
          rw [settled, settled, mine, kept, first]
          simp
  · rw [if_neg about]
    have mine : eventsFor id (evs ++ [e]) = eventsFor id evs := by
      rw [eventsFor_append, eventsFor_singleton, if_neg about, List.append_nil]
    simp only [settled, mine]

namespace Scan

open Diagram

/-- Applies one event. -/
def apply (s : Scan) : Event → Scan
  | .declare id text shape => s.declare id text shape
  | .endpoint id => s.ensure id
  | .edge e => { s with diagram := { s.diagram with edges := s.diagram.edges ++ [e] } }
  | .openRegion title => s.openRegion title
  | .closeRegion => { s with inRegion := false }

theorem step_eq_foldl_apply (s : Scan) (st : Statement) : s.step st = st.events.foldl apply s := by
  cases st with
  | nothing => rfl
  | openRegion title => rfl
  | closeRegion => rfl
  | elements nodes edge =>
      rw [Statement.events, List.foldl_append, List.foldl_map]
      cases edge <;> rfl

theorem foldl_step (sts : List Statement) (s : Scan) :
    sts.foldl step s = (sts.flatMap Statement.events).foldl apply s := by
  simp only [List.foldl_flatMap, ← step_eq_foldl_apply]

theorem node?_declare_of_ne (s : Scan) {x id : Text} (text : Text) (shape : Shape) (other : x ≠ id) :
    (s.declare x text shape).diagram.node? id = s.diagram.node? id := by
  unfold declare
  split
  · simp [node?_putNode, Node.declared, Ne.symm other]
  · rename_i n found
    have named : n.id = x := (Diagram.mem_of_node?_eq_some found).2
    split
    · simp [node?_putNode, named, Ne.symm other]
    · rfl

theorem node?_apply (s : Scan) (e : Event) (id : Text) :
    (s.apply e).diagram.node? id = e.settle id (s.diagram.node? id) := by
  cases e with
  | declare x text shape =>
      by_cases same : x = id
      · subst same
        simp only [apply, Event.settle, Event.subject, if_true, Event.informative, Event.text,
          Event.shape]
        unfold declare
        cases found : s.diagram.node? x with
        | none =>
            simp only [node?_attach, node?_putNode, Node.declared, if_true]
            by_cases empty : text.isEmpty <;> by_cases named : text = x <;>
              simp [empty, named]
        | some n =>
            have same : n.id = x := (Diagram.mem_of_node?_eq_some found).2
            by_cases informs : (!text.isEmpty && text != x) = true
            · have informs' : (!text.isEmpty && decide (text ≠ x)) = true := by simpa using informs
              simp only [informs', if_true, informs, node?_attach, node?_putNode]
              rw [if_pos same.symm]
              obtain ⟨id', text', shape'⟩ := n
              cases same
              rfl
            · have informs' : (!text.isEmpty && decide (text ≠ x)) = false := by simpa using informs
              simp only [informs', Bool.false_eq_true, if_false, informs, found, Option.getD_some]
      · simp [apply, Event.settle, Event.subject, same, node?_declare_of_ne s text shape same]
  | endpoint x =>
      simp only [apply, node?_ensure, Event.settle, Event.subject, Option.some.injEq]
      by_cases same : x = id
      · subst same
        simp [Event.informative, Event.shape, Node.bare]
      · simp [same, Ne.symm same]
  | edge e => rfl
  | openRegion title => rfl
  | closeRegion => rfl

/-- From a scan without nodes, a run leaves under each id the node `Flowchart.Syntax.settled` says. -/
theorem node?_foldl_apply (evs : List Event) {s : Scan} (empty : ∀ id, s.diagram.node? id = none)
    (id : Text) : (evs.foldl apply s).diagram.node? id = settled evs id := by
  induction evs using List.reverseRecOn generalizing id with
  | nil => exact empty id
  | append_singleton evs e ih => rw [List.foldl_append, List.foldl_cons, List.foldl_nil,
      node?_apply, ih, settled_append]

end Scan

end Syntax

/-- Reading a source applies the events of its statements in order. -/
theorem Diagram.ofSource_eq_foldl_apply (src : Text) :
    Diagram.ofSource src = ((Syntax.sourceEvents src).foldl Syntax.Scan.apply
      { diagram := { direction := Syntax.headerDirection src } }).diagram := by
  rw [Diagram.ofSource, Syntax.Scan.foldl_step]
  rfl

namespace Syntax

theorem subject_of_mem_eventsFor {id : Text} {evs : List Event} {e : Event} (mem : e ∈ eventsFor id evs) :
    e.subject = some id := by
  simpa [eventsFor] using (List.mem_filter.1 mem).2

end Syntax

open Syntax in
/-- Each node of a diagram read from a source shows what the source's events about it say, taken in
order (statements in order; in a statement, its declarations from the left, then its edge's ends).
When some declaration gives the node a text, neither empty nor its id, the node has the text and
shape of the last one. Otherwise, when its first event is a declaration, it has that declaration's
shape and shows its id; otherwise it is a rectangle showing its id. -/
theorem Diagram.ofSource_textAndShape (src : Text) (n : Node) (mem : n ∈ (Diagram.ofSource src).nodes) :
    let mine := eventsFor n.id (sourceEvents src)
    (∀ text shape, (mine.filter Event.informative).getLast? = some (.declare n.id text shape) →
      n.text = text ∧ n.shape = shape) ∧
    (mine.filter Event.informative = [] → ∀ text shape, mine.head? = some (.declare n.id text shape) →
      n.text = n.id ∧ n.shape = shape) ∧
    (mine.filter Event.informative = [] → (∀ text shape, mine.head? ≠ some (.declare n.id text shape)) →
      n.text = n.id ∧ n.shape = .rectangle) := by
  intro mine
  have found := (Diagram.ofSource src).node?_eq_some_of_mem mem
  rw [Diagram.ofSource_eq_foldl_apply, Scan.node?_foldl_apply _ (fun _ => rfl)] at found
  obtain ⟨first, head, shown⟩ := Option.map_eq_some_iff.1 found
  have plain : mine.filter Event.informative = [] → n = { id := n.id, text := n.id, shape := first.shape } := by
    intro none
    simp only [mine] at none
    rw [none] at shown
    exact shown.symm
  refine ⟨fun text shape last => ?_, fun none text shape declared => ?_, fun none notDeclared => ?_⟩
  · simp only [mine] at last
    rw [last] at shown
    rw [← shown]
    exact ⟨rfl, rfl⟩
  · have same : first = .declare n.id text shape := Option.some.inj (head.symm.trans declared)
    rw [plain none, same]
    exact ⟨rfl, rfl⟩
  · have about := subject_of_mem_eventsFor (List.mem_of_mem_head? head)
    rw [plain none]
    cases first with
    | declare x text shape =>
        cases about
        exact absurd head (notDeclared text shape)
    | endpoint x => exact ⟨rfl, rfl⟩
    | edge e => cases about
    | openRegion title => cases about
    | closeRegion => cases about

/-- In `A[Hello] --> B`, `A{World}`, `A[]`, `A(A)`, the last declaration with a text wins and the
later ones without a text leave it. -/
theorem Diagram.ofSource_textAndShape_redeclared :
    let src := Text.ofString "A[Hello] --> B\nA{World}\nA[]\nA(A)"
    let n : Node := { id := Text.ofString "A", text := Text.ofString "World", shape := .diamond }
    n ∈ (Diagram.ofSource src).nodes ∧
    let mine := Syntax.eventsFor n.id (Syntax.sourceEvents src)
    (∀ text shape, (mine.filter Syntax.Event.informative).getLast? = some (.declare n.id text shape) →
      n.text = text ∧ n.shape = shape) ∧
    (mine.filter Syntax.Event.informative = [] → ∀ text shape, mine.head? = some (.declare n.id text shape) →
      n.text = n.id ∧ n.shape = shape) ∧
    (mine.filter Syntax.Event.informative = [] → (∀ text shape, mine.head? ≠ some (.declare n.id text shape)) →
      n.text = n.id ∧ n.shape = .rectangle) :=
  ⟨by decide +kernel, Diagram.ofSource_textAndShape _ _ (by decide +kernel)⟩

end Flowchart
