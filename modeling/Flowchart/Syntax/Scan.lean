import Flowchart.Syntax.Statement
import Flowchart.Syntax.Header

/-!
# Reading a flowchart

A flowchart is read statement by statement, in order, into a diagram; nothing in a source is an
error, and what cannot be read is passed over.

* A node declaration adds a node, or gives an existing node its text and shape when the text is not
  empty and is not the id; otherwise it changes nothing.
* An edge adds its ends as plain nodes when they are new, then the edge.
* `subgraph title` opens a region `subgraph_n`, `n` counting the regions opened before it; the
  region open before it, if any, is left. `end` closes the open region.
* Each node added, and each node a declaration changes, joins the open region.
-/

set_option autoImplicit false

namespace Flowchart

namespace Syntax

/-- The diagram read so far, and whether its last region is open. -/
structure Scan where
  diagram : Diagram
  inRegion : Bool := false

namespace Scan

def mapLast {β : Type} (f : β → β) : List β → List β
  | [] => []
  | [x] => [f x]
  | x :: y :: more => x :: mapLast f (y :: more)

def attach (s : Scan) (id : Text) : Scan :=
  if s.inRegion then
    { s with diagram := { s.diagram with regions := mapLast (·.addMember id) s.diagram.regions } }
  else s

def openRegion (s : Scan) (title : Text) : Scan :=
  let id := Text.ofString "subgraph_" ++ Text.ofNat s.diagram.regions.length
  { diagram := { s.diagram with regions := s.diagram.regions ++ [{ id, title }] }, inRegion := true }

/-- Declares a node: a new one is added, an existing one takes a text that is not empty and not
its id, with the shape. -/
def declare (s : Scan) (id text : Text) (shape : Shape) : Scan :=
  match s.diagram.node? id with
  | none => (({ s with diagram := s.diagram.putNode (Node.declared id text shape) }) : Scan).attach id
  | some n =>
    if !text.isEmpty && text ≠ id then
      (({ s with diagram := s.diagram.putNode { n with text, shape } }) : Scan).attach id
    else s

/-- Adds a plain node unless the id is taken. -/
def ensure (s : Scan) (id : Text) : Scan :=
  if s.diagram.hasNode id then s
  else (({ s with diagram := s.diagram.putNode (Node.bare id) }) : Scan).attach id

/-- Adds an edge and its ends. -/
def link (s : Scan) (e : Edge) : Scan :=
  let s := (s.ensure e.source).ensure e.target
  { s with diagram := { s.diagram with edges := s.diagram.edges ++ [e] } }

/-- Applies one statement. -/
def step (s : Scan) : Statement → Scan
  | .nothing => s
  | .openRegion title => s.openRegion title
  | .closeRegion => { s with inRegion := false }
  | .elements nodes edge =>
    let s := nodes.foldl (fun s (id, text, shape) => s.declare id text shape) s
    match edge with
    | some e => s.link e
    | none => s

theorem length_mapLast {β : Type} (f : β → β) : ∀ xs : List β, (mapLast f xs).length = xs.length
  | [] => rfl
  | [_] => rfl
  | _ :: y :: more => by simp [mapLast, length_mapLast f (y :: more)]

theorem map_mapLast {β γ : Type} {f : β → β} {g : β → γ} (keeps : ∀ x, g (f x) = g x) :
    ∀ xs : List β, (mapLast f xs).map g = xs.map g
  | [] => rfl
  | [x] => by simp [mapLast, keeps]
  | x :: y :: more => by simp [mapLast, map_mapLast keeps (y :: more)]

theorem mem_mapLast {β : Type} {f : β → β} {x : β} :
    ∀ {xs : List β}, x ∈ mapLast f xs → x ∈ xs ∨ ∃ y ∈ xs, x = f y
  | [], mem => by simp [mapLast] at mem
  | [y], mem => Or.inr ⟨y, by simp, by simpa [mapLast] using mem⟩
  | y :: z :: more, mem => by
      simp only [mapLast, List.mem_cons] at mem
      rcases mem with rfl | mem
      · exact Or.inl (by simp)
      · rcases @mem_mapLast _ f x (z :: more) (by simpa using mem) with old | ⟨w, mem', rfl⟩
        · exact Or.inl (List.mem_cons_of_mem _ old)
        · exact Or.inr ⟨w, List.mem_cons_of_mem _ mem', rfl⟩

@[simp] theorem nodes_attach (s : Scan) (id : Text) : (s.attach id).diagram.nodes = s.diagram.nodes := by
  unfold attach
  split <;> rfl

@[simp] theorem edges_attach (s : Scan) (id : Text) : (s.attach id).diagram.edges = s.diagram.edges := by
  unfold attach
  split <;> rfl

@[simp] theorem hasNode_attach (s : Scan) (id x : Text) :
    (s.attach id).diagram.hasNode x = s.diagram.hasNode x := by
  simp [Diagram.hasNode]

theorem regions_attach (s : Scan) (id : Text) : (s.attach id).diagram.regions =
    if s.inRegion then mapLast (·.addMember id) s.diagram.regions else s.diagram.regions := by
  unfold attach
  split <;> rfl

end Scan

/-- The type of diagram a source holds, judged by its first line that is neither blank nor a
comment: one that starts with `flowchart` or `graph`, in either case, is a flowchart. Flowcharts are
the only type read, so every other source is taken for one too. -/
def diagramType (src : Text) : String :=
  match ((lines src.trim).map Text.trim).find? fun l =>
      !l.isEmpty && (Text.dropPrefix? (Text.ofString "%%") l).isNone with
  | some l => if (keyword? "flowchart" l).isSome || (keyword? "graph" l).isSome then "flowchart" else "flowchart"
  | none => "flowchart"

theorem diagramType_eq_flowchart (src : Text) : diagramType src = "flowchart" := by
  unfold diagramType
  split
  · split <;> rfl
  · rfl

def sourceStatements (src : Text) : List Statement :=
  (lines src).flatMap fun line => (statements line).map fun stmt => Statement.read stmt.trim

end Syntax

/-- The diagram a flowchart source describes. -/
def Diagram.ofSource (src : Text) : Diagram :=
  ((Syntax.sourceStatements src).foldl Syntax.Scan.step
    { diagram := { direction := Syntax.headerDirection src } }).diagram

end Flowchart
