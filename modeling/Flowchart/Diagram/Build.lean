import Flowchart.Diagram.Basic

/-!
# Diagrams built from their parts

A diagram can be given directly, part by part, with directions, shapes and strokes named by text.
Such a diagram can hold what no flowchart source produces, such as edges to ids that are no nodes
or region members that are no nodes. Names are checked in the order direction, nodes, edges; a
node given twice keeps its first place and its last contents, and a region lists each member once.
-/

set_option autoImplicit false

namespace Flowchart

/-- A node as given: its id, its text (empty for the id) and its shape's name. -/
structure NodeSpec where
  id : Text
  text : Text := []
  shape : Text := Text.ofString "rectangle"

/-- An edge as given: its ends, its label and its stroke's name. -/
structure EdgeSpec where
  source : Text
  target : Text
  label : Text := []
  stroke : Text := Text.ofString "solid"

/-- A region as given: its id (`subgraph_i` for the `i`-th region when none), title and members. -/
structure RegionSpec where
  id : Option Text := none
  title : Text := []
  members : List Text := []

/-- A diagram as given; without a direction it flows top-down. -/
structure DiagramSpec where
  direction : Option Text := none
  nodes : List NodeSpec := []
  edges : List EdgeSpec := []
  regions : List RegionSpec := []

namespace NodeSpec

def build (n : NodeSpec) : Except Fault Node :=
  match Shape.ofName? n.shape with
  | some shape => .ok (Node.declared n.id n.text shape)
  | none => .error (.unknownShape n.shape)

end NodeSpec

namespace EdgeSpec

def build (e : EdgeSpec) : Except Fault Edge :=
  match Stroke.ofName? e.stroke with
  | some stroke => .ok { source := e.source, target := e.target, label := e.label, stroke }
  | none => .error (.unknownStroke e.stroke)

end EdgeSpec

def dedup (xs : List Text) : List Text :=
  xs.foldl (fun acc x => if acc.contains x then acc else acc ++ [x]) []

namespace RegionSpec

def build (r : RegionSpec) (i : Nat) : Region :=
  { id := r.id.getD (Text.ofString "subgraph_" ++ Text.ofNat i), title := r.title,
    members := dedup r.members }

end RegionSpec

namespace DiagramSpec

def build (spec : DiagramSpec) : Except Fault Diagram := do
  let direction ← match spec.direction with
    | some token => Direction.parse token
    | none => pure .td
  let nodes ← spec.nodes.mapM NodeSpec.build
  let edges ← spec.edges.mapM EdgeSpec.build
  let g : Diagram := nodes.foldl Diagram.putNode { direction }
  pure { g with edges, regions := spec.regions.zipIdx.map fun (r, i) => r.build i }

end DiagramSpec

end Flowchart
