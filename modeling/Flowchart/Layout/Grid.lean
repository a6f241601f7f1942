import Flowchart.Layout.Topology
import Flowchart.Layout.Settings
import Flowchart.Json

/-!
# The grid layout

Each node gets a cell of a grid: its layer gives one coordinate and its place in the layer the other.
For a vertical direction layers are rows and the places in a layer columns; for a horizontal one
layers are columns and places rows. A reversed direction (`RL`, `BT`) takes the layers from the
last to the first. Every node has the same size; a node the layers give no place would keep the box
it has.

A region's box is the smallest box around its members that are nodes, each in the box it was just
given, padded on every side; a region with no such member has no box.

Laying a diagram out writes these boxes into its nodes and regions and changes nothing else. The
record of a diagram is the JSON document renderers read: the direction's token, then the nodes (id,
text, shape name and box), the edges (ends, label and stroke name) and the regions (id, title,
members and box), each in the diagram's order. A region without a box shows `0, 0, 0, 0`.
-/

set_option autoImplicit false

namespace Flowchart

/-- A diagram laid out: its layers, a box for each node, in node order, and a box or none for each
region, in region order. -/
structure Drawing where
  diagram : Diagram
  layers : List (List Text)
  nodeBoxes : List Box
  regionBoxes : List (Option Box)
deriving Repr

namespace Layout

/-- The layer of a node and its place in that layer. -/
def cellOf (layers : List (List Text)) (id : Text) : Option (Nat × Nat) :=
  (layers.zipIdx.findSome? fun (layer, i) => (layer.idxOf? id).map fun order => (i, order))

/-- The box of the node in layer `layer`, place `order`, when there are `count` layers. -/
def cellBox (s : Settings) (d : Direction) (count layer order : Nat) : Box :=
  let effective : Nat := if d.isReversed then count - 1 - layer else layer
  if d.isHorizontal then
    ⟨effective * s.columnStep, order * s.rowStep, s.nodeWidth, s.nodeHeight⟩
  else
    ⟨order * s.columnStep, effective * s.rowStep, s.nodeWidth, s.nodeHeight⟩

/-- The box around some boxes, padded by `pad` on every side; none for no boxes. -/
def around (pad : Int) : List Box → Option Box
  | [] => none
  | b :: bs =>
    let minX := bs.foldl (fun m c => min m c.x) b.x
    let minY := bs.foldl (fun m c => min m c.y) b.y
    let maxX := bs.foldl (fun m c => max m (c.x + c.width)) (b.x + b.width)
    let maxY := bs.foldl (fun m c => max m (c.y + c.height)) (b.y + b.height)
    some ⟨minX - pad, minY - pad, maxX - minX + 2 * pad, maxY - minY + 2 * pad⟩

end Layout

namespace Diagram

/-- The box the layout on `layers` gives the node with id `id`: the cell of its place, or the box
the node has when the layers give it no place. -/
def placedBox (g : Diagram) (s : Settings) (layers : List (List Text)) (id : Text) : Box :=
  match Layout.cellOf layers id with
  | some (layer, order) => Layout.cellBox s g.direction layers.length layer order
  | none => ((g.node? id).map (·.box)).getD Box.none

/-- The box of a region, around the members that are nodes, each in its box `boxOf`. -/
def regionBox (g : Diagram) (s : Settings) (boxOf : Text → Box) (r : Region) : Option Box :=
  Layout.around s.regionPadding ((r.members.filter g.hasNode).map boxOf)

/-- Lays a diagram out on the grid. -/
def draw (g : Diagram) (s : Settings) : Drawing :=
  let layers := (Topology.ofDiagram g).layers
  let boxOf := g.placedBox s layers
  { diagram := g, layers, nodeBoxes := g.nodes.map fun n => boxOf n.id,
    regionBoxes := g.regions.map (g.regionBox s boxOf) }

/-- The diagram laid out: each node takes its box and each region its box or none. -/
def layout (g : Diagram) (s : Settings) : Diagram :=
  let boxOf := g.placedBox s (Topology.ofDiagram g).layers
  { g with
    nodes := g.nodes.map fun n => { n with box := boxOf n.id }
    regions := g.regions.map fun r => { r with bounds := g.regionBox s boxOf r }
    nodup := by
      rw [List.map_map]
      exact g.nodup }

end Diagram

/-- The record of a node in a box. -/
def Node.record (n : Node) (b : Box) : Json :=
  Json.object [("id", .str n.id), ("text", .str n.text), ("type", Json.text n.shape.name),
    ("x", .num b.x), ("y", .num b.y), ("width", .num b.width), ("height", .num b.height)]

/-- The record of an edge. -/
def Edge.record (e : Edge) : Json :=
  Json.object [("from", .str e.source), ("to", .str e.target), ("label", .str e.label),
    ("style", Json.text e.stroke.name)]

/-- The record of a region in a box. -/
def Region.record (r : Region) (b : Box) : Json :=
  Json.object [("id", .str r.id), ("title", .str r.title), ("nodes", .arr (r.members.map .str)),
    ("x", .num b.x), ("y", .num b.y), ("width", .num b.width), ("height", .num b.height)]

/-- The record of a diagram with a box for each node and each region, in order; items without a box
show `Box.none`. -/
def Diagram.recordIn (g : Diagram) (nodeBoxes : List Box) (regionBoxes : List (Option Box)) : Json :=
  Json.object [("direction", Json.text g.direction.token),
    ("nodes", .arr (g.nodes.zipIdx.map fun (n, i) => n.record (nodeBoxes.getD i Box.none))),
    ("edges", .arr (g.edges.map Edge.record)),
    ("subgraphs", .arr (g.regions.zipIdx.map fun (r, i) =>
      r.record ((regionBoxes.getD i none).getD Box.none)))]

/-- The record of a diagram, each node and region in its own box. -/
def Diagram.record (g : Diagram) : Json := g.recordIn (g.nodes.map (·.box)) (g.regions.map (·.bounds))

def Drawing.record (d : Drawing) : Json := d.diagram.recordIn d.nodeBoxes d.regionBoxes

end Flowchart
