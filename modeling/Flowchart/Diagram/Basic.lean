import Flowchart.Diagram.Direction
import Flowchart.Diagram.Shape

/-!
# Diagrams

A diagram is a direction, nodes in the order they were first declared, edges in the order they were
written, and regions (a titled group of node ids, a node belonging to a region at most once). An edge
names its ends by id; nothing forces an edge's ends or a region's members to be nodes of the
diagram, and a laid-out diagram simply ignores those that are not.

Declaring a node whose id is already taken replaces that node where it stands: node ids stay unique.

A node has a box and a region may have one; laying a diagram out writes them. A diagram read from a
source has every box `0, 0, 0, 0` and no region box.
-/

set_option autoImplicit false

namespace Flowchart

/-- An axis-aligned box: its top-left corner, its width and its height. -/
structure Box where
  x : Int
  y : Int
  width : Int
  height : Int
deriving DecidableEq, Repr, Inhabited

def Box.none : Box := ⟨0, 0, 0, 0⟩

/-- A node: its id, the text shown in it, its shape and its box. -/
structure Node where
  id : Text
  text : Text
  shape : Shape := .rectangle
  box : Box := Box.none
deriving DecidableEq, Repr, Inhabited

/-- An edge from the node `source` to the node `target`. -/
structure Edge where
  source : Text
  target : Text
  label : Text := []
  stroke : Stroke := .solid
deriving DecidableEq, Repr, Inhabited

/-- A titled group of nodes, with the box around them once laid out. -/
structure Region where
  id : Text
  title : Text
  members : List Text := []
  bounds : Option Box := none
deriving DecidableEq, Repr, Inhabited

namespace Node

/-- A node as declared: an empty text shows the id instead. -/
def declared (id text : Text) (shape : Shape) : Node :=
  { id, text := if text.isEmpty then id else text, shape }

/-- A node known only from an edge: a rectangle showing its id. -/
def bare (id : Text) : Node := { id, text := id }

end Node

namespace Region

def addMember (r : Region) (id : Text) : Region :=
  if r.members.contains id then r else { r with members := r.members ++ [id] }

end Region

/-- A flowchart. -/
structure Diagram where
  direction : Direction := .td
  nodes : List Node := []
  edges : List Edge := []
  regions : List Region := []
  /-- No two nodes share an id, so a node is found by its id. -/
  nodup : (nodes.map (·.id)).Nodup := by exact List.nodup_nil
deriving DecidableEq, Repr, Inhabited

namespace Diagram

def node? (g : Diagram) (id : Text) : Option Node := g.nodes.find? fun n => n.id = id

def hasNode (g : Diagram) (id : Text) : Bool := g.nodes.any fun n => n.id = id

def nodeIds (g : Diagram) : List Text := g.nodes.map (·.id)

theorem map_id_replace (nodes : List Node) (n : Node) :
    (nodes.map fun m => if m.id = n.id then n else m).map (·.id) = nodes.map (·.id) := by
  induction nodes with
  | nil => rfl
  | cons m rest ih =>
      by_cases h : m.id = n.id
      · simp [h, ih]
      · simp [h, ih]

theorem hasNode_iff (g : Diagram) (id : Text) : g.hasNode id = true ↔ id ∈ g.nodeIds := by
  simp only [hasNode, nodeIds, List.any_eq_true, decide_eq_true_eq, List.mem_map]

/-- Puts a node in the diagram: in place of the node with its id, or else last. -/
def putNode (g : Diagram) (n : Node) : Diagram :=
  if h : g.hasNode n.id then
    { g with
      nodes := g.nodes.map fun m => if m.id = n.id then n else m
      nodup := by rw [map_id_replace]; exact g.nodup }
  else
    { g with
      nodes := g.nodes ++ [n]
      nodup := by
        rw [List.map_append, List.nodup_append]
        refine ⟨g.nodup, by simp, ?_⟩
        intro a ha b hb
        simp only [List.map_cons, List.map_nil, List.mem_singleton] at hb
        subst hb
        rintro rfl
        exact h ((hasNode_iff g _).2 ha) }

def isEmpty (g : Diagram) : Bool := g.nodes.isEmpty && g.edges.isEmpty && g.regions.isEmpty

theorem nodeIds_putNode (g : Diagram) (n : Node) :
    (g.putNode n).nodeIds = if g.hasNode n.id then g.nodeIds else g.nodeIds ++ [n.id] := by
  unfold putNode
  split
  · exact map_id_replace g.nodes n
  · simp [nodeIds]

theorem hasNode_putNode (g : Diagram) (n : Node) : (g.putNode n).hasNode n.id = true := by
  rw [hasNode_iff, nodeIds_putNode]
  split
  · rename_i h
    exact (hasNode_iff g n.id).1 h
  · simp

theorem hasNode_putNode_of_hasNode {g : Diagram} {id : Text} (n : Node) (h : g.hasNode id = true) :
    (g.putNode n).hasNode id = true := by
  rw [hasNode_iff, nodeIds_putNode]
  have mem := (hasNode_iff g id).1 h
  split
  · exact mem
  · exact List.mem_append_left _ mem

theorem mem_putNode {g : Diagram} {n m : Node} (mem : m ∈ (g.putNode n).nodes) : m = n ∨ m ∈ g.nodes := by
  unfold putNode at mem
  split at mem
  · obtain ⟨m', mem', eq⟩ := List.mem_map.1 mem
    split at eq
    · exact Or.inl eq.symm
    · exact Or.inr (eq ▸ mem')
  · rcases List.mem_append.1 mem with old | new
    · exact Or.inr old
    · exact Or.inl (List.mem_singleton.1 new)

@[simp] theorem edges_putNode (g : Diagram) (n : Node) : (g.putNode n).edges = g.edges := by
  unfold putNode
  split <;> rfl

@[simp] theorem regions_putNode (g : Diagram) (n : Node) : (g.putNode n).regions = g.regions := by
  unfold putNode
  split <;> rfl

end Diagram

end Flowchart
