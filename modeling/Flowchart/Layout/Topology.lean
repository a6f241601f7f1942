import Flowchart.Diagram.Basic

/-!
# The topology of a diagram

The node ids of a diagram with its arcs: the distinct pairs `(source, target)` of its edges whose
ends are both nodes, in the order each pair first occurs. Several edges between the same two nodes
make one arc; an edge from a node to itself is an arc, counted once as entering and once as
leaving the node. Successors are listed in the order of their arcs.

The roots are the nodes no arc enters; when every node has an arc entering it, the first node alone
is the root. The diagram is acyclic when no path of arcs leads from a node back to itself, which
is decided by removing, round after round, the nodes that no remaining arc enters.

Nodes are put in layers breadth first. The first layer is the roots; each next layer is the
successors of the nodes of the layer before that have no layer yet, in the order they are first
met. Nodes no root reaches are added to the end of the last layer, in node order, which is a layer
of its own when there is no other. Each round places at least one new node, so there are no more
rounds than nodes.

The graph itself is built with networkx's `DiGraph`. `Flowchart.GraphLibrary` is the calls made on
it: adding nodes and edges, and asking for the nodes, the successors and degrees of a node, the
number of edges and whether the graph is acyclic. `Flowchart.GraphLibrary.Laws` is what networkx
documents of these calls, and a topology is one graph library with these laws
(`Flowchart.Topology.library`).
-/

set_option autoImplicit false

namespace Flowchart

/-- Node ids with arcs between them. -/
structure Topology where
  nodes : List Text
  arcs : List (Text × Text)
deriving DecidableEq, Repr, Inhabited

namespace Topology

def addArc (nodes : List Text) (arcs : List (Text × Text)) (e : Edge) : List (Text × Text) :=
  if nodes.contains e.source && nodes.contains e.target && !arcs.contains (e.source, e.target) then
    arcs ++ [(e.source, e.target)]
  else arcs

/-- The topology of a diagram. -/
def ofDiagram (g : Diagram) : Topology :=
  { nodes := g.nodeIds, arcs := g.edges.foldl (addArc g.nodeIds) [] }

def successors (t : Topology) (v : Text) : List Text := (t.arcs.filter (·.1 = v)).map (·.2)

def inDegree (t : Topology) (v : Text) : Nat := (t.arcs.filter (·.2 = v)).length

def outDegree (t : Topology) (v : Text) : Nat := (t.arcs.filter (·.1 = v)).length

def roots (t : Topology) : List Text :=
  match t.nodes.filter (t.inDegree · = 0) with
  | [] => t.nodes.take 1
  | rs => rs

/-- What is left of `vs` after at most `rounds` rounds of removing the nodes that no arc of `arcs`
from a remaining node enters. -/
def peel : (rounds : Nat) → List Text → List (Text × Text) → List Text
  | 0, vs, _ => vs
  | n + 1, vs, arcs =>
    let free := vs.filter fun v => !arcs.any (·.2 = v)
    if free.isEmpty then vs
    else peel n (vs.filter (!free.contains ·)) (arcs.filter fun a => !free.contains a.1)

def isAcyclic (t : Topology) : Bool := (peel t.nodes.length t.nodes t.arcs).isEmpty

example :
    (ofDiagram { nodes := [Node.bare (Text.ofString "a")],
                 edges := [⟨Text.ofString "a", Text.ofString "a", [], .solid⟩],
                 nodup := List.nodup_cons.2 ⟨List.not_mem_nil, List.nodup_nil⟩ }).isAcyclic
      = false := by
  decide

/-- The elements of `vs` not in `taken`, each once, in the order first met. -/
def fresh (taken vs : List Text) : List Text :=
  vs.foldl (fun acc v => if taken.contains v || acc.contains v then acc else acc ++ [v]) []

/-- The layers from the layer `current` on, the nodes in `placed` having a layer already; at most
`rounds` rounds. -/
def layersFrom (t : Topology) : (rounds : Nat) → (placed current : List Text) → List (List Text)
  | 0, _, _ => []
  | n + 1, placed, current =>
    if current.isEmpty || t.nodes.length ≤ placed.length then []
    else
      let layer := fresh placed current
      let placed := placed ++ layer
      let next := fresh placed (layer.flatMap t.successors)
      (if layer.isEmpty then [] else [layer]) ++ layersFrom t n placed next

/-- The layers of a topology, the nodes no root reaches added to the last. -/
def layers (t : Topology) : List (List Text) :=
  let reached := t.layersFrom t.nodes.length [] t.roots
  let placed := reached.flatten
  match t.nodes.filter (!placed.contains ·) with
  | [] => reached
  | rest =>
    match reached.reverse with
    | [] => [rest]
    | last :: before => (before.reverse) ++ [last ++ rest]

end Topology

/-- The calls made on a library of directed graphs of type `Graph`: the empty graph, adding a node
and an edge, and the questions asked of a graph. -/
structure GraphLibrary (Graph : Type) where
  empty : Graph
  addNode : Graph → Text → Graph
  addEdge : Graph → Text → Text → Graph
  hasNode : Graph → Text → Bool
  hasEdge : Graph → Text → Text → Bool
  nodes : Graph → List Text
  successors : Graph → Text → List Text
  inDegree : Graph → Text → Nat
  outDegree : Graph → Text → Nat
  edgeCount : Graph → Nat
  isAcyclic : Graph → Bool

namespace GraphLibrary

variable {Graph : Type}

/-- The graphs built from the empty one by adding nodes and edges. -/
inductive Built (lib : GraphLibrary Graph) : Graph → Prop
  | empty : Built lib lib.empty
  | addNode {G : Graph} (v : Text) : Built lib G → Built lib (lib.addNode G v)
  | addEdge {G : Graph} (u v : Text) : Built lib G → Built lib (lib.addEdge G u v)

/-- What networkx documents of the calls. Nodes are listed in the order they were first added, and
adding a node that is there changes nothing. Adding an edge adds its missing ends first; an edge
added again is merged into the one there, and the successors of a node are listed in the order
their edges were first added. On a graph built so, the in-degree of a node counts the nodes with an
edge to it, the out-degree its successors and the edge count the successors of every node; and the
graph is acyclic when no path of edges leads from a node back to itself. -/
structure Laws (lib : GraphLibrary Graph) : Prop where
  nodes_empty : lib.nodes lib.empty = []
  successors_empty : ∀ u, lib.successors lib.empty u = []
  nodes_addNode : ∀ G v, lib.nodes (lib.addNode G v) =
    if v ∈ lib.nodes G then lib.nodes G else lib.nodes G ++ [v]
  successors_addNode : ∀ G v u, lib.successors (lib.addNode G v) u = lib.successors G u
  nodes_addEdge : ∀ G u v, lib.nodes (lib.addEdge G u v) = lib.nodes (lib.addNode (lib.addNode G u) v)
  successors_addEdge : ∀ G u v w, lib.successors (lib.addEdge G u v) w =
    if w = u ∧ v ∉ lib.successors G u then lib.successors G u ++ [v] else lib.successors G w
  hasNode_iff : ∀ G v, lib.hasNode G v = true ↔ v ∈ lib.nodes G
  hasEdge_iff : ∀ G u v, lib.hasEdge G u v = true ↔ v ∈ lib.successors G u
  inDegree_eq : ∀ G, Built lib G → ∀ v,
    lib.inDegree G v = ((lib.nodes G).filter (v ∈ lib.successors G ·)).length
  outDegree_eq : ∀ G u, lib.outDegree G u = (lib.successors G u).length
  edgeCount_eq : ∀ G, Built lib G → lib.edgeCount G = ((lib.nodes G).flatMap (lib.successors G)).length
  isAcyclic_iff : ∀ G, Built lib G →
    (lib.isAcyclic G = true ↔ ∀ v, ¬ Relation.TransGen (fun u w => w ∈ lib.successors G u) v v)

variable (lib : GraphLibrary Graph)

def addDiagramEdge (G : Graph) (e : Edge) : Graph :=
  if lib.hasNode G e.source && lib.hasNode G e.target && !lib.hasEdge G e.source e.target then
    lib.addEdge G e.source e.target
  else G

/-- The graph of a diagram: its node ids in order, then its edges between two nodes. -/
def ofDiagram (g : Diagram) : Graph :=
  g.edges.foldl lib.addDiagramEdge (g.nodeIds.foldl lib.addNode lib.empty)

/-- The nodes no edge enters; the first node when every node has an edge entering it. -/
def roots (G : Graph) : List Text :=
  match (lib.nodes G).filter (lib.inDegree G · = 0) with
  | [] => (lib.nodes G).take 1
  | rs => rs

def topology (G : Graph) : Topology :=
  { nodes := lib.nodes G, arcs := (lib.nodes G).flatMap fun u => (lib.successors G u).map (u, ·) }

end GraphLibrary

namespace Topology

def addNode (t : Topology) (v : Text) : Topology :=
  if t.nodes.contains v then t else { t with nodes := t.nodes ++ [v] }

def addEdge (t : Topology) (u v : Text) : Topology :=
  let t := (t.addNode u).addNode v
  if t.arcs.contains (u, v) then t else { t with arcs := t.arcs ++ [(u, v)] }

/-- Topologies as a graph library. -/
def library : GraphLibrary Topology where
  empty := ⟨[], []⟩
  addNode := addNode
  addEdge := addEdge
  hasNode t v := t.nodes.contains v
  hasEdge t u v := t.arcs.contains (u, v)
  nodes := nodes
  successors := successors
  inDegree := inDegree
  outDegree := outDegree
  edgeCount t := t.arcs.length
  isAcyclic := isAcyclic

end Topology

end Flowchart
