import Flowchart.Proofs.Grid
import Flowchart.Syntax.Scan

/-! # What a layout reads

Laying a diagram out writes a box into each node and a box, or none, into each region, and changes
nothing else: the direction, the edges, the ids, texts and shapes of the nodes, in order, and the ids,
titles and members of the regions stay as they were (`Flowchart.Diagram.layout_readsLayoutInputs`).

Every node is given the cell of its place in the layers, and every node has a place, so the box a
node had before is never read (`Flowchart.Diagram.placedBox_congr`); a region's box is read off the
boxes its member nodes were just given. The boxes depend on the diagram through four things only:
its direction, its node ids in order, the successors of each node, and the members of each region
(`Flowchart.Diagram.SameLayoutInputs`, `Flowchart.Diagram.draw_congr`). The layers are computed from
the node ids and the successors, the roots included, since a node no arc enters is one in no
successor list (`Flowchart.Topology.layers_congr`). Texts, shapes, labels and strokes are never read;
an edge adds an arc only from one node to another, once (`Flowchart.Topology.arcs_ofDiagram_congr`).
So laying out a laid-out diagram again changes nothing. -/

set_option autoImplicit false

namespace Flowchart

namespace Topology

theorem inDegree_eq_zero_iff (t : Topology) (v : Text) : t.inDegree v = 0 ↔ ∀ u, v ∉ t.successors u := by
  simp only [inDegree, List.length_eq_zero_iff, List.filter_eq_nil_iff, decide_eq_true_eq, mem_successors]
  constructor
  · intro none u arc
    exact none _ arc rfl
  · intro none a arc same
    exact none a.1 (by rw [← same]; exact arc)

section Congr

variable {t t' : Topology} (nodes : t.nodes = t'.nodes) (successors : ∀ v, t.successors v = t'.successors v)
include nodes successors

theorem roots_congr : t.roots = t'.roots := by
  have entered : ∀ v, t.inDegree v = 0 ↔ t'.inDegree v = 0 := by
    intro v
    simp only [inDegree_eq_zero_iff, successors]
  have free : t.nodes.filter (t.inDegree · = 0) = t'.nodes.filter (t'.inDegree · = 0) := by
    rw [nodes]
    exact List.filter_congr fun v _ => by simp only [entered v]
  unfold roots
  rw [free, nodes]

theorem layersFrom_congr : ∀ (rounds : Nat) (placed current : List Text),
    t.layersFrom rounds placed current = t'.layersFrom rounds placed current := by
  have same : t.successors = t'.successors := funext successors
  intro rounds
  induction rounds with
  | zero => intro placed current; rfl
  | succ n ih =>
      intro placed current
      simp only [layersFrom, nodes, same, ih]

/-- The layers are fixed by the nodes in order and the successors of each. -/
theorem layers_congr : t.layers = t'.layers := by
  unfold layers
  rw [roots_congr nodes successors, layersFrom_congr nodes successors, nodes]

end Congr

theorem mem_addArc (nodes : List Text) (acc : List (Text × Text)) (e : Edge) (a : Text × Text) :
    a ∈ addArc nodes acc e ↔ a ∈ acc ∨ ((e.source, e.target) = a ∧ e.source ∈ nodes ∧ e.target ∈ nodes) := by
  unfold addArc
  split
  · rename_i added
    have joins : e.source ∈ nodes ∧ e.target ∈ nodes := by
      simp only [Bool.and_eq_true, List.contains_iff_mem] at added
      exact added.1
    simp only [List.mem_append, List.mem_cons, List.not_mem_nil, or_false]
    constructor
    · rintro (old | rfl)
      · exact Or.inl old
      · exact Or.inr ⟨rfl, joins⟩
    · rintro (old | ⟨rfl, -⟩)
      · exact Or.inl old
      · exact Or.inr rfl
  · rename_i kept
    have present : e.source ∈ nodes → e.target ∈ nodes → (e.source, e.target) ∈ acc := by
      intro source target
      simpa [source, target] using kept
    constructor
    · exact Or.inl
    · rintro (old | ⟨rfl, source, target⟩)
      · exact old
      · exact present source target

theorem mem_foldl_addArc (nodes : List Text) (a : Text × Text) :
    ∀ (edges : List Edge) (acc : List (Text × Text)), a ∈ edges.foldl (addArc nodes) acc ↔
      a ∈ acc ∨ ∃ e ∈ edges, (e.source, e.target) = a ∧ e.source ∈ nodes ∧ e.target ∈ nodes := by
  intro edges
  induction edges with
  | nil => intro acc; simp
  | cons e rest ih =>
      intro acc
      rw [List.foldl_cons, ih, mem_addArc]
      simp only [List.mem_cons, exists_eq_or_imp, or_assoc]

theorem addArc_of_present {nodes : List Text} {arcs : List (Text × Text)} {e : Edge}
    (present : (e.source, e.target) ∈ arcs ∨ e.source ∉ nodes ∨ e.target ∉ nodes) :
    addArc nodes arcs e = arcs := by
  unfold addArc
  rw [if_neg]
  rcases present with arc | missing | missing
  · simp [arc]
  · simp [missing]
  · simp [missing]

theorem foldl_addArc_ends (nodes : List Text) :
    ∀ {edges edges' : List Edge}, edges.map (fun e => (e.source, e.target)) =
      edges'.map (fun e => (e.source, e.target)) →
        ∀ acc, edges.foldl (addArc nodes) acc = edges'.foldl (addArc nodes) acc
  | [], [], _, acc => rfl
  | [], _ :: _, same, _ => by simp at same
  | _ :: _, [], same, _ => by simp at same
  | e :: rest, e' :: rest', same, acc => by
      simp only [List.map_cons, List.cons.injEq, Prod.mk.injEq] at same
      obtain ⟨⟨source, target⟩, rest⟩ := same
      have step : addArc nodes acc e = addArc nodes acc e' := by
        simp only [addArc, source, target]
      rw [List.foldl_cons, List.foldl_cons, step, foldl_addArc_ends nodes rest]

/-- Two diagrams with the same node ids and edges with the same ends have the same arcs. -/
theorem arcs_ofDiagram_congr {g h : Diagram} (ids : g.nodeIds = h.nodeIds)
    (ends : g.edges.map (fun e => (e.source, e.target)) = h.edges.map (fun e => (e.source, e.target))) :
    (ofDiagram g).arcs = (ofDiagram h).arcs := by
  simp only [ofDiagram, ids]
  exact foldl_addArc_ends _ ends []

end Topology

namespace Diagram

/-- Two diagrams a layout cannot tell apart: the same direction, the same node ids in the same order,
the same successors of each node, and the same members in each region. -/
structure SameLayoutInputs (g h : Diagram) : Prop where
  direction : g.direction = h.direction
  nodeIds : g.nodeIds = h.nodeIds
  successors : ∀ v, (Topology.ofDiagram g).successors v = (Topology.ofDiagram h).successors v
  members : g.regions.map (·.members) = h.regions.map (·.members)

/-- The geometry of a diagram: the box of each node and the box or none of each region, in order. -/
def boxes (g : Diagram) : List Box × List (Option Box) := (g.nodes.map (·.box), g.regions.map (·.bounds))

theorem hasNode_congr {g h : Diagram} (ids : g.nodeIds = h.nodeIds) : g.hasNode = h.hasNode := by
  funext x
  rw [Bool.eq_iff_iff, hasNode_iff, hasNode_iff, ids]

section Placed

variable (s : Settings)

theorem placedBox_eq_cell (g : Diagram) {id : Text} (has : g.hasNode id = true) :
    ∃ layer order, Layout.cellOf (Topology.ofDiagram g).layers id = some (layer, order) ∧
      g.placedBox s (Topology.ofDiagram g).layers id =
        Layout.cellBox s g.direction (Topology.ofDiagram g).layers.length layer order := by
  obtain ⟨n, mem, rfl⟩ := List.mem_map.1 ((hasNode_iff g id).1 has)
  obtain ⟨layer, order, found⟩ := cellOf_node g mem
  exact ⟨layer, order, found, placedBox_of_cellOf g s found⟩

/-- The box a node is given is read off its place and the direction, never off the box the node
had. -/
theorem placedBox_congr {g h : Diagram} (direction : h.direction = g.direction) {id : Text}
    (has : g.hasNode id = true) :
    h.placedBox s (Topology.ofDiagram g).layers id = g.placedBox s (Topology.ofDiagram g).layers id := by
  obtain ⟨layer, order, found, box⟩ := placedBox_eq_cell s g has
  rw [box, placedBox_of_cellOf h s found, direction]

end Placed

/-- Diagrams a layout cannot tell apart are given the same layers and the same boxes. -/
theorem draw_congr {g h : Diagram} (same : SameLayoutInputs g h) (s : Settings) :
    (g.draw s).layers = (h.draw s).layers ∧ (g.draw s).nodeBoxes = (h.draw s).nodeBoxes ∧
      (g.draw s).regionBoxes = (h.draw s).regionBoxes := by
  have layers : (Topology.ofDiagram g).layers = (Topology.ofDiagram h).layers :=
    Topology.layers_congr same.nodeIds same.successors
  have ids : ∀ i (hg : i < g.nodes.length) (hh : i < h.nodes.length), g.nodes[i].id = h.nodes[i].id := by
    intro i hg hh
    have atI := congrArg (·[i]?) same.nodeIds
    simpa [nodeIds, hg, hh] using atI
  have members : ∀ i (hg : i < g.regions.length) (hh : i < h.regions.length),
      g.regions[i].members = h.regions[i].members := by
    intro i hg hh
    have atI := congrArg (·[i]?) same.members
    simpa [hg, hh] using atI
  have nodeCount : g.nodes.length = h.nodes.length := by
    simpa [nodeIds] using congrArg List.length same.nodeIds
  have regionCount : g.regions.length = h.regions.length := by
    simpa using congrArg List.length same.members
  -- a node is given the same box in both, whatever box it had
  have boxOf : ∀ id, g.hasNode id = true →
      h.placedBox s (Topology.ofDiagram h).layers id = g.placedBox s (Topology.ofDiagram g).layers id := by
    intro id has
    rw [← layers]
    exact placedBox_congr s same.direction.symm has
  simp only [draw]
  refine ⟨layers, ?_, ?_⟩
  · apply List.ext_getElem (by simp [nodeCount])
    intro i hg hh
    simp only [List.getElem_map]
    rw [← ids i (by simpa using hg) (by simpa using hh)]
    exact (boxOf _ ((hasNode_iff g _).2 (List.mem_map_of_mem (List.getElem_mem _)))).symm
  · apply List.ext_getElem (by simp [regionCount])
    intro i hg hh
    simp only [List.getElem_map, regionBox]
    rw [members i (by simpa using hg) (by simpa using hh), hasNode_congr same.nodeIds]
    congr 1
    refine List.map_congr_left fun m mem => (boxOf m ?_).symm
    rw [hasNode_congr same.nodeIds]
    exact (List.mem_filter.1 mem).2

theorem arcs_append_duplicate (g : Diagram) {e : Edge}
    (duplicate : ∃ e' ∈ g.edges, e'.source = e.source ∧ e'.target = e.target) :
    (g.edges ++ [e]).foldl (Topology.addArc g.nodeIds) [] =
      g.edges.foldl (Topology.addArc g.nodeIds) [] := by
  obtain ⟨e', mem, source, target⟩ := duplicate
  rw [List.foldl_append, List.foldl_cons, List.foldl_nil]
  apply Topology.addArc_of_present
  by_cases both : e.source ∈ g.nodeIds ∧ e.target ∈ g.nodeIds
  · refine Or.inl ((Topology.mem_foldl_addArc _ _ _ _).2 (Or.inr ⟨e', mem, ?_, ?_, ?_⟩))
    · rw [source, target]
    · rw [source]; exact both.1
    · rw [target]; exact both.2
  · exact Or.inr (by tauto)

theorem arcs_insert_dangling (g : Diagram) {pre post : List Edge} (split : g.edges = pre ++ post)
    {e : Edge} (dangling : e.source ∉ g.nodeIds ∨ e.target ∉ g.nodeIds) :
    (pre ++ e :: post).foldl (Topology.addArc g.nodeIds) [] =
      g.edges.foldl (Topology.addArc g.nodeIds) [] := by
  rw [split, List.foldl_append, List.foldl_append, List.foldl_cons,
    Topology.addArc_of_present (Or.inr dangling)]

/-! ## Writing the boxes -/

theorem map_zipIdx_congr {α β γ : Type} {l l' : List α} (key : α → β) (same : l.map key = l'.map key)
    (F : α × Nat → γ) (reads : ∀ a a' i, key a = key a' → F (a, i) = F (a', i)) :
    l.zipIdx.map F = l'.zipIdx.map F := by
  have count : l.length = l'.length := by simpa using congrArg List.length same
  apply List.ext_getElem (by simp [count])
  intro i hl hl'
  have at_i := congrArg (·[i]?) same
  simp only [List.length_map, List.length_zipIdx] at hl hl'
  simp only [List.getElem?_map, List.getElem?_eq_getElem hl, List.getElem?_eq_getElem hl', Option.map_some,
    Option.some.injEq] at at_i
  simpa using reads _ _ i at_i

theorem recordIn_congr {g h : Diagram} (direction : g.direction = h.direction) (edges : g.edges = h.edges)
    (nodes : g.nodes.map (fun n => (n.id, n.text, n.shape)) = h.nodes.map (fun n => (n.id, n.text, n.shape)))
    (regions : g.regions.map (fun r => (r.id, r.title, r.members)) =
      h.regions.map (fun r => (r.id, r.title, r.members)))
    (B : List Box) (R : List (Option Box)) : g.recordIn B R = h.recordIn B R := by
  simp only [recordIn, direction, edges]
  congr 1
  simp only [List.cons.injEq, Prod.mk.injEq, Json.arr.injEq, true_and, and_true]
  constructor
  · refine map_zipIdx_congr _ nodes _ fun n n' i same => ?_
    simp only [Prod.mk.injEq] at same
    simp [Node.record, same.1, same.2.1, same.2.2]
  · refine map_zipIdx_congr _ regions _ fun r r' i same => ?_
    simp only [Prod.mk.injEq] at same
    simp [Region.record, same.1, same.2.1, same.2.2]

theorem ext_parts {g h : Diagram} (direction : g.direction = h.direction) (nodes : g.nodes = h.nodes)
    (edges : g.edges = h.edges) (regions : g.regions = h.regions) : g = h := by
  cases g
  cases h
  simp only at direction nodes edges regions
  subst direction nodes edges regions
  rfl

section Layout

variable (g : Diagram) (s : Settings)

theorem nodeIds_layout : (g.layout s).nodeIds = g.nodeIds := by
  simp only [nodeIds, layout, List.map_map]
  rfl

theorem topology_layout : Topology.ofDiagram (g.layout s) = Topology.ofDiagram g := by
  simp only [Topology.ofDiagram, nodeIds_layout]
  rfl

theorem hasNode_layout : (g.layout s).hasNode = g.hasNode := hasNode_congr (nodeIds_layout g s)

theorem boxes_layout : (g.layout s).boxes = ((g.draw s).nodeBoxes, (g.draw s).regionBoxes) := by
  simp only [boxes, layout, draw, List.map_map]
  rfl

theorem nodes_layout :
    (g.layout s).nodes = g.nodes.map fun n => { n with box := g.placedBox s (Topology.ofDiagram g).layers n.id } :=
  rfl

theorem regions_layout : (g.layout s).regions =
    g.regions.map fun r => { r with bounds := g.regionBox s (g.placedBox s (Topology.ofDiagram g).layers) r } :=
  rfl

theorem keys_nodes_layout :
    (g.layout s).nodes.map (fun n => (n.id, n.text, n.shape)) = g.nodes.map (fun n => (n.id, n.text, n.shape)) := by
  simp [nodes_layout, List.map_map]

theorem keys_regions_layout :
    (g.layout s).regions.map (fun r => (r.id, r.title, r.members)) =
      g.regions.map (fun r => (r.id, r.title, r.members)) := by
  simp [regions_layout, List.map_map]

theorem record_layout : (g.layout s).record = (g.draw s).record := by
  have written := boxes_layout g s
  simp only [boxes, Prod.mk.injEq] at written
  rw [record, written.1, written.2, Drawing.record]
  exact recordIn_congr (g := g.layout s) (h := g) rfl rfl (keys_nodes_layout g s) (keys_regions_layout g s) _ _

theorem layout_layout : (g.layout s).layout s = g.layout s := by
  have boxOf : ∀ id, g.hasNode id = true →
      (g.layout s).placedBox s (Topology.ofDiagram (g.layout s)).layers id =
        g.placedBox s (Topology.ofDiagram g).layers id := by
    intro id has
    rw [topology_layout]
    exact placedBox_congr s (g := g) (h := g.layout s) rfl has
  have nodes : ((g.layout s).layout s).nodes = (g.layout s).nodes := by
    rw [nodes_layout (g.layout s), nodes_layout g, List.map_map]
    refine List.map_congr_left fun n mem => ?_
    simp [boxOf n.id ((hasNode_iff g _).2 (List.mem_map_of_mem mem))]
  have regions : ((g.layout s).layout s).regions = (g.layout s).regions := by
    rw [regions_layout (g.layout s), regions_layout g, List.map_map]
    refine List.map_congr_left fun r mem => ?_
    simp only [Function.comp_apply, regionBox, hasNode_layout]
    congr 2
    exact List.map_congr_left fun m mem => boxOf m (List.mem_filter.1 mem).2
  exact ext_parts rfl nodes rfl regions

end Layout

end Diagram

/-- Laying a diagram out writes a box into each node and a box or none into each region, and
changes nothing else. Each node is given the cell of its place in the layers, whatever box it had,
and the diagram's record is that of its drawing; laying the result out again changes nothing. The
boxes depend only on the direction, the node ids in order, the successors of each node and the
members of each region. So they do not change when an edge with the ends of an existing one is
added, when an edge with an end that is not a node is put anywhere among the edges, or when texts,
shapes, labels, strokes and the boxes the nodes and regions had change. -/
theorem Diagram.layout_readsLayoutInputs (g : Diagram) (s : Settings) :
    let laid := g.layout s
    (laid.direction = g.direction ∧ laid.edges = g.edges ∧
      laid.nodes.map (fun n => (n.id, n.text, n.shape)) = g.nodes.map (fun n => (n.id, n.text, n.shape)) ∧
      laid.regions.map (fun r => (r.id, r.title, r.members)) =
        g.regions.map (fun r => (r.id, r.title, r.members))) ∧
    (∀ n ∈ laid.nodes, ∃ layer order, Layout.cellOf (Topology.ofDiagram g).layers n.id = some (layer, order) ∧
      n.box = Layout.cellBox s g.direction (Topology.ofDiagram g).layers.length layer order) ∧
    laid.boxes = ((g.draw s).nodeBoxes, (g.draw s).regionBoxes) ∧ laid.record = (g.draw s).record ∧
    laid.layout s = laid ∧
    (∀ h : Diagram, h.SameLayoutInputs g → (h.layout s).boxes = laid.boxes) ∧
    (∀ h : Diagram, h.direction = g.direction → h.nodes = g.nodes → h.regions = g.regions →
      ∀ e, (∃ e' ∈ g.edges, e'.source = e.source ∧ e'.target = e.target) → h.edges = g.edges ++ [e] →
        (h.layout s).boxes = laid.boxes) ∧
    (∀ h : Diagram, h.direction = g.direction → h.nodes = g.nodes → h.regions = g.regions →
      ∀ pre post e, g.edges = pre ++ post → (e.source ∉ g.nodeIds ∨ e.target ∉ g.nodeIds) →
        h.edges = pre ++ e :: post → (h.layout s).boxes = laid.boxes) ∧
    (∀ h : Diagram, h.direction = g.direction → h.nodeIds = g.nodeIds →
      h.edges.map (fun e => (e.source, e.target)) = g.edges.map (fun e => (e.source, e.target)) →
      h.regions.map (·.members) = g.regions.map (·.members) → (h.layout s).boxes = laid.boxes) := by
  intro laid
  -- every case is a pair of diagrams that agree on what a layout reads
  have boxes : ∀ h : Diagram, h.SameLayoutInputs g → (h.layout s).boxes = laid.boxes := by
    intro h same
    obtain ⟨-, nodeBoxes, regionBoxes⟩ := Diagram.draw_congr same s
    rw [Diagram.boxes_layout, Diagram.boxes_layout, nodeBoxes, regionBoxes]
  have sameArcs : ∀ h : Diagram, h.direction = g.direction → h.nodes = g.nodes → h.regions = g.regions →
      h.edges.foldl (Topology.addArc g.nodeIds) [] = g.edges.foldl (Topology.addArc g.nodeIds) [] →
      h.SameLayoutInputs g := by
    intro h direction nodes regions arcs
    have ids : h.nodeIds = g.nodeIds := by simp [nodeIds, nodes]
    refine ⟨direction, ids, fun v => ?_, by rw [regions]⟩
    simp only [Topology.successors, Topology.ofDiagram, ids, arcs]
  refine ⟨⟨rfl, rfl, Diagram.keys_nodes_layout g s, Diagram.keys_regions_layout g s⟩, ?_,
    Diagram.boxes_layout g s, Diagram.record_layout g s, Diagram.layout_layout g s, boxes, ?_, ?_, ?_⟩
  · intro n mem
    obtain ⟨n₀, mem₀, rfl⟩ := List.mem_map.1 mem
    have has : g.hasNode n₀.id = true := (Diagram.hasNode_iff g _).2 (List.mem_map_of_mem mem₀)
    exact Diagram.placedBox_eq_cell s g has
  · intro h direction nodes regions e duplicate edges
    refine boxes h (sameArcs h direction nodes regions ?_)
    rw [edges]
    exact g.arcs_append_duplicate duplicate
  · intro h direction nodes regions pre post e split dangling edges
    refine boxes h (sameArcs h direction nodes regions ?_)
    rw [edges]
    exact g.arcs_insert_dangling split dangling
  · intro h direction ids ends members
    refine boxes h ⟨direction, ids, fun v => ?_, members⟩
    simp only [Topology.successors, Topology.arcs_ofDiagram_congr ids ends]

end Flowchart
