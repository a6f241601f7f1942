import Flowchart.Proofs.Adjacency

/-! # Graph libraries with networkx's laws

The layout builds the graph of a diagram with networkx's `DiGraph` and asks it for the nodes, the
successors and the in-degrees of nodes. Two libraries with the laws networkx documents
(`Flowchart.GraphLibrary.Laws`) answer alike. Say two graphs agree when they show the same nodes and
the same successors (`Flowchart.GraphLibrary.Agree`): the empty graphs agree, each call keeps two
graphs agreeing, since the laws say what it does to the nodes and the successors, and the laws
answer every question on a built graph from its nodes and successors alone.

A topology is such a library (`Flowchart.Topology.library_laws`): a topology built by its calls has
each node and each arc once and arcs only between nodes, and then its in-degrees and arc count are
what the laws say. It builds the graph of a diagram as `Flowchart.Topology.ofDiagram` does. So every
library with the laws gives the graph of a diagram the nodes, successors, degrees, edge count, roots
and acyclicity of its topology, and the nodes and edges it lists are put in the same layers
(`Flowchart.GraphLibrary.ofDiagram_answersAsTopology`). -/

set_option autoImplicit false

namespace Flowchart

namespace GraphLibrary

variable {Graph Graph₁ Graph₂ : Type}

/-- Two graphs, of two libraries, show the same nodes and the same successors. -/
structure Agree (lib₁ : GraphLibrary Graph₁) (lib₂ : GraphLibrary Graph₂) (G₁ : Graph₁) (G₂ : Graph₂) :
    Prop where
  nodes : lib₁.nodes G₁ = lib₂.nodes G₂
  successors : ∀ u, lib₁.successors G₁ u = lib₂.successors G₂ u

theorem Agree.topology {lib₁ : GraphLibrary Graph₁} {lib₂ : GraphLibrary Graph₂} {G₁ : Graph₁} {G₂ : Graph₂}
    (agree : Agree lib₁ lib₂ G₁ G₂) : lib₁.topology G₁ = lib₂.topology G₂ := by
  simp only [GraphLibrary.topology, agree.nodes, agree.successors]

section Built

variable (lib : GraphLibrary Graph)

theorem built_foldl_addNode (vs : List Text) : ∀ {G : Graph}, lib.Built G → lib.Built (vs.foldl lib.addNode G) := by
  induction vs with
  | nil => exact id
  | cons v rest ih => exact fun built => ih (.addNode v built)

theorem built_foldl_addDiagramEdge (es : List Edge) :
    ∀ {G : Graph}, lib.Built G → lib.Built (es.foldl lib.addDiagramEdge G) := by
  induction es with
  | nil => exact id
  | cons e rest ih =>
      intro G built
      apply ih
      unfold addDiagramEdge
      split
      · exact .addEdge _ _ built
      · exact built

theorem built_ofDiagram (g : Diagram) : lib.Built (lib.ofDiagram g) :=
  built_foldl_addDiagramEdge lib _ (built_foldl_addNode lib _ .empty)

end Built

section Agreement

variable {lib₁ : GraphLibrary Graph₁} {lib₂ : GraphLibrary Graph₂} (laws₁ : lib₁.Laws) (laws₂ : lib₂.Laws)
include laws₁ laws₂

theorem agree_empty : Agree lib₁ lib₂ lib₁.empty lib₂.empty :=
  ⟨by rw [laws₁.nodes_empty, laws₂.nodes_empty],
    fun u => by rw [laws₁.successors_empty, laws₂.successors_empty]⟩

variable {G₁ : Graph₁} {G₂ : Graph₂}

theorem Agree.addNode (agree : Agree lib₁ lib₂ G₁ G₂) (v : Text) :
    Agree lib₁ lib₂ (lib₁.addNode G₁ v) (lib₂.addNode G₂ v) :=
  ⟨by rw [laws₁.nodes_addNode, laws₂.nodes_addNode, agree.nodes],
    fun u => by rw [laws₁.successors_addNode, laws₂.successors_addNode, agree.successors]⟩

theorem Agree.addEdge (agree : Agree lib₁ lib₂ G₁ G₂) (u v : Text) :
    Agree lib₁ lib₂ (lib₁.addEdge G₁ u v) (lib₂.addEdge G₂ u v) := by
  have ends := (agree.addNode laws₁ laws₂ u).addNode laws₁ laws₂ v
  refine ⟨by rw [laws₁.nodes_addEdge, laws₂.nodes_addEdge, ends.nodes], fun w => ?_⟩
  rw [laws₁.successors_addEdge, laws₂.successors_addEdge]
  simp only [agree.successors]

theorem Agree.hasNode (agree : Agree lib₁ lib₂ G₁ G₂) (v : Text) : lib₁.hasNode G₁ v = lib₂.hasNode G₂ v := by
  rw [Bool.eq_iff_iff, laws₁.hasNode_iff, laws₂.hasNode_iff, agree.nodes]

theorem Agree.hasEdge (agree : Agree lib₁ lib₂ G₁ G₂) (u v : Text) :
    lib₁.hasEdge G₁ u v = lib₂.hasEdge G₂ u v := by
  rw [Bool.eq_iff_iff, laws₁.hasEdge_iff, laws₂.hasEdge_iff, agree.successors]

theorem Agree.addDiagramEdge (agree : Agree lib₁ lib₂ G₁ G₂) (e : Edge) :
    Agree lib₁ lib₂ (lib₁.addDiagramEdge G₁ e) (lib₂.addDiagramEdge G₂ e) := by
  unfold GraphLibrary.addDiagramEdge
  rw [agree.hasNode laws₁ laws₂, agree.hasNode laws₁ laws₂, agree.hasEdge laws₁ laws₂]
  split
  · exact agree.addEdge laws₁ laws₂ _ _
  · exact agree

theorem Agree.foldl_addNode (vs : List Text) : ∀ {G₁ : Graph₁} {G₂ : Graph₂}, Agree lib₁ lib₂ G₁ G₂ →
    Agree lib₁ lib₂ (vs.foldl lib₁.addNode G₁) (vs.foldl lib₂.addNode G₂) := by
  induction vs with
  | nil => exact id
  | cons v rest ih => exact fun agree => ih (agree.addNode laws₁ laws₂ v)

theorem Agree.foldl_addDiagramEdge (es : List Edge) : ∀ {G₁ : Graph₁} {G₂ : Graph₂}, Agree lib₁ lib₂ G₁ G₂ →
    Agree lib₁ lib₂ (es.foldl lib₁.addDiagramEdge G₁) (es.foldl lib₂.addDiagramEdge G₂) := by
  induction es with
  | nil => exact id
  | cons e rest ih => exact fun agree => ih (agree.addDiagramEdge laws₁ laws₂ e)

theorem agree_ofDiagram (g : Diagram) : Agree lib₁ lib₂ (lib₁.ofDiagram g) (lib₂.ofDiagram g) :=
  Agree.foldl_addDiagramEdge laws₁ laws₂ _
    (Agree.foldl_addNode laws₁ laws₂ _ (agree_empty laws₁ laws₂))

/-! Agreeing graphs give the same answers: the laws answer every question from the nodes and the
successors. -/

variable (agree : Agree lib₁ lib₂ G₁ G₂) (built₁ : lib₁.Built G₁) (built₂ : lib₂.Built G₂)
include agree

theorem Agree.outDegree (u : Text) : lib₁.outDegree G₁ u = lib₂.outDegree G₂ u := by
  rw [laws₁.outDegree_eq, laws₂.outDegree_eq, agree.successors]

include built₁ built₂

theorem Agree.inDegree (v : Text) : lib₁.inDegree G₁ v = lib₂.inDegree G₂ v := by
  rw [laws₁.inDegree_eq G₁ built₁, laws₂.inDegree_eq G₂ built₂, agree.nodes]
  simp only [agree.successors]

theorem Agree.edgeCount : lib₁.edgeCount G₁ = lib₂.edgeCount G₂ := by
  rw [laws₁.edgeCount_eq G₁ built₁, laws₂.edgeCount_eq G₂ built₂, agree.nodes, funext agree.successors]

theorem Agree.isAcyclic : lib₁.isAcyclic G₁ = lib₂.isAcyclic G₂ := by
  rw [Bool.eq_iff_iff, laws₁.isAcyclic_iff G₁ built₁, laws₂.isAcyclic_iff G₂ built₂]
  simp only [agree.successors]

theorem Agree.roots : lib₁.roots G₁ = lib₂.roots G₂ := by
  have free : (lib₁.nodes G₁).filter (lib₁.inDegree G₁ · = 0) =
      (lib₂.nodes G₂).filter (lib₂.inDegree G₂ · = 0) := by
    rw [agree.nodes]
    exact List.filter_congr fun v _ => by rw [agree.inDegree laws₁ laws₂ built₁ built₂ v]
  unfold GraphLibrary.roots
  rw [free, agree.nodes]

end Agreement

end GraphLibrary

namespace Topology

/-! ## Topologies as a graph library -/

/-- A topology with each node and each arc once, and arcs only between nodes: one that the
library's calls build. -/
structure Clean (t : Topology) : Prop where
  wellFormed : t.WellFormed
  nodup : t.arcs.Nodup

theorem nodes_addNode (t : Topology) (v : Text) :
    (t.addNode v).nodes = if v ∈ t.nodes then t.nodes else t.nodes ++ [v] := by
  unfold addNode
  by_cases known : v ∈ t.nodes <;> simp [known]

theorem arcs_addNode (t : Topology) (v : Text) : (t.addNode v).arcs = t.arcs := by
  unfold addNode
  split <;> rfl

theorem nodes_addEdge (t : Topology) (u v : Text) : (t.addEdge u v).nodes = ((t.addNode u).addNode v).nodes := by
  simp only [addEdge]
  split <;> rfl

theorem arcs_addEdge (t : Topology) (u v : Text) :
    (t.addEdge u v).arcs = if (u, v) ∈ t.arcs then t.arcs else t.arcs ++ [(u, v)] := by
  unfold addEdge
  by_cases known : (u, v) ∈ t.arcs <;> simp [arcs_addNode, known]

theorem successors_addEdge (t : Topology) (u v w : Text) :
    (t.addEdge u v).successors w =
      if w = u ∧ v ∉ t.successors u then t.successors u ++ [v] else t.successors w := by
  simp only [mem_successors]
  by_cases known : (u, v) ∈ t.arcs
  · simp [successors, arcs_addEdge, known]
  · by_cases from_u : w = u
    · subst from_u
      simp [successors, arcs_addEdge, known, List.filter_append]
    · simp [successors, arcs_addEdge, known, List.filter_append, Ne.symm from_u, from_u]

theorem mem_nodes_addNode (t : Topology) (v x : Text) : x ∈ (t.addNode v).nodes ↔ x ∈ t.nodes ∨ x = v := by
  rw [nodes_addNode]
  by_cases known : v ∈ t.nodes
  · rw [if_pos known]
    constructor
    · exact Or.inl
    · rintro (old | rfl)
      exacts [old, known]
  · simp [known]

theorem Clean.addNode {t : Topology} (clean : t.Clean) (v : Text) : (t.addNode v).Clean := by
  have kept : ∀ x ∈ t.nodes, x ∈ (t.addNode v).nodes := fun x old => (mem_nodes_addNode t v x).2 (Or.inl old)
  refine ⟨⟨?_, fun a arc => ?_⟩, by rw [arcs_addNode]; exact clean.nodup⟩
  · rw [nodes_addNode]
    split
    · exact clean.wellFormed.nodup
    · rename_i fresh
      exact clean.wellFormed.nodup.append (List.nodup_singleton v) (by simpa using fresh)
  · rw [arcs_addNode] at arc
    exact ⟨kept _ (clean.wellFormed.arc_mem a arc).1, kept _ (clean.wellFormed.arc_mem a arc).2⟩

theorem Clean.addEdge {t : Topology} (clean : t.Clean) (u v : Text) : (t.addEdge u v).Clean := by
  -- the ends are added as nodes first, which keeps the arcs
  have ends := (clean.addNode u).addNode v
  have hasU : u ∈ ((t.addNode u).addNode v).nodes :=
    (mem_nodes_addNode _ v u).2 (Or.inl ((mem_nodes_addNode t u u).2 (Or.inr rfl)))
  have hasV : v ∈ ((t.addNode u).addNode v).nodes := (mem_nodes_addNode _ v v).2 (Or.inr rfl)
  have arcs : ((t.addNode u).addNode v).arcs = t.arcs := by rw [arcs_addNode, arcs_addNode]
  refine ⟨⟨by rw [nodes_addEdge]; exact ends.wellFormed.nodup, fun a arc => ?_⟩, ?_⟩
  · rw [nodes_addEdge]
    rw [arcs_addEdge] at arc
    split at arc
    · exact ends.wellFormed.arc_mem a (by rw [arcs]; exact arc)
    · rcases List.mem_append.1 arc with old | added
      · exact ends.wellFormed.arc_mem a (by rw [arcs]; exact old)
      · rw [List.mem_singleton.1 added]
        exact ⟨hasU, hasV⟩
  · rw [arcs_addEdge]
    split
    · exact clean.nodup
    · rename_i fresh
      exact clean.nodup.append (List.nodup_singleton _) (by simpa using fresh)

theorem Clean.of_built {t : Topology} (built : library.Built t) : t.Clean := by
  induction built with
  | empty => exact ⟨⟨List.nodup_nil, fun _ arc => absurd arc List.not_mem_nil⟩, List.nodup_nil⟩
  | addNode v _ clean => exact clean.addNode v
  | addEdge u v _ clean => exact clean.addEdge u v

section Clean

variable {t : Topology} (clean : t.Clean)
include clean

theorem inDegree_eq_of_clean (v : Text) : t.inDegree v = (t.nodes.filter (v ∈ t.successors ·)).length := by
  have entering : (t.arcs.filter (·.2 = v)).Perm ((t.nodes.filter (v ∈ t.successors ·)).map (·, v)) := by
    refine (List.perm_ext_iff_of_nodup (clean.nodup.filter _)
      ((clean.wellFormed.nodup.filter _).map fun x y same => (Prod.mk.inj same).1)).2 fun a => ?_
    obtain ⟨u, w⟩ := a
    simp only [List.mem_filter, List.mem_map, mem_successors, decide_eq_true_eq, Prod.mk.injEq]
    constructor
    · rintro ⟨arc, rfl⟩
      exact ⟨u, ⟨(clean.wellFormed.arc_mem _ arc).1, arc⟩, rfl, rfl⟩
    · rintro ⟨x, ⟨-, arc⟩, rfl, rfl⟩
      exact ⟨arc, rfl⟩
  rw [inDegree, entering.length_eq, List.length_map]

theorem arcs_perm_flatMap : t.arcs.Perm (t.nodes.flatMap fun u => t.arcs.filter (·.1 = u)) := by
  refine (List.perm_ext_iff_of_nodup clean.nodup ?_).2 fun a => ?_
  · refine List.nodup_flatMap.2 ⟨fun u _ => clean.nodup.filter _,
      clean.wellFormed.nodup.pairwise_of_forall_ne fun u _ w _ apart => ?_⟩
    refine List.disjoint_left.2 fun a fromU fromW => apart ?_
    simp only [List.mem_filter, decide_eq_true_eq] at fromU fromW
    exact fromU.2.symm.trans fromW.2
  · simp only [List.mem_flatMap, List.mem_filter, decide_eq_true_eq]
    constructor
    · intro arc
      exact ⟨a.1, (clean.wellFormed.arc_mem a arc).1, arc, rfl⟩
    · rintro ⟨u, -, arc, -⟩
      exact arc

theorem arcs_length_of_clean : t.arcs.length = (t.nodes.flatMap t.successors).length := by
  have successors : t.nodes.flatMap t.successors = (t.nodes.flatMap fun u => t.arcs.filter (·.1 = u)).map (·.2) := by
    rw [List.map_flatMap]
    rfl
  rw [(arcs_perm_flatMap clean).length_eq, successors, List.length_map]

end Clean

/-- Topologies have the laws of networkx's graphs. -/
theorem library_laws : library.Laws where
  nodes_empty := rfl
  successors_empty _ := rfl
  nodes_addNode := nodes_addNode
  successors_addNode t v u := by
    simp only [library, successors, arcs_addNode]
  nodes_addEdge := nodes_addEdge
  successors_addEdge := successors_addEdge
  hasNode_iff _ _ := List.contains_iff_mem
  hasEdge_iff t u v := by
    simp [library]
  inDegree_eq _ built := inDegree_eq_of_clean (Clean.of_built built)
  outDegree_eq t u := by
    simp [library, outDegree, successors]
  edgeCount_eq _ built := arcs_length_of_clean (Clean.of_built built)
  isAcyclic_iff t built := by
    have arcs : (fun u w => w ∈ t.successors u) = fun u w => (u, w) ∈ t.arcs := by
      funext u w
      simp
    exact arcs ▸ isAcyclic_iff (Clean.of_built built).wellFormed

/-! ## The graph of a diagram -/

theorem foldl_addNode (vs : List Text) :
    ∀ t : Topology, (t.nodes ++ vs).Nodup → vs.foldl addNode t = { t with nodes := t.nodes ++ vs } := by
  induction vs with
  | nil => intro t _; simp
  | cons v rest ih =>
      intro t nodup
      have fresh : v ∉ t.nodes := fun known =>
        (List.nodup_append.1 nodup).2.2 v known v List.mem_cons_self rfl
      have added : t.addNode v = { t with nodes := t.nodes ++ [v] } := by
        simp [addNode, fresh]
      rw [List.foldl_cons, added, ih _ (by simpa using nodup)]
      simp

theorem addDiagramEdge_library (nodes : List Text) (arcs : List (Text × Text)) (e : Edge) :
    library.addDiagramEdge ⟨nodes, arcs⟩ e = ⟨nodes, addArc nodes arcs e⟩ := by
  unfold GraphLibrary.addDiagramEdge addArc
  show (if nodes.contains e.source && nodes.contains e.target && !arcs.contains (e.source, e.target) then
    addEdge ⟨nodes, arcs⟩ e.source e.target else ⟨nodes, arcs⟩) = _
  split
  · rename_i joins
    simp only [Bool.and_eq_true, List.contains_iff_mem, Bool.not_eq_true'] at joins
    have fresh : (e.source, e.target) ∉ arcs := fun known => by simp [known] at joins
    simp [addEdge, addNode, joins.1.1, joins.1.2, fresh]
  · rfl

theorem foldl_addDiagramEdge (nodes : List Text) :
    ∀ (edges : List Edge) (arcs : List (Text × Text)),
      edges.foldl library.addDiagramEdge ⟨nodes, arcs⟩ = ⟨nodes, edges.foldl (addArc nodes) arcs⟩ := by
  intro edges
  induction edges with
  | nil => intro arcs; rfl
  | cons e rest ih =>
      intro arcs
      rw [List.foldl_cons, addDiagramEdge_library, ih]
      rfl

theorem library_ofDiagram (g : Diagram) : library.ofDiagram g = ofDiagram g := by
  have nodes : g.nodeIds.foldl library.addNode library.empty = ⟨g.nodeIds, []⟩ :=
    foldl_addNode g.nodeIds ⟨[], []⟩ g.nodup
  rw [GraphLibrary.ofDiagram, nodes, foldl_addDiagramEdge]
  rfl

theorem library_roots (t : Topology) : library.roots t = t.roots := by
  unfold GraphLibrary.roots roots
  rfl

theorem successors_library_topology {t : Topology} (wf : t.WellFormed) (v : Text) :
    (library.topology t).successors v = t.successors v := by
  have fromEach : ∀ vs : List Text, vs.Nodup →
      ((vs.flatMap fun u => (t.successors u).map (u, ·)).filter (·.1 = v)).map (·.2) =
        if v ∈ vs then t.successors v else [] := by
    intro vs
    induction vs with
    | nil => intro _; simp
    | cons u rest ih =>
        intro nodup
        rw [List.flatMap_cons, List.filter_append, List.map_append, ih (List.nodup_cons.1 nodup).2]
        by_cases same : u = v
        · subst same
          have fresh := (List.nodup_cons.1 nodup).1
          simp [fresh, List.filter_map, Function.comp_def]
        · simp [same, Ne.symm same, List.filter_map, Function.comp_def]
  show ((t.nodes.flatMap fun u => (t.successors u).map (u, ·)).filter (·.1 = v)).map (·.2) = _
  rw [fromEach t.nodes wf.nodup]
  split
  · rfl
  · rename_i absent
    -- no arc leaves an id that names no node
    have none : ∀ a ∈ t.arcs, ¬ decide (a.1 = v) = true := by
      intro a arc from_v
      simp only [decide_eq_true_eq] at from_v
      exact absent (from_v ▸ (wf.arc_mem a arc).1)
    rw [successors, List.filter_eq_nil_iff.2 none]
    rfl

end Topology

namespace GraphLibrary

/-- A library with networkx's laws builds a graph of a diagram that answers as the diagram's
topology: the same nodes in order, the same successors, degrees, edge count, roots and acyclicity;
and the nodes and edges it lists are put in the same layers. -/
theorem ofDiagram_answersAsTopology {Graph : Type} {lib : GraphLibrary Graph} (laws : lib.Laws)
    (g : Diagram) :
    let G := lib.ofDiagram g
    let t := Topology.ofDiagram g
    lib.nodes G = t.nodes ∧ (∀ u, lib.successors G u = t.successors u) ∧
      (∀ v, lib.inDegree G v = t.inDegree v) ∧ (∀ u, lib.outDegree G u = t.outDegree u) ∧
      lib.edgeCount G = t.arcs.length ∧ lib.roots G = t.roots ∧ lib.isAcyclic G = t.isAcyclic ∧
      (lib.topology G).layers = t.layers := by
  intro G t
  have agree := agree_ofDiagram laws Topology.library_laws g
  rw [Topology.library_ofDiagram] at agree
  have built : lib.Built G := built_ofDiagram lib g
  have builtT := built_ofDiagram Topology.library g
  rw [Topology.library_ofDiagram] at builtT
  have wf := Topology.wellFormed_ofDiagram g
  refine ⟨agree.nodes, agree.successors, agree.inDegree laws Topology.library_laws built builtT,
    agree.outDegree laws Topology.library_laws, agree.edgeCount laws Topology.library_laws built builtT,
    ?_, agree.isAcyclic laws Topology.library_laws built builtT, ?_⟩
  · rw [agree.roots laws Topology.library_laws built builtT, Topology.library_roots]
  · rw [agree.topology]
    exact Topology.layers_congr rfl (Topology.successors_library_topology wf)

end GraphLibrary

end Flowchart
