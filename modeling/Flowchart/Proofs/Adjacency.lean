import Flowchart.Proofs.LayoutInputs
import Mathlib.Data.Fintype.Card
import Mathlib.Data.Fintype.EquivFin
import Mathlib.Data.Fintype.Sets
import Mathlib.Logic.Relation

/-! # Adjacency read from the edge list

The topology of a diagram says no more and no less than its edge list read plainly. Call `(u, v)`
joined when some edge runs from `u` to `v` and both are nodes (`Flowchart.Diagram.Joins`). The arcs
are the joined pairs without repeats, in the order each first occurs among the edges
(`Flowchart.Topology.arcs_ofDiagram`). So the successors of a node are the distinct nodes it is
joined to, in order of first occurrence; its degrees count distinct neighbours, a loop once each
way; an id that names no node has none of them; and the roots are the nodes nothing is joined
to, or the first node when there are none (`Flowchart.Topology.ofDiagram_edgeListReading`).

The diagram is acyclic exactly when no chain of joined pairs leads from a node back to itself.
Peeling keeps every node on a cycle, since each is entered from another one
(`Flowchart.Topology.mem_peel_of_entered`); and without a cycle every nonempty set of nodes has
one that no arc from the set enters (`Flowchart.Topology.exists_cycle_of_entered`), so each round
peels a node off (`Flowchart.Topology.peel_eq_nil`). -/

set_option autoImplicit false

namespace Flowchart

open Relation

/-! ## First occurrences -/

section FirstOccurrences

variable {α β : Type} [BEq α] [LawfulBEq α] [BEq β] [LawfulBEq β]

theorem filter_eraseDups (p : α → Bool) : ∀ l : List α, l.eraseDups.filter p = (l.filter p).eraseDups
  | [] => rfl
  | a :: rest => by
      have shorter : (rest.filter fun b => !b == a).length < rest.length + 1 :=
        Nat.lt_succ_of_le (List.length_filter_le _ _)
      rw [List.eraseDups_cons, List.filter_cons, filter_eraseDups p _, List.filter_filter]
      by_cases keep : p a = true
      · rw [if_pos keep, List.filter_cons_of_pos keep, List.eraseDups_cons, List.filter_filter]
        congr 3
        funext b
        rw [Bool.and_comm]
      · rw [if_neg keep, List.filter_cons_of_neg keep]
        congr 1
        apply List.filter_congr
        intro b mem
        by_cases same : b = a
        · subst same
          simp [keep]
        · simp [same]
termination_by l => l.length

theorem map_eraseDups (f : α → β) :
    ∀ l : List α, (∀ x ∈ l, ∀ y ∈ l, f x = f y → x = y) → (l.map f).eraseDups = l.eraseDups.map f
  | [] => fun _ => rfl
  | a :: rest => fun injective => by
      have shorter : (rest.filter fun b => !b == a).length < rest.length + 1 :=
        Nat.lt_succ_of_le (List.length_filter_le _ _)
      have same : (rest.map f).filter (fun y => !y == f a) = (rest.filter fun b => !b == a).map f := by
        rw [List.filter_map]
        congr 1
        apply List.filter_congr
        intro b mem
        have iff : f b = f a ↔ b = a :=
          ⟨injective b (List.mem_cons_of_mem a mem) a List.mem_cons_self, congrArg f⟩
        simp [iff]
      rw [List.map_cons, List.eraseDups_cons, same, List.eraseDups_cons, List.map_cons,
        map_eraseDups f _ fun x hx y hy =>
          injective x (List.mem_cons_of_mem a (List.mem_of_mem_filter hx)) y
            (List.mem_cons_of_mem a (List.mem_of_mem_filter hy))]
termination_by l => l.length

end FirstOccurrences

namespace Diagram

/-! ## The edge list read plainly -/

/-- An edge runs from the node `u` to the node `v`. -/
def Joins (g : Diagram) (u v : Text) : Prop :=
  u ∈ g.nodeIds ∧ v ∈ g.nodeIds ∧ ∃ e ∈ g.edges, e.source = u ∧ e.target = v

/-- The ends of every edge between two nodes, in the order of the edges, repeats kept. -/
def joinedPairs (g : Diagram) : List (Text × Text) :=
  (g.edges.filter fun e => e.source ∈ g.nodeIds ∧ e.target ∈ g.nodeIds).map fun e => (e.source, e.target)

/-- The distinct nodes an edge leads to from `u`, in order of first occurrence. -/
def successorIds (g : Diagram) (u : Text) : List Text :=
  ((g.joinedPairs.filter (·.1 = u)).map (·.2)).eraseDups

/-- The distinct nodes an edge leads from to `v`, in order of first occurrence. -/
def predecessorIds (g : Diagram) (v : Text) : List Text :=
  ((g.joinedPairs.filter (·.2 = v)).map (·.1)).eraseDups

/-- The nodes no edge enters from a node, in node order; the first node alone when every node is
entered. -/
def rootIds (g : Diagram) : List Text :=
  if g.nodeIds.filter (g.predecessorIds · = []) = [] then g.nodeIds.take 1
  else g.nodeIds.filter (g.predecessorIds · = [])

theorem mem_joinedPairs (g : Diagram) (u v : Text) : (u, v) ∈ g.joinedPairs ↔ g.Joins u v := by
  simp only [joinedPairs, List.mem_map, List.mem_filter, decide_eq_true_eq, Prod.mk.injEq, Joins]
  constructor
  · rintro ⟨e, ⟨mem, source, target⟩, rfl, rfl⟩
    exact ⟨source, target, e, mem, rfl, rfl⟩
  · rintro ⟨source, target, e, mem, rfl, rfl⟩
    exact ⟨e, ⟨mem, source, target⟩, rfl, rfl⟩

theorem joinedPairs_ends {g : Diagram} {a : Text × Text} (mem : a ∈ g.joinedPairs) :
    a.1 ∈ g.nodeIds ∧ a.2 ∈ g.nodeIds := by
  obtain ⟨u, v⟩ := a
  have joins := (mem_joinedPairs g u v).1 mem
  exact ⟨joins.1, joins.2.1⟩

theorem successorIds_of_not_mem {g : Diagram} {u : Text} (absent : u ∉ g.nodeIds) :
    g.successorIds u = [] ∧ g.predecessorIds u = [] := by
  have none : ∀ a ∈ g.joinedPairs, a.1 ≠ u ∧ a.2 ≠ u := fun a mem =>
    ⟨fun same => absent (same ▸ (joinedPairs_ends mem).1),
      fun same => absent (same ▸ (joinedPairs_ends mem).2)⟩
  constructor
  · rw [successorIds, List.filter_eq_nil_iff.2 fun a mem => by simpa using (none a mem).1]
    rfl
  · rw [predecessorIds, List.filter_eq_nil_iff.2 fun a mem => by simpa using (none a mem).2]
    rfl

end Diagram

namespace Topology

/-! ## Arcs are the joined pairs, first occurrences only -/

/-- The ends of the edges between two of `nodes`, repeats kept. -/
def pairsAmong (nodes : List Text) (edges : List Edge) : List (Text × Text) :=
  (edges.filter fun e => e.source ∈ nodes ∧ e.target ∈ nodes).map fun e => (e.source, e.target)

theorem foldl_addArc_eq (nodes : List Text) :
    ∀ (edges : List Edge) (acc : List (Text × Text)), acc.Nodup →
      edges.foldl (addArc nodes) acc = (acc ++ pairsAmong nodes edges).eraseDups := by
  intro edges
  induction edges with
  | nil =>
      intro acc nodup
      simp [pairsAmong, eraseDups_of_nodup nodup]
  | cons e rest ih =>
      intro acc nodup
      rw [List.foldl_cons]
      by_cases joins : e.source ∈ nodes ∧ e.target ∈ nodes
      · have pairs : pairsAmong nodes (e :: rest) = (e.source, e.target) :: pairsAmong nodes rest := by
          simp [pairsAmong, joins]
        rw [pairs]
        by_cases old : (e.source, e.target) ∈ acc
        · -- the pair is there already: the edge adds nothing, and a repeat is erased
          rw [addArc_of_present (Or.inl old), ih acc nodup, List.eraseDups_append,
            List.eraseDups_append]
          congr 2
          simp [List.removeAll, old]
        · have added : addArc nodes acc e = acc ++ [(e.source, e.target)] := by
            simp [addArc, joins, old]
          have nodup' : (acc ++ [(e.source, e.target)]).Nodup :=
            List.nodup_append.2 ⟨nodup, List.nodup_singleton _, fun a mem b new same => by
              rw [List.mem_singleton.1 new] at same
              exact old (same ▸ mem)⟩
          rw [added, ih _ nodup', List.append_assoc, List.singleton_append]
      · have pairs : pairsAmong nodes (e :: rest) = pairsAmong nodes rest := by
          simp [pairsAmong, joins]
        rw [pairs, addArc_of_present (by tauto), ih acc nodup]

/-- The arcs of a diagram are its joined pairs, each at its first occurrence. -/
theorem arcs_ofDiagram (g : Diagram) : (ofDiagram g).arcs = g.joinedPairs.eraseDups := by
  rw [ofDiagram, foldl_addArc_eq g.nodeIds g.edges [] List.nodup_nil, List.nil_append]
  rfl

theorem mem_arcs_ofDiagram (g : Diagram) (u v : Text) : (u, v) ∈ (ofDiagram g).arcs ↔ g.Joins u v := by
  rw [arcs_ofDiagram, List.mem_eraseDups, Diagram.mem_joinedPairs]

theorem successors_ofDiagram (g : Diagram) (u : Text) : (ofDiagram g).successors u = g.successorIds u := by
  rw [successors, arcs_ofDiagram, filter_eraseDups, Diagram.successorIds, map_eraseDups]
  -- the pairs from `u` differ in their second end only
  intro x hx y hy same
  have hx' := (List.mem_filter.1 hx).2
  have hy' := (List.mem_filter.1 hy).2
  simp only [decide_eq_true_eq] at hx' hy'
  exact Prod.ext (hx'.trans hy'.symm) same

theorem predecessors_ofDiagram (g : Diagram) (v : Text) :
    ((ofDiagram g).arcs.filter (·.2 = v)).map (·.1) = g.predecessorIds v := by
  rw [arcs_ofDiagram, filter_eraseDups, Diagram.predecessorIds, map_eraseDups]
  intro x hx y hy same
  have hx' := (List.mem_filter.1 hx).2
  have hy' := (List.mem_filter.1 hy).2
  simp only [decide_eq_true_eq] at hx' hy'
  exact Prod.ext same (hx'.trans hy'.symm)

theorem inDegree_ofDiagram (g : Diagram) (v : Text) :
    (ofDiagram g).inDegree v = (g.predecessorIds v).length := by
  rw [← predecessors_ofDiagram, List.length_map]
  rfl

theorem outDegree_ofDiagram (g : Diagram) (u : Text) :
    (ofDiagram g).outDegree u = (g.successorIds u).length := by
  rw [← successors_ofDiagram, successors, List.length_map]
  rfl

theorem roots_ofDiagram (g : Diagram) : (ofDiagram g).roots = g.rootIds := by
  have entered : ∀ v, (ofDiagram g).inDegree v = 0 ↔ g.predecessorIds v = [] := by
    intro v
    rw [inDegree_ofDiagram, List.length_eq_zero_iff]
  have free : (ofDiagram g).nodes.filter ((ofDiagram g).inDegree · = 0) =
      g.nodeIds.filter (g.predecessorIds · = []) :=
    List.filter_congr fun v _ => by simp only [entered v]
  unfold roots Diagram.rootIds
  rw [free]
  split <;> simp_all [ofDiagram]

/-! ## Cycles -/

/-- Nodes each entered from one of them close a cycle: otherwise the chains among them would
descend forever in a finite set. -/
theorem exists_cycle_of_entered {R : Text → Text → Prop} {vs : List Text} (ne : vs ≠ [])
    (entered : ∀ v ∈ vs, ∃ u ∈ vs, R u v) : ∃ v, TransGen R v v := by
  by_contra acyclic
  simp only [not_exists] at acyclic
  let r : {x // x ∈ vs.toFinset} → {x // x ∈ vs.toFinset} → Prop := fun a b => TransGen R a b
  have : IsTrans _ r := ⟨fun _ _ _ hab hbc => hab.trans hbc⟩
  have : Std.Irrefl r := ⟨fun a h => acyclic a h⟩
  have never : ∀ a : {x // x ∈ vs.toFinset}, False := fun a =>
    (Finite.wellFounded_of_trans_of_irrefl r).induction (C := fun _ => False) a fun m below => by
      obtain ⟨u, mem, arc⟩ := entered m.1 (List.mem_toFinset.1 m.2)
      exact below ⟨u, List.mem_toFinset.2 mem⟩ (TransGen.single arc)
  obtain ⟨v, mem⟩ := List.exists_mem_of_ne_nil vs ne
  exact never ⟨v, List.mem_toFinset.2 mem⟩

/-- Without a cycle, peeling removes every node. The arcs left always start at nodes left, so a
round that finds no node to peel would leave nodes each entered from one of them. -/
theorem peel_eq_nil {R : Text → Text → Prop} (acyclic : ∀ v, ¬ TransGen R v v) :
    ∀ (n : Nat) (vs : List Text) (arcs : List (Text × Text)), vs.length ≤ n →
      (∀ a ∈ arcs, R a.1 a.2 ∧ a.1 ∈ vs) → peel n vs arcs = [] := by
  intro n
  induction n with
  | zero =>
      intro vs arcs short _
      rw [List.length_eq_zero_iff.1 (Nat.le_zero.1 short)]
      rfl
  | succ n ih =>
      intro vs arcs short inside
      simp only [peel]
      split
      · rename_i stuck
        by_contra left
        have entered : ∀ v ∈ vs, ∃ u ∈ vs, R u v := by
          intro v mem
          have notFree : v ∉ vs.filter fun v => !arcs.any (·.2 = v) := by
            simp [List.isEmpty_iff.1 stuck]
          simp only [List.mem_filter, mem, true_and, Bool.not_eq_eq_eq_not, Bool.not_true,
            List.any_eq_false, not_forall, decide_eq_true_eq, exists_prop, not_not] at notFree
          obtain ⟨a, arc, rfl⟩ := notFree
          exact ⟨a.1, (inside a arc).2, (inside a arc).1⟩
        obtain ⟨v, cycle⟩ := exists_cycle_of_entered left entered
        exact acyclic v cycle
      · rename_i peeled
        have nonempty : (vs.filter fun v => !arcs.any (·.2 = v)) ≠ [] :=
          fun none => peeled (List.isEmpty_iff.2 none)
        obtain ⟨v, free⟩ := List.exists_mem_of_ne_nil _ nonempty
        have dropped : (vs.filter fun w => !(vs.filter fun v => !arcs.any (·.2 = v)).contains w).length <
            vs.length :=
          List.length_filter_lt_length_iff_exists.2 ⟨v, (List.mem_filter.1 free).1, by rw [List.contains_iff_mem.2 free]; decide⟩
        apply ih
        · omega
        · intro a mem
          obtain ⟨arc, kept⟩ := List.mem_filter.1 mem
          exact ⟨(inside a arc).1, List.mem_filter.2 ⟨(inside a arc).2, kept⟩⟩

theorem isAcyclic_iff {t : Topology} (wf : t.WellFormed) :
    t.isAcyclic = true ↔ ∀ v, ¬ TransGen (fun u w => (u, w) ∈ t.arcs) v v := by
  constructor
  · intro acyclic v cycle
    -- every node on a cycle is entered from a node on a cycle, so none is peeled off
    have kept := mem_peel_of_entered (fun w => TransGen (fun u w => (u, w) ∈ t.arcs) w w)
      t.nodes.length t.nodes t.arcs (fun w onCycle => by
        obtain ⟨u, back, arc⟩ := TransGen.tail'_iff.1 onCycle
        exact ⟨(wf.arc_mem _ arc).2, u, TransGen.head' arc back, arc⟩) v cycle
    simp only [isAcyclic, List.isEmpty_iff] at acyclic
    rw [acyclic] at kept
    exact List.not_mem_nil kept
  · intro acyclic
    simp only [isAcyclic, List.isEmpty_iff]
    exact peel_eq_nil acyclic _ _ _ le_rfl fun a arc => ⟨arc, (wf.arc_mem a arc).1⟩

theorem isAcyclic_ofDiagram_iff (g : Diagram) :
    (ofDiagram g).isAcyclic = true ↔ ∀ v, ¬ TransGen g.Joins v v := by
  have same : (fun u w => (u, w) ∈ (ofDiagram g).arcs) = g.Joins := by
    funext u w
    exact propext (mem_arcs_ofDiagram g u w)
  rw [isAcyclic_iff (wellFormed_ofDiagram g), same]

/-! ## The topology against the edge list -/

/-- The topology of a diagram agrees with its edge list read plainly, repeated edges and edges
to missing nodes included: the nodes in order; the successors of a node as the distinct nodes it
is joined to, in order of first occurrence; as many arcs as distinct joined pairs; degrees that
count distinct neighbours; nothing for an id that names no node; the roots as the nodes nothing
is joined to, or the first node; and acyclic exactly when no chain of joined pairs is a cycle. -/
theorem ofDiagram_edgeListReading (g : Diagram) :
    (ofDiagram g).nodes = g.nodeIds ∧
      (∀ u, (ofDiagram g).successors u = g.successorIds u) ∧
      (ofDiagram g).arcs.length = g.joinedPairs.eraseDups.length ∧
      (∀ v, (ofDiagram g).inDegree v = (g.predecessorIds v).length) ∧
      (∀ u, (ofDiagram g).outDegree u = (g.successorIds u).length) ∧
      (∀ u, u ∉ g.nodeIds →
        (ofDiagram g).successors u = [] ∧ (ofDiagram g).inDegree u = 0 ∧ (ofDiagram g).outDegree u = 0) ∧
      (ofDiagram g).roots = g.rootIds ∧
      ((ofDiagram g).isAcyclic = true ↔ ∀ v, ¬ TransGen g.Joins v v) := by
  refine ⟨rfl, successors_ofDiagram g, by rw [arcs_ofDiagram], inDegree_ofDiagram g,
    outDegree_ofDiagram g, fun u absent => ?_, roots_ofDiagram g, isAcyclic_ofDiagram_iff g⟩
  obtain ⟨noSuccessor, noPredecessor⟩ := Diagram.successorIds_of_not_mem absent
  rw [successors_ofDiagram, inDegree_ofDiagram, outDegree_ofDiagram, noSuccessor, noPredecessor]
  exact ⟨rfl, rfl, rfl⟩

end Topology

end Flowchart
