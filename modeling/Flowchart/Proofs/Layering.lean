import Flowchart.Layout.Topology
import Mathlib.Data.List.Perm.Subperm
import Mathlib.Data.List.Nodup

/-! # Breadth-first layers

The layers of a diagram follow the shortest walks from its roots: a node reached from the roots
lies in the layer of its distance from them, the roots first, in node order, and each next layer
in the order its nodes are first found from the layer before. The nodes no root reaches close the
last layer, in node order. Every node lies in exactly one layer, no layer is empty, and in an
acyclic diagram the roots reach every node.

Walks and distances are stated on their own (`ReachesIn`, `Distance`), not through the search.
One round of the search keeps the invariant `Round`: the nodes placed are those closer than the
round's distance, and the nodes about to be placed are those at that distance. The fuel the search
is given, one round per node, is never the reason it stops. -/

set_option autoImplicit false

namespace Flowchart.Topology

/-! ## Walks from the roots -/

/-- The roots reach `v` by a walk of exactly `n` arcs. -/
inductive ReachesIn (t : Topology) : Nat → Text → Prop
  | root {v : Text} : v ∈ t.roots → t.ReachesIn 0 v
  | arc {n : Nat} {u v : Text} : t.ReachesIn n u → (u, v) ∈ t.arcs → t.ReachesIn (n + 1) v

/-- The shortest walk from the roots to `v` has `n` arcs. -/
def Distance (t : Topology) (v : Text) (n : Nat) : Prop :=
  t.ReachesIn n v ∧ ∀ m < n, ¬ t.ReachesIn m v

/-- Some walk from the roots reaches `v`. -/
def Reachable (t : Topology) (v : Text) : Prop := ∃ n, t.ReachesIn n v

section Walks
variable {t : Topology}

theorem reachesIn_zero_iff (v : Text) : t.ReachesIn 0 v ↔ v ∈ t.roots := by
  constructor
  · intro h
    cases h with
    | root h => exact h
  · exact ReachesIn.root

theorem reachesIn_succ_iff (n : Nat) (v : Text) :
    t.ReachesIn (n + 1) v ↔ ∃ u, t.ReachesIn n u ∧ (u, v) ∈ t.arcs := by
  constructor
  · intro h
    cases h with
    | arc hu huv => exact ⟨_, hu, huv⟩
  · rintro ⟨u, hu, huv⟩
    exact ReachesIn.arc hu huv

theorem Distance.unique {v : Text} {n m : Nat} (hn : t.Distance v n) (hm : t.Distance v m) :
    n = m := by
  rcases Nat.lt_trichotomy n m with lt | eq | gt
  · exact absurd hn.1 (hm.2 n lt)
  · exact eq
  · exact absurd hm.1 (hn.2 m gt)

theorem exists_distance_le {n : Nat} {v : Text} (h : t.ReachesIn n v) :
    ∃ m ≤ n, t.Distance v m := by
  induction n using Nat.strongRecOn with
  | ind n ih =>
      by_cases shorter : ∃ m < n, t.ReachesIn m v
      · obtain ⟨m, lt, hm⟩ := shorter
        obtain ⟨k, le, hk⟩ := ih m lt hm
        exact ⟨k, by omega, hk⟩
      · exact ⟨n, Nat.le_refl n, h, fun m lt hm => shorter ⟨m, lt, hm⟩⟩

theorem reachable_iff_exists_distance (v : Text) : t.Reachable v ↔ ∃ n, t.Distance v n := by
  constructor
  · rintro ⟨n, h⟩
    obtain ⟨m, -, hm⟩ := exists_distance_le h
    exact ⟨m, hm⟩
  · rintro ⟨n, h⟩
    exact ⟨n, h.1⟩

theorem distance_zero_iff (v : Text) : t.Distance v 0 ↔ v ∈ t.roots := by
  rw [← reachesIn_zero_iff]
  exact ⟨fun h => h.1, fun h => ⟨h, fun m lt => absurd lt (Nat.not_lt_zero m)⟩⟩

theorem distance_succ_iff (n : Nat) (v : Text) :
    t.Distance v (n + 1) ↔
      (∃ u, t.Distance u n ∧ (u, v) ∈ t.arcs) ∧ ∀ m ≤ n, ¬ t.Distance v m := by
  constructor
  · rintro ⟨reach, shortest⟩
    obtain ⟨u, hu, huv⟩ := (reachesIn_succ_iff n v).1 reach
    refine ⟨⟨u, ⟨hu, fun m lt hm => ?_⟩, huv⟩, fun m le hm => shortest m (by omega) hm.1⟩
    exact shortest (m + 1) (by omega) (ReachesIn.arc hm huv)
  · rintro ⟨⟨u, hu, huv⟩, far⟩
    refine ⟨ReachesIn.arc hu.1 huv, fun m lt hm => ?_⟩
    obtain ⟨k, le, hk⟩ := exists_distance_le hm
    exact far k (by omega) hk

theorem exists_distance_of_le {v : Text} {d : Nat} (h : t.Distance v d) {k : Nat} (le : k ≤ d) :
    ∃ u, t.Distance u k := by
  induction d generalizing v with
  | zero => exact ⟨v, by rwa [Nat.le_zero.1 le]⟩
  | succ d ih =>
      rcases Nat.lt_or_ge k (d + 1) with lt | ge
      · obtain ⟨⟨u, hu, -⟩, -⟩ := (distance_succ_iff d v).1 h
        exact ih hu (by omega)
      · exact ⟨v, by rwa [show k = d + 1 by omega]⟩

end Walks

/-! ## Fresh discoveries -/

theorem foldl_fresh_eq (taken : List Text) :
    ∀ (vs acc : List Text),
      vs.foldl (fun acc v => if taken.contains v || acc.contains v then acc else acc ++ [v]) acc =
        acc ++ (vs.filter fun v => v ∉ taken ∧ v ∉ acc).eraseDups := by
  intro vs
  induction vs with
  | nil => intro acc; simp
  | cons v vs ih =>
      intro acc
      by_cases old : v ∈ taken ∨ v ∈ acc
      · have skip : (taken.contains v || acc.contains v) = true := by simpa using old
        simp only [List.foldl_cons, skip, if_true, ih acc]
        rcases old with old | old <;> simp [old]
      · have keep : (taken.contains v || acc.contains v) = false := by simpa using old
        simp only [List.foldl_cons, keep, Bool.false_eq_true, if_false, ih (acc ++ [v])]
        rw [not_or] at old
        rw [List.filter_cons_of_pos (by simpa using old), List.eraseDups_cons, List.append_assoc,
          List.singleton_append, List.filter_filter]
        congr 3
        apply List.filter_congr
        intro w _
        by_cases same : w = v <;> simp [same]

theorem fresh_eq_eraseDups (taken vs : List Text) :
    fresh taken vs = (vs.filter (· ∉ taken)).eraseDups := by
  unfold fresh
  rw [foldl_fresh_eq]
  simp

@[simp] theorem mem_fresh (taken vs : List Text) (v : Text) :
    v ∈ fresh taken vs ↔ v ∈ vs ∧ v ∉ taken := by
  simp [fresh_eq_eraseDups, List.mem_eraseDups]

theorem nodup_eraseDups {α : Type} [BEq α] [LawfulBEq α] (l : List α) : l.eraseDups.Nodup := by
  -- `eraseDups` recurs on a filtered tail, so the induction is on the length
  induction h : l.length using Nat.strongRecOn generalizing l with
  | ind n ih =>
      cases l with
      | nil => simp
      | cons a rest =>
          rw [List.eraseDups_cons, List.nodup_cons]
          have shorter : (rest.filter fun b => !b == a).length < n := by
            have := List.length_filter_le (fun b => !b == a) rest
            simp only [List.length_cons] at h
            omega
          refine ⟨fun mem => ?_, ih _ shorter _ rfl⟩
          simpa using (List.mem_eraseDups.1 mem)

theorem nodup_fresh (taken vs : List Text) : (fresh taken vs).Nodup := by
  rw [fresh_eq_eraseDups]
  exact nodup_eraseDups _

theorem eraseDups_of_nodup {α : Type} [BEq α] [LawfulBEq α] :
    ∀ {l : List α}, l.Nodup → l.eraseDups = l := by
  intro l
  induction l with
  | nil => intro _; rfl
  | cons a rest ih =>
      intro nd
      rw [List.nodup_cons] at nd
      have unchanged : (rest.filter fun b => !b == a) = rest := by
        rw [List.filter_eq_self]
        intro b mem
        simpa using fun eq : b = a => nd.1 (eq ▸ mem)
      rw [List.eraseDups_cons, unchanged, ih nd.2]

theorem fresh_of_disjoint {taken vs : List Text} (nd : vs.Nodup) (apart : ∀ v ∈ vs, v ∉ taken) :
    fresh taken vs = vs := by
  rw [fresh_eq_eraseDups, List.filter_eq_self.2 (by simpa using apart), eraseDups_of_nodup nd]

/-! ## Topologies of diagrams -/

/-- The nodes are distinct and every arc joins two nodes. -/
structure WellFormed (t : Topology) : Prop where
  nodup : t.nodes.Nodup
  arc_mem : ∀ a ∈ t.arcs, a.1 ∈ t.nodes ∧ a.2 ∈ t.nodes

theorem arc_mem_foldl_addArc (nodes : List Text) :
    ∀ (edges : List Edge) (acc : List (Text × Text)), (∀ a ∈ acc, a.1 ∈ nodes ∧ a.2 ∈ nodes) →
      ∀ a ∈ edges.foldl (addArc nodes) acc, a.1 ∈ nodes ∧ a.2 ∈ nodes := by
  intro edges
  induction edges with
  | nil => intro acc h; exact h
  | cons e rest ih =>
      intro acc h
      apply ih
      unfold addArc
      split
      · rename_i fresh
        simp only [Bool.and_eq_true, List.contains_iff_mem] at fresh
        intro a mem
        rcases List.mem_append.1 mem with old | new
        · exact h a old
        · rw [List.mem_singleton.1 new]
          exact ⟨fresh.1.1, fresh.1.2⟩
      · exact h

theorem wellFormed_ofDiagram (g : Diagram) : (ofDiagram g).WellFormed :=
  ⟨g.nodup, arc_mem_foldl_addArc g.nodeIds g.edges [] (by simp)⟩

@[simp] theorem mem_successors (t : Topology) (u v : Text) :
    v ∈ t.successors u ↔ (u, v) ∈ t.arcs := by
  simp only [successors, List.mem_map, List.mem_filter, decide_eq_true_eq]
  constructor
  · rintro ⟨a, ⟨mem, rfl⟩, rfl⟩
    exact mem
  · intro mem
    exact ⟨(u, v), ⟨mem, rfl⟩, rfl⟩

theorem roots_sublist (t : Topology) : t.roots.Sublist t.nodes := by
  unfold roots
  split
  · exact List.take_sublist 1 t.nodes
  · exact List.filter_sublist

theorem roots_eq_nil_iff (t : Topology) : t.roots = [] ↔ t.nodes = [] := by
  constructor
  · intro h
    unfold roots at h
    split at h
    · simpa using h
    · contradiction
  · intro h
    exact List.eq_nil_of_sublist_nil (h ▸ roots_sublist t)

section Search
variable {t : Topology} (wf : t.WellFormed)
include wf

theorem mem_nodes_of_reachesIn {n : Nat} {v : Text} (h : t.ReachesIn n v) : v ∈ t.nodes := by
  cases h with
  | root mem => exact (roots_sublist t).subset mem
  | arc _ arc => exact (wf.arc_mem _ arc).2

end Search

/-! ## One round of the search -/

/-- The state of the search before the round for distance `k`: `placed` holds the nodes closer
than `k` and `current` those at distance `k`, each without repeats. -/
structure Round (t : Topology) (k : Nat) (placed current : List Text) : Prop where
  placed_iff : ∀ v, v ∈ placed ↔ ∃ m < k, t.Distance v m
  current_iff : ∀ v, v ∈ current ↔ t.Distance v k
  placed_nodup : placed.Nodup
  current_nodup : current.Nodup

namespace Round
variable {t : Topology} {k : Nat} {placed current : List Text}

theorem start (wf : t.WellFormed) : t.Round 0 [] t.roots where
  placed_iff v := by simp
  current_iff v := (distance_zero_iff v).symm
  placed_nodup := List.nodup_nil
  current_nodup := wf.nodup.sublist (roots_sublist t)

theorem not_mem_placed (round : t.Round k placed current) {v : Text} (mem : v ∈ current) :
    v ∉ placed := by
  intro old
  obtain ⟨m, lt, hm⟩ := (round.placed_iff v).1 old
  exact absurd (Distance.unique hm ((round.current_iff v).1 mem)) (by omega)

theorem fresh_current (round : t.Round k placed current) : fresh placed current = current :=
  fresh_of_disjoint round.current_nodup fun _ mem => round.not_mem_placed mem

theorem next (round : t.Round k placed current) :
    t.Round (k + 1) (placed ++ current) (fresh (placed ++ current) (current.flatMap t.successors)) where
  placed_iff v := by
    rw [List.mem_append, round.placed_iff, round.current_iff]
    constructor
    · rintro (⟨m, lt, hm⟩ | hk)
      · exact ⟨m, by omega, hm⟩
      · exact ⟨k, by omega, hk⟩
    · rintro ⟨m, lt, hm⟩
      rcases Nat.lt_or_ge m k with lt' | ge
      · exact Or.inl ⟨m, lt', hm⟩
      · exact Or.inr (by rwa [show m = k by omega] at hm)
  current_iff v := by
    simp only [mem_fresh, distance_succ_iff, List.mem_flatMap, List.mem_append, round.placed_iff,
      round.current_iff, mem_successors]
    constructor
    · rintro ⟨⟨u, hu, arc⟩, far⟩
      refine ⟨⟨u, hu, arc⟩, fun m le hm => far ?_⟩
      rcases Nat.lt_or_ge m k with lt | ge
      · exact Or.inl ⟨m, lt, hm⟩
      · exact Or.inr (by rwa [show m = k by omega] at hm)
    · rintro ⟨⟨u, hu, arc⟩, far⟩
      refine ⟨⟨u, hu, arc⟩, ?_⟩
      rintro (⟨m, lt, hm⟩ | hk)
      · exact far m (by omega) hm
      · exact far k (Nat.le_refl k) hk
  placed_nodup :=
    round.placed_nodup.append round.current_nodup fun _ old mem => round.not_mem_placed mem old
  current_nodup := nodup_fresh _ _

theorem placed_subset (wf : t.WellFormed) (round : t.Round k placed current) :
    placed ⊆ t.nodes := by
  intro v mem
  obtain ⟨m, -, hm⟩ := (round.placed_iff v).1 mem
  exact mem_nodes_of_reachesIn wf hm.1

theorem length_le (wf : t.WellFormed) (round : t.Round k placed current) :
    placed.length ≤ t.nodes.length :=
  (round.placed_nodup.subperm (round.placed_subset wf)).length_le

theorem current_eq_nil (wf : t.WellFormed) (round : t.Round k placed current)
    (full : t.nodes.length ≤ placed.length) : current = [] := by
  have all : t.nodes ⊆ placed :=
    ((round.placed_nodup.subperm (round.placed_subset wf)).perm_of_length_le full).symm.subset
  apply List.eq_nil_iff_forall_not_mem.2
  intro v mem
  have : v ∈ t.nodes := mem_nodes_of_reachesIn wf ((round.current_iff v).1 mem).1
  exact round.not_mem_placed mem (all this)

theorem distance_lt (round : t.Round k placed []) {v : Text} {d : Nat} (h : t.Distance v d) :
    d < k := by
  by_contra far
  obtain ⟨u, hu⟩ := exists_distance_of_le h (k := k) (by omega)
  simpa using (round.current_iff u).2 hu

end Round

/-! ## The search -/

/-- What the search yields from the round for distance `k` on: the layers at distances `k`,
`k + 1`, …, none of them empty, the first one `current` and each next one the fresh successors of
the one before, and no node farther away than the last. -/
structure Layered (t : Topology) (k : Nat) (placed current : List Text) (L : List (List Text)) :
    Prop where
  mem_iff : ∀ i (h : i < L.length) v, v ∈ L[i] ↔ t.Distance v (k + i)
  ne_nil : ∀ l ∈ L, l ≠ []
  lt_length : ∀ v d, t.Distance v d → k ≤ d → d < k + L.length
  head : ∀ h : 0 < L.length, L[0] = current
  succ : ∀ i (h : i + 1 < L.length),
    L[i + 1] = fresh (placed ++ (L.take (i + 1)).flatten) (L[i].flatMap t.successors)
  nodup : L.flatten.Nodup

namespace Layered
variable {t : Topology} {k : Nat} {placed current : List Text}

theorem nil (far : ∀ v d, t.Distance v d → d < k) : t.Layered k placed current [] where
  mem_iff i h := absurd h (Nat.not_lt_zero i)
  ne_nil l mem := absurd mem List.not_mem_nil
  lt_length v d h le := absurd (far v d h) (by omega)
  head h := absurd h (Nat.lt_irrefl 0)
  succ i h := absurd h (Nat.not_lt_zero _)
  nodup := List.nodup_nil

theorem mem_flatten_iff {L : List (List Text)} (layered : t.Layered k placed current L)
    (v : Text) : v ∈ L.flatten ↔ ∃ d, k ≤ d ∧ t.Distance v d := by
  rw [List.mem_flatten]
  constructor
  · rintro ⟨l, mem, hv⟩
    obtain ⟨i, h, rfl⟩ := List.mem_iff_getElem.1 mem
    exact ⟨k + i, by omega, (layered.mem_iff i h v).1 hv⟩
  · rintro ⟨d, le, hd⟩
    have lt := layered.lt_length v d hd le
    refine ⟨L[d - k], List.getElem_mem _, (layered.mem_iff (d - k) (by omega) v).2 ?_⟩
    rwa [show k + (d - k) = d by omega]

theorem cons (round : t.Round k placed current) (nonempty : current ≠ [])
    {L : List (List Text)}
    (rest : t.Layered (k + 1) (placed ++ current)
      (fresh (placed ++ current) (current.flatMap t.successors)) L) :
    t.Layered k placed current (current :: L) where
  mem_iff i h v := by
    cases i with
    | zero => exact round.current_iff v
    | succ i =>
        rw [List.getElem_cons_succ, rest.mem_iff i (by simpa using h) v]
        rw [show k + 1 + i = k + (i + 1) by omega]
  ne_nil l mem := by
    rcases List.mem_cons.1 mem with rfl | mem
    · exact nonempty
    · exact rest.ne_nil l mem
  lt_length v d h le := by
    rcases Nat.lt_or_ge k d with lt | ge
    · have := rest.lt_length v d h lt
      simp only [List.length_cons]
      omega
    · simp only [List.length_cons]
      omega
  head _ := rfl
  succ i h := by
    cases i with
    | zero =>
        simp only [List.getElem_cons_succ, List.getElem_cons_zero, List.take_succ_cons,
          List.take_zero, List.flatten_cons, List.flatten_nil, List.append_nil]
        exact rest.head (by simpa using h)
    | succ i =>
        simp only [List.getElem_cons_succ, List.take_succ_cons, List.flatten_cons,
          ← List.append_assoc]
        exact rest.succ i (by simpa using h)
  nodup := by
    rw [List.flatten_cons]
    refine round.current_nodup.append rest.nodup fun v mem later => ?_
    obtain ⟨d, le, hd⟩ := (rest.mem_flatten_iff v).1 later
    have := Distance.unique hd ((round.current_iff v).1 mem)
    omega

end Layered

theorem layersFrom_layered {t : Topology} (wf : t.WellFormed) :
    ∀ (n k : Nat) (placed current : List Text), t.Round k placed current →
      t.nodes.length ≤ placed.length + n → t.Layered k placed current (t.layersFrom n placed current) := by
  intro n
  induction n with
  | zero =>
      intro k placed current round fuel
      obtain rfl := round.current_eq_nil wf (by omega)
      exact Layered.nil fun v d h => round.distance_lt h
  | succ n ih =>
      intro k placed current round fuel
      simp only [layersFrom]
      by_cases stop : (current.isEmpty || t.nodes.length ≤ placed.length) = true
      · rw [if_pos stop]
        have empty : current = [] := by
          rcases (by simpa using stop : current = [] ∨ t.nodes.length ≤ placed.length) with
            empty | full
          · exact empty
          · exact round.current_eq_nil wf full
        subst empty
        exact Layered.nil fun v d h => round.distance_lt h
      · rw [if_neg stop]
        have going : current ≠ [] ∧ placed.length < t.nodes.length := by simpa using stop
        have grows : 1 ≤ current.length := List.length_pos_iff.2 going.1
        rw [round.fresh_current, if_neg (by simpa using going.1), List.singleton_append]
        exact Layered.cons round going.1
          (ih _ _ _ round.next (by simp only [List.length_append]; omega))

/-! ## The layers -/

section Layers
variable {t : Topology} (wf : t.WellFormed)
include wf

theorem reached_layered : t.Layered 0 [] t.roots (t.layersFrom t.nodes.length [] t.roots) :=
  layersFrom_layered wf _ _ _ _ (Round.start wf) (by simp)

theorem mem_reached_iff (v : Text) :
    v ∈ (t.layersFrom t.nodes.length [] t.roots).flatten ↔ t.Reachable v := by
  rw [(reached_layered wf).mem_flatten_iff, reachable_iff_exists_distance]
  simp

theorem reached_ne_nil (ne : t.nodes ≠ []) : t.layersFrom t.nodes.length [] t.roots ≠ [] := by
  obtain ⟨r, rs, hroots⟩ := List.exists_cons_of_ne_nil ((roots_eq_nil_iff t).not.2 ne)
  have root : t.Distance r 0 := (distance_zero_iff r).2 (by simp [hroots])
  have := (reached_layered wf).lt_length r 0 root (Nat.le_refl 0)
  intro empty
  simp [empty] at this

theorem layers_eq (ne : t.nodes ≠ []) :
    ∃ init last, t.layersFrom t.nodes.length [] t.roots = init ++ [last] ∧
      t.layers = init ++ [last ++ t.nodes.filter (!(init ++ [last]).flatten.contains ·)] := by
  obtain ⟨init, last, reached⟩ :=
    (List.eq_nil_or_concat _).resolve_left (reached_ne_nil wf ne)
  rw [List.concat_eq_append] at reached
  refine ⟨init, last, reached, ?_⟩
  unfold layers
  simp only [reached]
  split
  · rename_i none
    rw [none, List.append_nil]
  · simp

end Layers

theorem layers_eq_nil {t : Topology} (empty : t.nodes = []) : t.layers = [] := by
  have roots : t.roots = [] := (roots_eq_nil_iff t).2 empty
  unfold layers
  simp [roots, empty, layersFrom]

/-! ## Acyclic topologies -/

/-- Nodes that are each entered by an arc from one of them are never peeled off. -/
theorem mem_peel_of_entered (S : Text → Prop) :
    ∀ (n : Nat) (vs : List Text) (arcs : List (Text × Text)),
      (∀ v, S v → v ∈ vs ∧ ∃ u, S u ∧ (u, v) ∈ arcs) → ∀ v, S v → v ∈ peel n vs arcs := by
  intro n
  induction n with
  | zero => intro vs arcs entered v hv; exact (entered v hv).1
  | succ n ih =>
      intro vs arcs entered
      have notFree : ∀ w, S w → w ∉ vs.filter fun v => !arcs.any (·.2 = v) := by
        intro w hw free
        obtain ⟨u, -, arc⟩ := (entered w hw).2
        simp only [List.mem_filter, Bool.not_eq_eq_eq_not, Bool.not_true, List.any_eq_false,
          decide_eq_true_eq] at free
        exact free.2 _ arc rfl
      simp only [peel]
      split
      · exact fun v hv => (entered v hv).1
      · apply ih
        intro v hv
        obtain ⟨mem, u, hu, arc⟩ := entered v hv
        exact ⟨List.mem_filter.2 ⟨mem, by simpa using notFree v hv⟩, u, hu,
          List.mem_filter.2 ⟨arc, by simpa using notFree u hu⟩⟩

theorem inDegree_ne_zero_of_not_mem_roots {t : Topology} {v : Text} (mem : v ∈ t.nodes)
    (notRoot : v ∉ t.roots) : t.inDegree v ≠ 0 := by
  intro zero
  have listed : v ∈ t.nodes.filter (t.inDegree · = 0) := List.mem_filter.2 ⟨mem, by simpa using zero⟩
  apply notRoot
  unfold roots
  split
  · rename_i none
    rw [none] at listed
    exact absurd listed List.not_mem_nil
  · exact listed

section Acyclic
variable {t : Topology} (wf : t.WellFormed)
include wf

theorem exists_arc_of_not_reachable {v : Text} (mem : v ∈ t.nodes) (far : ¬ t.Reachable v) :
    ∃ u, (u ∈ t.nodes ∧ ¬ t.Reachable u) ∧ (u, v) ∈ t.arcs := by
  have notRoot : v ∉ t.roots := fun root => far ⟨0, ReachesIn.root root⟩
  have entered := inDegree_ne_zero_of_not_mem_roots mem notRoot
  obtain ⟨a, arc, enters⟩ : ∃ a ∈ t.arcs, a.2 = v := by
    simpa [inDegree, List.filter_eq_nil_iff] using entered
  obtain ⟨u, w⟩ := a
  simp only at enters
  subst enters
  refine ⟨u, ⟨(wf.arc_mem _ arc).1, ?_⟩, arc⟩
  rintro ⟨n, h⟩
  exact far ⟨n + 1, ReachesIn.arc h arc⟩

theorem reachable_of_isAcyclic (acyclic : t.isAcyclic = true) (v : Text) (mem : v ∈ t.nodes) :
    t.Reachable v := by
  by_contra far
  have kept := mem_peel_of_entered (fun w => w ∈ t.nodes ∧ ¬ t.Reachable w) t.nodes.length t.nodes
    t.arcs (fun w hw => ⟨hw.1, exists_arc_of_not_reachable wf hw.1 hw.2⟩) v ⟨mem, far⟩
  simp only [isAcyclic, List.isEmpty_iff] at acyclic
  rw [acyclic] at kept
  exact List.not_mem_nil kept

end Acyclic

/-! ## The layers of a diagram -/

theorem getElem_append_last {α : Type} (init : List (List α)) (last extra : List α) (i : Nat)
    (h : i < (init ++ [last ++ extra]).length) (h' : i < (init ++ [last]).length) :
    (init ++ [last ++ extra])[i] = (init ++ [last])[i] ++ if i = init.length then extra else [] := by
  rcases Nat.lt_or_ge i init.length with lt | ge
  · rw [List.getElem_append_left lt, List.getElem_append_left lt, if_neg (Nat.ne_of_lt lt),
      List.append_nil]
  · have last : i = init.length := by
      simp only [List.length_append, List.length_singleton] at h
      omega
    subst last
    simp

section Final
open Classical

variable {t : Topology} (wf : t.WellFormed)
include wf

theorem layers_eq_reached (ne : t.nodes ≠ []) :
    ∃ init last, t.layersFrom t.nodes.length [] t.roots = init ++ [last] ∧
      t.layers = init ++ [last ++ t.nodes.filter (¬ t.Reachable ·)] := by
  obtain ⟨init, last, reached, layers⟩ := layers_eq wf ne
  refine ⟨init, last, reached, ?_⟩
  rw [layers]
  congr 3
  apply List.filter_congr
  intro v _
  rw [← reached]
  simp [mem_reached_iff wf v]

theorem flatten_layers_perm : t.layers.flatten.Perm t.nodes := by
  by_cases empty : t.nodes = []
  · rw [layers_eq_nil empty, empty]
    exact List.Perm.refl _
  · obtain ⟨init, last, reached, layers⟩ := layers_eq_reached wf empty
    have layered := reached_layered wf
    rw [reached] at layered
    have found : (init ++ [last]).flatten.Perm (t.nodes.filter (t.Reachable ·)) := by
      refine (List.perm_ext_iff_of_nodup layered.nodup (wf.nodup.filter _)).2 fun v => ?_
      rw [← reached, mem_reached_iff wf, List.mem_filter, decide_eq_true_iff]
      exact ⟨fun reach => ⟨let ⟨_, h⟩ := reach; mem_nodes_of_reachesIn wf h, reach⟩, And.right⟩
    have split : t.layers.flatten =
        (init ++ [last]).flatten ++ t.nodes.filter (¬ t.Reachable ·) := by
      simp [layers]
    rw [split]
    exact (found.append_right _).trans
      (by simpa using List.filter_append_perm (t.Reachable ·) t.nodes)

theorem ne_nil_of_mem_layers : ∀ l ∈ t.layers, l ≠ [] := by
  by_cases empty : t.nodes = []
  · simp [layers_eq_nil empty]
  · obtain ⟨init, last, reached, layers⟩ := layers_eq_reached wf empty
    have layered := reached_layered wf
    rw [reached] at layered
    rw [layers]
    intro l mem
    rcases List.mem_append.1 mem with old | new
    · exact layered.ne_nil l (List.mem_append_left _ old)
    · rw [List.mem_singleton.1 new]
      exact List.append_ne_nil_of_left_ne_nil (layered.ne_nil last (by simp)) _

theorem layers_eq_nil_iff : t.layers = [] ↔ t.nodes = [] := by
  constructor
  · intro empty
    by_contra ne
    obtain ⟨init, last, -, layers⟩ := layers_eq_reached wf ne
    simp [layers] at empty
  · exact layers_eq_nil

theorem mem_layers_of_distance {v : Text} {d : Nat} (h : t.Distance v d) :
    ∃ lt : d < t.layers.length, v ∈ t.layers[d] := by
  have ne : t.nodes ≠ [] := List.ne_nil_of_mem (mem_nodes_of_reachesIn wf h.1)
  obtain ⟨init, last, reached, layers⟩ := layers_eq_reached wf ne
  have layered := reached_layered wf
  rw [reached] at layered
  have lt := layered.lt_length v d h (Nat.zero_le d)
  have found := (layered.mem_iff d (by omega) v).2 (by simpa using h)
  rw [layers]
  have lt' : d < (init ++ [last ++ t.nodes.filter (¬ t.Reachable ·)]).length := by simpa using lt
  refine ⟨lt', ?_⟩
  rw [getElem_append_last init last _ d lt' (by simpa using lt)]
  exact List.mem_append_left _ found

theorem filter_reachable_getElem {init : List (List Text)} {last : List Text}
    (reached : t.layersFrom t.nodes.length [] t.roots = init ++ [last]) (i : Nat)
    (h : i < (init ++ [last ++ t.nodes.filter (¬ t.Reachable ·)]).length)
    (h' : i < (init ++ [last]).length) :
    (init ++ [last ++ t.nodes.filter (¬ t.Reachable ·)])[i].filter (t.Reachable ·) =
      (init ++ [last])[i] := by
  have layered := reached_layered wf
  rw [reached] at layered
  rw [getElem_append_last init last _ i h h', List.filter_append]
  have kept : (init ++ [last])[i].filter (t.Reachable ·) = (init ++ [last])[i] := by
    refine List.filter_eq_self.2 fun v mem => ?_
    exact decide_eq_true ⟨0 + i, ((layered.mem_iff i h' v).1 mem).1⟩
  have dropped : (if i = init.length then t.nodes.filter (¬ t.Reachable ·) else []).filter
      (t.Reachable ·) = [] := by
    split <;> simp [List.filter_filter]
  rw [kept, dropped, List.append_nil]

theorem filter_reachable_zero (h : 0 < t.layers.length) :
    t.layers[0].filter (t.Reachable ·) = t.roots := by
  have ne : t.nodes ≠ [] := fun empty => by simp [layers_eq_nil empty] at h
  obtain ⟨init, last, reached, layers⟩ := layers_eq_reached wf ne
  have layered := reached_layered wf
  rw [reached] at layered
  revert h
  rw [layers]
  intro h
  have h' : 0 < (init ++ [last]).length := by simp
  rw [filter_reachable_getElem wf reached 0 h h', layered.head h']

theorem filter_reachable_succ (d : Nat) (h : d + 1 < t.layers.length) :
    t.layers[d + 1].filter (t.Reachable ·) =
      ((t.layers[d].flatMap t.successors).filter (· ∉ (t.layers.take (d + 1)).flatten)).eraseDups := by
  have ne : t.nodes ≠ [] := fun empty => by simp [layers_eq_nil empty] at h
  obtain ⟨init, last, reached, layers⟩ := layers_eq_reached wf ne
  have layered := reached_layered wf
  rw [reached] at layered
  revert h
  simp only [layers]
  intro h
  have h' : d + 1 < (init ++ [last]).length := by simpa using h
  have before : d < init.length := by
    simp only [List.length_append, List.length_singleton] at h'
    omega
  rw [filter_reachable_getElem wf reached (d + 1) h h', layered.succ d h', fresh_eq_eraseDups,
    List.nil_append]
  -- layer `d` and the layers up to it are the search's own: nothing was added to them
  have same : (init ++ [last ++ t.nodes.filter (¬ t.Reachable ·)])[d] = (init ++ [last])[d] := by
    rw [getElem_append_last init last _ d (by omega) (by omega), if_neg (by omega),
      List.append_nil]
  have sameTake : (init ++ [last ++ t.nodes.filter (¬ t.Reachable ·)]).take (d + 1) =
      (init ++ [last]).take (d + 1) := by
    rw [List.take_append_of_le_length (by omega), List.take_append_of_le_length (by omega)]
  rw [same, sameTake]

theorem getLast_layers :
    ∀ l ∈ t.layers.getLast?, l = l.filter (t.Reachable ·) ++ t.nodes.filter (¬ t.Reachable ·) := by
  intro l mem
  have ne : t.nodes ≠ [] := fun empty => by simp [layers_eq_nil empty] at mem
  obtain ⟨init, last, reached, layers⟩ := layers_eq_reached wf ne
  rw [layers] at mem
  simp only [List.getLast?_append, List.getLast?_singleton, Option.some_or, Option.mem_def,
    Option.some.injEq] at mem
  subst mem
  have lastLayer := filter_reachable_getElem wf reached init.length (by simp) (by simp)
  simp only [List.getElem_append_right (Nat.le_refl _), Nat.sub_self,
    List.getElem_cons_zero] at lastLayer
  rw [lastLayer]

end Final

open Classical in
/-- The layers of a diagram's topology. Every node lies in exactly one layer and no layer is empty;
there is no layer exactly when there is no node. A node the roots reach lies in the layer of its
distance from them. What the roots reach of the first layer is the roots, in node order; what they
reach of each next layer is what is first found from the layer before and lies in no earlier layer,
in the order it is found. The last layer ends with the nodes the roots do not reach, in node order,
and in an acyclic diagram there are none. -/
theorem layers_breadth_first (g : Diagram) :
    let t := ofDiagram g
    let L := t.layers
    (L.flatten.Perm t.nodes ∧ (∀ l ∈ L, l ≠ []) ∧ (L = [] ↔ g.nodes = [])) ∧
    (∀ v d, t.Distance v d → ∃ h : d < L.length, v ∈ L[d]) ∧
    (t.roots.Sublist t.nodes ∧ ∀ h : 0 < L.length, L[0].filter (t.Reachable ·) = t.roots) ∧
    (∀ d (h : d + 1 < L.length), L[d + 1].filter (t.Reachable ·) =
      ((L[d].flatMap t.successors).filter (· ∉ (L.take (d + 1)).flatten)).eraseDups) ∧
    (∀ l ∈ L.getLast?, l = l.filter (t.Reachable ·) ++ t.nodes.filter (¬ t.Reachable ·)) ∧
    (t.isAcyclic = true → ∀ v ∈ t.nodes, t.Reachable v) := by
  intro t L
  have wf := wellFormed_ofDiagram g
  have noNodes : L = [] ↔ g.nodes = [] := by
    rw [layers_eq_nil_iff wf]
    simp [ofDiagram, Diagram.nodeIds]
  exact ⟨⟨flatten_layers_perm wf, ne_nil_of_mem_layers wf, noNodes⟩,
    fun _ _ h => mem_layers_of_distance wf h, ⟨roots_sublist t, filter_reachable_zero wf⟩,
    filter_reachable_succ wf, getLast_layers wf, reachable_of_isAcyclic wf⟩

end Flowchart.Topology
