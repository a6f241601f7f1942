import Flowchart.Proofs.Layering
import Flowchart.Layout.Grid

/-! # Boxes on the grid

Every node of a laid-out diagram gets a box of the node size with its corner on the grid, and the
boxes of two different nodes never meet, in every direction. Three facts carry this: each node has
a place of its own in the layers, different places get different cells of the grid (a reversed
direction only mirrors the layers), and a grid step is a node's size and a gap that cannot be
negative. -/

set_option autoImplicit false

namespace Flowchart

/-- The point `(p, q)` lies in the box; its right and bottom edges are not part of it. -/
def Box.Contains (b : Box) (p q : Int) : Prop :=
  b.x ≤ p ∧ p < b.x + b.width ∧ b.y ≤ q ∧ q < b.y + b.height

instance (b : Box) (p q : Int) : Decidable (b.Contains p q) :=
  inferInstanceAs (Decidable (_ ∧ _))

namespace Layout

/-! ## Finding a node's place -/

theorem findSome?_zipIdx (id : Text) :
    ∀ (L : List (List Text)) (k : Nat),
      ((L.zipIdx k).findSome? (fun (layer, i) => (layer.idxOf? id).map fun order => (i, order)) =
          none ↔ id ∉ L.flatten) ∧
      ∀ layer order,
        (L.zipIdx k).findSome? (fun (layer, i) => (layer.idxOf? id).map fun order => (i, order)) =
          some (layer, order) →
        k ≤ layer ∧ ∃ h : layer - k < L.length, ∃ h' : order < L[layer - k].length,
          L[layer - k][order] = id := by
  intro L
  induction L with
  | nil => intro k; simp
  | cons first rest ih =>
      intro k
      obtain ⟨restNone, restSome⟩ := ih (k + 1)
      rw [List.zipIdx_cons, List.findSome?_cons]
      by_cases present : id ∈ first
      · obtain ⟨order, found⟩ := Option.isSome_iff_exists.1 (List.isSome_idxOf?.2 present)
        obtain ⟨h, eq, -⟩ := List.idxOf?_eq_some_iff.1 found
        simp only [found, Option.map_some]
        refine ⟨⟨fun none => by simp at none, fun absent => ?_⟩, ?_⟩
        · exact absurd (List.mem_flatten.2 ⟨first, List.mem_cons_self, present⟩) absent
        · intro layer order' result
          simp only [Option.some.injEq, Prod.mk.injEq] at result
          obtain ⟨rfl, rfl⟩ := result
          exact ⟨Nat.le_refl _, by simp, by simpa using h, by simpa using eq⟩
      · have found : first.idxOf? id = none := List.idxOf?_eq_none_iff.2 present
        simp only [found, Option.map_none]
        refine ⟨restNone.trans ?_, ?_⟩
        · simp [present]
        · intro layer order result
          obtain ⟨le, h, h', eq⟩ := restSome layer order result
          have shift : layer - k = layer - (k + 1) + 1 := by omega
          refine ⟨by omega, by simp only [List.length_cons]; omega, ?_⟩
          simp only [shift, List.getElem_cons_succ]
          exact ⟨h', eq⟩

theorem cellOf_eq_none_iff (L : List (List Text)) (id : Text) :
    cellOf L id = none ↔ id ∉ L.flatten :=
  (findSome?_zipIdx id L 0).1

theorem cellOf_eq_some {L : List (List Text)} {id : Text} {layer order : Nat}
    (found : cellOf L id = some (layer, order)) :
    ∃ h : layer < L.length, ∃ h' : order < L[layer].length, L[layer][order] = id := by
  simpa using ((findSome?_zipIdx id L 0).2 layer order found).2

/-! ## Cells of the grid -/

/-- The column and the row, counted in grid steps, of the cell for place `order` of layer
`layer` when there are `count` layers. -/
def cellIndex (d : Direction) (count layer order : Nat) : Nat × Nat :=
  let effective := if d.isReversed then count - 1 - layer else layer
  if d.isHorizontal then (effective, order) else (order, effective)

theorem cellBox_eq (s : Settings) (d : Direction) (count layer order : Nat) :
    cellBox s d count layer order =
      ⟨(cellIndex d count layer order).1 * s.columnStep,
        (cellIndex d count layer order).2 * s.rowStep, s.nodeWidth, s.nodeHeight⟩ := by
  unfold cellBox cellIndex
  by_cases reversed : d.isReversed <;> by_cases horizontal : d.isHorizontal <;>
    simp [reversed, horizontal]

theorem cellIndex_ne (d : Direction) {count layer order layer' order' : Nat}
    (lt : layer < count) (lt' : layer' < count) (ne : (layer, order) ≠ (layer', order')) :
    cellIndex d count layer order ≠ cellIndex d count layer' order' := by
  unfold cellIndex
  simp only [ne_eq, Prod.mk.injEq, not_and] at ne
  split <;> split <;> simp only [ne_eq, Prod.mk.injEq, not_and] <;> omega

theorem spaced {a b step size : Nat} (le : size ≤ step) (ne : a ≠ b) :
    a * step + size ≤ b * step ∨ b * step + size ≤ a * step := by
  rcases Nat.lt_or_gt_of_ne ne with lt | gt
  · left
    calc a * step + size ≤ (a + 1) * step := by rw [Nat.succ_mul]; omega
      _ ≤ b * step := Nat.mul_le_mul_right step lt
  · right
    calc b * step + size ≤ (b + 1) * step := by rw [Nat.succ_mul]; omega
      _ ≤ a * step := Nat.mul_le_mul_right step gt

theorem not_contains_both (s : Settings) {c r c' r' : Nat} (ne : (c, r) ≠ (c', r')) (p q : Int) :
    ¬ ((Box.mk (c * s.columnStep) (r * s.rowStep) s.nodeWidth s.nodeHeight).Contains p q ∧
      (Box.mk (c' * s.columnStep) (r' * s.rowStep) s.nodeWidth s.nodeHeight).Contains p q) := by
  rintro ⟨⟨x1, x2, y1, y2⟩, ⟨x1', x2', y1', y2'⟩⟩
  by_cases column : c = c'
  · have row : r ≠ r' := fun row => ne (by rw [column, row])
    have gap : (r * s.rowStep + s.nodeHeight : Int) ≤ r' * s.rowStep ∨
        (r' * s.rowStep + s.nodeHeight : Int) ≤ r * s.rowStep := by
      exact_mod_cast @spaced r r' s.rowStep s.nodeHeight (Nat.le_add_right _ _) row
    simp only at y1 y2 y1' y2'
    omega
  · have gap : (c * s.columnStep + s.nodeWidth : Int) ≤ c' * s.columnStep ∨
        (c' * s.columnStep + s.nodeWidth : Int) ≤ c * s.columnStep := by
      exact_mod_cast @spaced c c' s.columnStep s.nodeWidth (Nat.le_add_right _ _) column
    simp only at x1 x2 x1' x2'
    omega

end Layout

/-! ## The boxes of a drawing -/

section Draw
variable (g : Diagram) (s : Settings)

theorem length_nodeBoxes : (g.draw s).nodeBoxes.length = g.nodes.length := by
  simp [Diagram.draw]

theorem cellOf_node {n : Node} (mem : n ∈ g.nodes) :
    ∃ layer order, Layout.cellOf (Topology.ofDiagram g).layers n.id = some (layer, order) := by
  have placed : n.id ∈ (Topology.ofDiagram g).layers.flatten := by
    refine (Topology.flatten_layers_perm (Topology.wellFormed_ofDiagram g)).symm.subset ?_
    simp only [Topology.ofDiagram, Diagram.nodeIds, List.mem_map]
    exact ⟨n, mem, rfl⟩
  obtain ⟨⟨layer, order⟩, found⟩ := Option.ne_none_iff_exists'.1
    ((Layout.cellOf_eq_none_iff _ _).not.2 (not_not.2 placed))
  exact ⟨layer, order, found⟩

theorem placedBox_of_cellOf {layers : List (List Text)} {id : Text} {layer order : Nat}
    (found : Layout.cellOf layers id = some (layer, order)) :
    g.placedBox s layers id = Layout.cellBox s g.direction layers.length layer order := by
  simp only [Diagram.placedBox, found]

theorem nodeBox_eq_cell (i : Nat) (h : i < g.nodes.length)
    (hb : i < (g.draw s).nodeBoxes.length) :
    ∃ layer order, ∃ lt : layer < (Topology.ofDiagram g).layers.length,
      ∃ lt' : order < (Topology.ofDiagram g).layers[layer].length,
        (Topology.ofDiagram g).layers[layer][order] = g.nodes[i].id ∧
        let c := Layout.cellIndex g.direction (Topology.ofDiagram g).layers.length layer order
        (g.draw s).nodeBoxes[i] =
          ⟨c.1 * s.columnStep, c.2 * s.rowStep, s.nodeWidth, s.nodeHeight⟩ := by
  obtain ⟨layer, order, found⟩ := cellOf_node g (List.getElem_mem h)
  obtain ⟨lt, lt', eq⟩ := Layout.cellOf_eq_some found
  refine ⟨layer, order, lt, lt', eq, ?_⟩
  simp only [Diagram.draw, List.getElem_map, placedBox_of_cellOf g s found, Layout.cellBox_eq]

theorem place_ne {i j : Nat} (h : i < g.nodes.length) (h' : j < g.nodes.length) (ne : i ≠ j)
    {layer order layer' order' : Nat} (lt : layer < (Topology.ofDiagram g).layers.length)
    (lt' : order < (Topology.ofDiagram g).layers[layer].length)
    (lt₂ : layer' < (Topology.ofDiagram g).layers.length)
    (lt₂' : order' < (Topology.ofDiagram g).layers[layer'].length)
    (eq : (Topology.ofDiagram g).layers[layer][order] = g.nodes[i].id)
    (eq' : (Topology.ofDiagram g).layers[layer'][order'] = g.nodes[j].id) :
    (layer, order) ≠ (layer', order') := by
  intro same
  simp only [Prod.mk.injEq] at same
  obtain ⟨rfl, rfl⟩ := same
  have ids : g.nodes[i].id = g.nodes[j].id := eq.symm.trans eq'
  have distinct := g.nodup
  rw [List.Nodup, List.pairwise_iff_getElem] at distinct
  rcases Nat.lt_or_gt_of_ne ne with lt | gt
  · exact distinct i j (by simpa using h) (by simpa using h') lt (by simpa using ids)
  · exact distinct j i (by simpa using h') (by simpa using h) gt (by simpa using ids.symm)

end Draw

/-- The boxes of a laid-out diagram, one for each node in node order. Each has the node size and
its corner on the grid; the boxes of two different nodes have no point in common, whatever the
direction; and when both grid steps are positive no two of them have the same corner. Settings
hold no negative value, so every step is at least the node size. -/
theorem draw_boxes_on_grid (g : Diagram) (s : Settings) :
    let boxes := (g.draw s).nodeBoxes
    boxes.length = g.nodes.length ∧
    (∀ b ∈ boxes, b.width = s.nodeWidth ∧ b.height = s.nodeHeight ∧
      (∃ col : Nat, b.x = col * s.columnStep) ∧ ∃ row : Nat, b.y = row * s.rowStep) ∧
    (∀ i j (hi : i < boxes.length) (hj : j < boxes.length), i ≠ j →
      ∀ p q, ¬ (boxes[i].Contains p q ∧ boxes[j].Contains p q)) ∧
    (0 < s.columnStep → 0 < s.rowStep → ∀ i j (hi : i < boxes.length) (hj : j < boxes.length),
      i ≠ j → (boxes[i].x, boxes[i].y) ≠ (boxes[j].x, boxes[j].y)) := by
  intro boxes
  have length : boxes.length = g.nodes.length := length_nodeBoxes g s
  refine ⟨length, ?_, ?_, ?_⟩
  · intro b mem
    obtain ⟨i, hb, rfl⟩ := List.mem_iff_getElem.1 mem
    obtain ⟨layer, order, -, -, -, box⟩ := nodeBox_eq_cell g s i (by omega) hb
    rw [box]
    exact ⟨rfl, rfl, ⟨_, by push_cast; rfl⟩, ⟨_, by push_cast; rfl⟩⟩
  · intro i j hi hj ne p q
    obtain ⟨layer, order, lt, lt', eq, box⟩ := nodeBox_eq_cell g s i (by omega) hi
    obtain ⟨layer', order', lt₂, lt₂', eq', box'⟩ := nodeBox_eq_cell g s j (by omega) hj
    rw [box, box']
    have cells := Layout.cellIndex_ne g.direction lt lt₂
      (place_ne g (by omega) (by omega) ne lt lt' lt₂ lt₂' eq eq')
    exact Layout.not_contains_both s (fun same => cells (Prod.ext (congrArg Prod.fst same)
      (congrArg Prod.snd same))) p q
  · intro columns rows i j hi hj ne same
    obtain ⟨layer, order, lt, lt', eq, box⟩ := nodeBox_eq_cell g s i (by omega) hi
    obtain ⟨layer', order', lt₂, lt₂', eq', box'⟩ := nodeBox_eq_cell g s j (by omega) hj
    rw [box, box'] at same
    simp only [Prod.mk.injEq] at same
    have cells := Layout.cellIndex_ne g.direction lt lt₂
      (place_ne g (by omega) (by omega) ne lt lt' lt₂ lt₂' eq eq')
    apply cells
    have col := Nat.eq_of_mul_eq_mul_right columns (by exact_mod_cast same.1)
    have row := Nat.eq_of_mul_eq_mul_right rows (by exact_mod_cast same.2)
    exact Prod.ext col row

end Flowchart
