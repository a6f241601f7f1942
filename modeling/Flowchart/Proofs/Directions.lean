import Flowchart.Proofs.Grid

/-! # Turning and mirroring a layout

The layers of a diagram are computed from its nodes and edges alone, so the five directions lay one
diagram out on the same grid, read five ways. Top to bottom is top-down under another name.
Bottom-up mirrors top-down across the rows: a node of layer `k` of `L` moves to row `L - 1 - k` and
keeps its column. Right to left mirrors left to right across the columns in the same way. Left to
right turns top-down, the column and the row of every node swapped
(`Flowchart.Diagram.draw_turnedAndMirrored`). -/

set_option autoImplicit false

namespace Flowchart

namespace Layout

variable (s : Settings) (count layer order : Nat)

theorem cellBox_td :
    cellBox s .td count layer order = ⟨order * s.columnStep, layer * s.rowStep, s.nodeWidth, s.nodeHeight⟩ :=
  rfl

theorem cellBox_lr :
    cellBox s .lr count layer order = ⟨layer * s.columnStep, order * s.rowStep, s.nodeWidth, s.nodeHeight⟩ :=
  rfl

theorem mirrored_offset {count layer : Nat} (step : Nat) (lt : layer < count) :
    (((count - 1 - layer) * step : Nat) : Int) = ((count : Int) - 1) * step - (layer * step : Nat) := by
  have le : layer * step ≤ (count - 1) * step := Nat.mul_le_mul_right step (by omega)
  rw [Nat.sub_mul, Int.ofNat_sub le, Int.natCast_mul, Int.ofNat_sub (by omega : 1 ≤ count)]
  rfl

theorem cellBox_bt {count layer : Nat} (lt : layer < count) :
    cellBox s .bt count layer order =
      { cellBox s .td count layer order with
        y := ((count : Int) - 1) * s.rowStep - (cellBox s .td count layer order).y } := by
  rw [cellBox_td]
  simp only [cellBox, Direction.isReversed, Direction.isHorizontal, if_true, Bool.false_eq_true,
    if_false, Box.mk.injEq, true_and, and_true]
  exact mirrored_offset s.rowStep lt

theorem cellBox_rl {count layer : Nat} (lt : layer < count) :
    cellBox s .rl count layer order =
      { cellBox s .lr count layer order with
        x := ((count : Int) - 1) * s.columnStep - (cellBox s .lr count layer order).x } := by
  rw [cellBox_lr]
  simp only [cellBox, Direction.isReversed, Direction.isHorizontal, if_true, Box.mk.injEq, and_true]
  exact mirrored_offset s.columnStep lt

end Layout

namespace Diagram

variable (g : Diagram) (s : Settings)

@[simp] theorem topology_redirect (d : Direction) :
    Topology.ofDiagram { g with direction := d } = Topology.ofDiagram g := rfl

theorem getElem?_nodeBoxes_redirect {i : Nat} (h : i < g.nodes.length) :
    ∃ layer order, Layout.cellOf (Topology.ofDiagram g).layers g.nodes[i].id = some (layer, order) ∧
      layer < (Topology.ofDiagram g).layers.length ∧
      ∀ d : Direction, ({ g with direction := d }.draw s).nodeBoxes[i]? =
        some (Layout.cellBox s d (Topology.ofDiagram g).layers.length layer order) := by
  obtain ⟨layer, order, found⟩ := cellOf_node g (List.getElem_mem h)
  obtain ⟨lt, -, -⟩ := Layout.cellOf_eq_some found
  refine ⟨layer, order, found, lt, fun d => ?_⟩
  simp only [draw, List.getElem?_map, List.getElem?_eq_getElem h, Option.map_some, topology_redirect,
    placedBox_of_cellOf _ s found]

theorem nodeBoxes_redirect_map {d d' : Direction} (f : Box → Box)
    (cells : ∀ layer order, layer < (Topology.ofDiagram g).layers.length →
      Layout.cellBox s d' (Topology.ofDiagram g).layers.length layer order =
        f (Layout.cellBox s d (Topology.ofDiagram g).layers.length layer order)) :
    ({ g with direction := d' }.draw s).nodeBoxes = ({ g with direction := d }.draw s).nodeBoxes.map f := by
  apply List.ext_getElem?
  intro i
  rw [List.getElem?_map]
  by_cases h : i < g.nodes.length
  · obtain ⟨layer, order, -, lt, boxes⟩ := getElem?_nodeBoxes_redirect g s h
    rw [boxes d, boxes d', Option.map_some, cells layer order lt]
  · have after : ∀ d : Direction, ({ g with direction := d }.draw s).nodeBoxes[i]? = none := by
      intro d
      exact List.getElem?_eq_none (by rw [length_nodeBoxes]; exact Nat.le_of_not_lt h)
    rw [after d, after d', Option.map_none]

end Diagram

/-- The layouts of a diagram in the five directions. All have the same layers, `L` of them. Top to
bottom gives the boxes of top-down. Bottom-up keeps each box's column from top-down and mirrors its
row, `y` becoming `(L - 1) * rowStep - y`; right to left keeps each box's row from left to right and
mirrors its column, `x` becoming `(L - 1) * columnStep - x`. A node at place `j` of layer `k` has its
corner at column `j` and row `k` top-down, and at column `k` and row `j` left to right. -/
theorem Diagram.draw_turnedAndMirrored (g : Diagram) (s : Settings) :
    let L := (Topology.ofDiagram g).layers.length
    let drawn (d : Direction) := { g with direction := d }.draw s
    (∀ d, (drawn d).layers = (Topology.ofDiagram g).layers) ∧
    ((drawn .tb).nodeBoxes = (drawn .td).nodeBoxes ∧ (drawn .tb).regionBoxes = (drawn .td).regionBoxes) ∧
    (drawn .bt).nodeBoxes =
      (drawn .td).nodeBoxes.map (fun b => { b with y := ((L : Int) - 1) * s.rowStep - b.y }) ∧
    (drawn .rl).nodeBoxes =
      (drawn .lr).nodeBoxes.map (fun b => { b with x := ((L : Int) - 1) * s.columnStep - b.x }) ∧
    ∀ i (h : i < g.nodes.length), ∃ k j : Nat,
      Layout.cellOf (Topology.ofDiagram g).layers g.nodes[i].id = some (k, j) ∧
      (drawn .td).nodeBoxes[i]? = some ⟨j * s.columnStep, k * s.rowStep, s.nodeWidth, s.nodeHeight⟩ ∧
      (drawn .lr).nodeBoxes[i]? = some ⟨k * s.columnStep, j * s.rowStep, s.nodeWidth, s.nodeHeight⟩ := by
  intro L drawn
  refine ⟨fun d => rfl, ⟨rfl, rfl⟩, ?_, ?_, ?_⟩
  · exact g.nodeBoxes_redirect_map s _ fun layer order lt => Layout.cellBox_bt s order lt
  · exact g.nodeBoxes_redirect_map s _ fun layer order lt => Layout.cellBox_rl s order lt
  · intro i h
    obtain ⟨k, j, found, -, boxes⟩ := g.getElem?_nodeBoxes_redirect s h
    exact ⟨k, j, found, boxes .td, boxes .lr⟩

end Flowchart
