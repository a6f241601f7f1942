import Flowchart.Diagram.Direction

/-!
# Layout settings

The geometry of a layout, in layout units: the size of every node, the gaps between columns and
between rows, and the padding around a region's nodes. A grid column is a node's width and the
column gap wide; a grid row is a node's height and the row gap high. Settings are given as integers
and refused when one is negative, the first negative one (in the order of the fields) named.
-/

set_option autoImplicit false

namespace Flowchart

/-- The geometry of a layout. -/
structure Settings where
  nodeWidth : Nat := 150
  nodeHeight : Nat := 60
  columnGap : Nat := 80
  rowGap : Nat := 100
  regionPadding : Nat := 30
deriving DecidableEq, Repr, Inhabited

namespace Settings

/-- The distance from one grid column to the next. -/
def columnStep (s : Settings) : Nat := s.nodeWidth + s.columnGap

/-- The distance from one grid row to the next. -/
def rowStep (s : Settings) : Nat := s.nodeHeight + s.rowGap

def checked (setting : String) (value : Int) : Except Fault Nat :=
  if value < 0 then .error (.negativeSetting setting value) else .ok value.toNat

/-- Settings from integers, in the order node width, node height, column gap, row gap and region
padding; the first negative one is refused. -/
def ofInts (nodeWidth nodeHeight columnGap rowGap regionPadding : Int) : Except Fault Settings := do
  let nodeWidth ← checked "node_width" nodeWidth
  let nodeHeight ← checked "node_height" nodeHeight
  let columnGap ← checked "h_gap" columnGap
  let rowGap ← checked "v_gap" rowGap
  let regionPadding ← checked "subgraph_padding" regionPadding
  pure { nodeWidth, nodeHeight, columnGap, rowGap, regionPadding }

theorem ofInts_ofNat (s : Settings) :
    ofInts s.nodeWidth s.nodeHeight s.columnGap s.rowGap s.regionPadding = .ok s := by
  simp [ofInts, checked]
  rfl

end Settings

end Flowchart
