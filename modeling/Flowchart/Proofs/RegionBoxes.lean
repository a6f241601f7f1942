import Flowchart.Proofs.Grid

/-! # The box of a region

The box of a region is the padded hull of its members' node boxes: it holds every such box grown by
the region padding on every side, and each of its four sides is at exactly the padding from one of
them, so no smaller box holds them all. Members that are not nodes play no part; a region none of
whose members is a node has no box, and its record shows `0, 0, 0, 0`
(`Flowchart.Diagram.draw_regionBox`).

The drawing computes the box of each node once and reads both the node boxes and the region boxes
from it (`Flowchart.Diagram.draw_boxOf`), so the boxes a region is built around are those of its
members in the drawing. -/

set_option autoImplicit false

namespace Flowchart

namespace Box

/-- `b` lies within `B`, on its sides or inside. -/
def Encloses (B b : Box) : Prop :=
  B.x ≤ b.x ∧ b.x + b.width ≤ B.x + B.width ∧ B.y ≤ b.y ∧ b.y + b.height ≤ B.y + B.height

/-- `b` grown by `pad` on every side. -/
def grow (b : Box) (pad : Int) : Box := ⟨b.x - pad, b.y - pad, b.width + 2 * pad, b.height + 2 * pad⟩

/-- `B` is the hull of the boxes that `P` holds of, each grown by `pad`: it encloses every one of
them, and each of its sides lies on the same side of one of them. -/
structure PaddedHull (pad : Int) (P : Box → Prop) (B : Box) : Prop where
  encloses : ∀ b, P b → B.Encloses (b.grow pad)
  left : ∃ b, P b ∧ B.x = b.x - pad
  top : ∃ b, P b ∧ B.y = b.y - pad
  right : ∃ b, P b ∧ B.x + B.width = b.x + b.width + pad
  bottom : ∃ b, P b ∧ B.y + B.height = b.y + b.height + pad

theorem PaddedHull.least {pad : Int} {P : Box → Prop} {B B' : Box} (hull : PaddedHull pad P B)
    (encloses : ∀ b, P b → B'.Encloses (b.grow pad)) : B'.Encloses B := by
  obtain ⟨l, hl, left⟩ := hull.left
  obtain ⟨t, ht, top⟩ := hull.top
  obtain ⟨r, hr, right⟩ := hull.right
  obtain ⟨b, hb, bottom⟩ := hull.bottom
  have el := (encloses l hl).1
  have et := (encloses t ht).2.2.1
  have er := (encloses r hr).2.1
  have eb := (encloses b hb).2.2.2
  simp only [grow] at el et er eb
  exact ⟨by omega, by omega, by omega, by omega⟩

theorem PaddedHull.congr {pad : Int} {P Q : Box → Prop} {B : Box} (hull : PaddedHull pad P B)
    (same : ∀ b, P b ↔ Q b) : PaddedHull pad Q B := by
  obtain ⟨encloses, ⟨l, hl, left⟩, ⟨t, ht, top⟩, ⟨r, hr, right⟩, ⟨b, hb, bottom⟩⟩ := hull
  exact ⟨fun c hc => encloses c ((same c).2 hc), ⟨l, (same l).1 hl, left⟩, ⟨t, (same t).1 ht, top⟩,
    ⟨r, (same r).1 hr, right⟩, ⟨b, (same b).1 hb, bottom⟩⟩

end Box

namespace Layout

theorem foldl_min_spec (f : Box → Int) (b : Box) (bs : List Box) :
    (∃ c ∈ b :: bs, bs.foldl (fun m c => min m (f c)) (f b) = f c) ∧
      ∀ c ∈ b :: bs, bs.foldl (fun m c => min m (f c)) (f b) ≤ f c := by
  have least : ((b :: bs).map f).min? = some (bs.foldl (fun m c => min m (f c)) (f b)) := by
    rw [List.map_cons, List.min?_cons', List.foldl_map]
  obtain ⟨mem, le⟩ := List.min?_eq_some_iff.1 least
  obtain ⟨c, hc, eq⟩ := List.mem_map.1 mem
  exact ⟨⟨c, hc, eq.symm⟩, fun c hc => le _ (List.mem_map_of_mem hc)⟩

theorem foldl_max_spec (f : Box → Int) (b : Box) (bs : List Box) :
    (∃ c ∈ b :: bs, bs.foldl (fun m c => max m (f c)) (f b) = f c) ∧
      ∀ c ∈ b :: bs, f c ≤ bs.foldl (fun m c => max m (f c)) (f b) := by
  have greatest : ((b :: bs).map f).max? = some (bs.foldl (fun m c => max m (f c)) (f b)) := by
    rw [List.map_cons, List.max?_cons', List.foldl_map]
  obtain ⟨mem, le⟩ := List.max?_eq_some_iff.1 greatest
  obtain ⟨c, hc, eq⟩ := List.mem_map.1 mem
  exact ⟨⟨c, hc, eq.symm⟩, fun c hc => le _ (List.mem_map_of_mem hc)⟩

theorem around_cons (pad : Int) (b : Box) (bs : List Box) :
    ∃ B, around pad (b :: bs) = some B ∧ Box.PaddedHull pad (· ∈ b :: bs) B := by
  obtain ⟨⟨l, hl, left⟩, leftLe⟩ := foldl_min_spec Box.x b bs
  obtain ⟨⟨t, ht, top⟩, topLe⟩ := foldl_min_spec Box.y b bs
  obtain ⟨⟨r, hr, right⟩, rightLe⟩ := foldl_max_spec (fun c => c.x + c.width) b bs
  obtain ⟨⟨d, hd, bottom⟩, bottomLe⟩ := foldl_max_spec (fun c => c.y + c.height) b bs
  refine ⟨_, rfl, ⟨fun c hc => ?_, ⟨l, hl, ?_⟩, ⟨t, ht, ?_⟩, ⟨r, hr, ?_⟩, ⟨d, hd, ?_⟩⟩⟩
  · have := leftLe c hc
    have := topLe c hc
    have := rightLe c hc
    have := bottomLe c hc
    simp only [Box.Encloses, Box.grow] at *
    omega
  · simp only at left ⊢
    omega
  · simp only at top ⊢
    omega
  · simp only at right ⊢
    omega
  · simp only at bottom ⊢
    omega

end Layout

namespace Diagram

variable (g : Diagram) (s : Settings)

/-- A drawing gives each id one box, and reads the box of every node and the boxes a region is
built around from it. -/
theorem draw_boxOf : ∃ boxOf : Text → Box,
    (g.draw s).nodeBoxes = g.nodes.map (fun n => boxOf n.id) ∧
    (g.draw s).regionBoxes =
      g.regions.map fun r => Layout.around s.regionPadding ((r.members.filter g.hasNode).map boxOf) :=
  ⟨_, rfl, rfl⟩

theorem mem_memberBoxes {boxOf : Text → Box}
    (nodeBoxes : (g.draw s).nodeBoxes = g.nodes.map (fun n => boxOf n.id)) (r : Region) (b : Box) :
    b ∈ (r.members.filter g.hasNode).map boxOf ↔
      ∃ n, (n, b) ∈ g.nodes.zip (g.draw s).nodeBoxes ∧ n.id ∈ r.members := by
  have pairs : g.nodes.zip (g.draw s).nodeBoxes = g.nodes.map fun n => (n, boxOf n.id) := by
    rw [nodeBoxes]
    simpa using List.zip_map' (f := id) (g := fun n : Node => boxOf n.id) (l := g.nodes)
  rw [pairs]
  simp only [List.mem_map, List.mem_filter, Prod.mk.injEq]
  constructor
  · rintro ⟨m, ⟨member, present⟩, rfl⟩
    obtain ⟨n, mem, rfl⟩ := List.mem_map.1 ((hasNode_iff g m).1 present)
    exact ⟨n, ⟨n, mem, rfl, rfl⟩, member⟩
  · rintro ⟨n, ⟨n', mem, rfl, rfl⟩, member⟩
    exact ⟨n'.id, ⟨member, (hasNode_iff g _).2 (List.mem_map_of_mem mem)⟩, rfl⟩

end Diagram

theorem Drawing.getElem?_subgraphs (d : Drawing) (i : Nat) (hi : i < d.diagram.regions.length) :
    ∃ items, d.record.field? "subgraphs" = some (.arr items) ∧
      items[i]? = some (d.diagram.regions[i].record ((d.regionBoxes.getD i none).getD Box.none)) := by
  refine ⟨d.diagram.regions.zipIdx.map fun p => p.1.record ((d.regionBoxes.getD p.2 none).getD Box.none),
    by simp [Drawing.record, Diagram.recordIn, Json.object, Json.field?], ?_⟩
  simp [hi]

/-- The box of a region. When none of its members is a node, the region has no box and its record
shows `0, 0, 0, 0`. Otherwise its box is the smallest that holds the box of every member that is a
node, grown by the region padding on every side: each such box lies inside it at least the padding
away from each side, and each side is at exactly the padding from one of them. Members that are not
nodes play no part. -/
theorem Diagram.draw_regionBox (g : Diagram) (s : Settings) (i : Nat) (hi : i < g.regions.length) :
    let r := g.regions[i]
    let present (b : Box) : Prop := ∃ n, (n, b) ∈ g.nodes.zip (g.draw s).nodeBoxes ∧ n.id ∈ r.members
    ∃ items, (g.draw s).record.field? "subgraphs" = some (.arr items) ∧
      ((∀ m ∈ r.members, g.hasNode m = false) →
        (g.draw s).regionBoxes[i]? = some none ∧ items[i]? = some (r.record Box.none)) ∧
      ((∃ m ∈ r.members, g.hasNode m = true) →
        ∃ B, (g.draw s).regionBoxes[i]? = some (some B) ∧ items[i]? = some (r.record B) ∧
          Box.PaddedHull s.regionPadding present B ∧
          ∀ B' : Box, (∀ b, present b → B'.Encloses (b.grow s.regionPadding)) → B'.Encloses B) := by
  intro r present
  obtain ⟨boxOf, nodeBoxes, regionBoxes⟩ := g.draw_boxOf s
  obtain ⟨items, subgraphs, item⟩ := (g.draw s).getElem?_subgraphs i hi
  have box : (g.draw s).regionBoxes[i]? =
      some (Layout.around s.regionPadding ((r.members.filter g.hasNode).map boxOf)) := by
    rw [regionBoxes, List.getElem?_map, List.getElem?_eq_getElem hi, Option.map_some]
  have shown : (g.draw s).regionBoxes.getD i none =
      Layout.around s.regionPadding ((r.members.filter g.hasNode).map boxOf) := by
    rw [List.getD_eq_getElem?_getD, box, Option.getD_some]
  refine ⟨items, subgraphs, fun absent => ?_, fun ⟨m, member, node⟩ => ?_⟩
  · have none : r.members.filter g.hasNode = [] := List.filter_eq_nil_iff.2 fun m mem => by
      simp [absent m mem]
    rw [none] at box shown
    exact ⟨box, by rw [item, shown]; rfl⟩
  · -- a member that is a node gives the box a first box to start from
    obtain ⟨b, bs, boxes⟩ : ∃ b bs, (r.members.filter g.hasNode).map boxOf = b :: bs :=
      List.exists_cons_of_ne_nil (by simpa using ⟨m, member, node⟩)
    obtain ⟨B, around, hull⟩ := Layout.around_cons s.regionPadding b bs
    rw [boxes, around] at box shown
    have hull' : Box.PaddedHull s.regionPadding present B :=
      hull.congr fun c => by rw [← boxes, g.mem_memberBoxes s nodeBoxes]
    exact ⟨B, box, by rw [item, shown]; rfl, hull', fun B' encloses => hull'.least encloses⟩

/-- The region of `g` holds the node `a` and the id `x` of no node: its box is that of `a` grown by
the padding, and `x` plays no part. -/
theorem Diagram.draw_regionBox_ghostMember :
    let g : Diagram :=
      { nodes := [Node.bare (Text.ofString "a")]
        regions := [{ id := Text.ofString "subgraph_0", title := Text.ofString "S",
                      members := [Text.ofString "x", Text.ofString "a"] }]
        nodup := List.nodup_cons.2 ⟨List.not_mem_nil, List.nodup_nil⟩ }
    let s : Settings := {}
    0 < g.regions.length ∧
      let r := g.regions[0]
      let present (b : Box) : Prop := ∃ n, (n, b) ∈ g.nodes.zip (g.draw s).nodeBoxes ∧ n.id ∈ r.members
      ∃ items, (g.draw s).record.field? "subgraphs" = some (.arr items) ∧
        ((∀ m ∈ r.members, g.hasNode m = false) →
          (g.draw s).regionBoxes[0]? = some none ∧ items[0]? = some (r.record Box.none)) ∧
        ((∃ m ∈ r.members, g.hasNode m = true) →
          ∃ B, (g.draw s).regionBoxes[0]? = some (some B) ∧ items[0]? = some (r.record B) ∧
            Box.PaddedHull s.regionPadding present B ∧
            ∀ B' : Box, (∀ b, present b → B'.Encloses (b.grow s.regionPadding)) → B'.Encloses B) :=
  ⟨by decide, Diagram.draw_regionBox _ _ 0 (by decide)⟩

end Flowchart
