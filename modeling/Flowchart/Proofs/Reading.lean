import Flowchart.Proofs.Links
import Mathlib.Data.List.Nodup

/-! # What reading a source yields

Every diagram read from a source satisfies a handful of facts at once: each node is found under its
own id, and that id is a whole identifier of the source; every node shows a trimmed text that is not
empty; an edge joins two nodes and has a trimmed label; a region holds distinct nodes; and the
`i`-th region is `subgraph_i` with a title. The facts hold of the empty diagram and every statement
keeps them (`Flowchart.Syntax.Scan.step_sound`), because every statement read from a trimmed piece
of the source declares only whole identifiers of it (`Flowchart.Syntax.read_sound`). -/

set_option autoImplicit false

namespace Flowchart

open Text

namespace Syntax

/-! ## Declarations -/

theorem declarationAt_cons {c : CodePoint} {u : Text} (ident : c.isIdent = true)
    (h : (declarationAt u).isSome) : (declarationAt (c :: u)).isSome := by
  cases found : ident? u with
  | none => simp [declarationAt, found] at h
  | some p =>
      obtain ⟨id, rest⟩ := p
      simpa [declarationAt, found, ident?_cons ident found, Option.isSome_bind] using h

theorem declarationAt_closed {u : Text} {a : Text × Text × Shape} {n : Nat}
    (h : declarationAt u = some (a, n)) :
    ∃ x c y, u = x ++ c :: y ∧ n = x.length + 1 ∧ c.isIdent = false := by
  simp only [declarationAt, Option.bind_eq_bind, Option.bind_eq_some_iff, Option.pure_def,
    Option.some.injEq, Prod.mk.injEq] at h
  obtain ⟨⟨id, rest⟩, found, ⟨shape, body, after⟩, first, -, rfl⟩ := h
  obtain ⟨y, c, split, notIdent⟩ := exists_closer_of_mem_shapedBodies (List.mem_of_mem_head? first)
  have whole : u = (id ++ rest.takeWhile CodePoint.isBlank ++ y) ++ c :: after := by
    conv_lhs => rw [(ident?_eq_some found).1, skipBlanks_split rest, split]
    simp
  refine ⟨_, c, after, whole, ?_, notIdent⟩
  rw [whole]
  simp
  omega

theorem whole_declarationAt : Whole declarationAt :=
  ⟨fun _ _ ident h => declarationAt_cons ident h, fun _ _ _ h => declarationAt_closed h⟩

theorem trim_clean (t : Text) : (clean t).trim = clean t := by
  unfold clean
  dsimp only
  split <;> exact trim_trim _

theorem mem_declarations {stmt : Text} {d : Text × Text × Shape} (mem : d ∈ declarations stmt) :
    IsIdentToken d.1 stmt ∧ d.2.1.trim = d.2.1 := by
  obtain ⟨p, memP, rfl⟩ := List.mem_map.1 mem
  obtain ⟨x, suf, n, split, hit, before⟩ := mem_allMatches_whole whole_declarationAt memP
  simp only [declarationAt, Option.bind_eq_bind, Option.bind_eq_some_iff, Option.pure_def,
    Option.some.injEq, Prod.mk.injEq] at hit
  obtain ⟨⟨id, rest⟩, found, ⟨shape, body, after⟩, -, eq, -⟩ := hit
  rw [← eq]
  have masked : IsIdentToken id (maskLabels stmt) := by
    rw [split]
    exact isIdentToken_of_ident? found before
  unfold maskLabels at masked
  exact ⟨(masked.of_blankRanges (safe_inlineRanges _)).of_blankRanges (safe_pipeRanges _),
    trim_clean body⟩

/-! ## Statements -/

/-- What a statement read from `src` may hold: the nodes it declares are whole identifiers of `src`
with trimmed texts, its edge joins two whole identifiers of `src` and has a trimmed label, and a
region it opens has a title. -/
def Statement.Sound (src : Text) : Statement → Prop
  | .nothing => True
  | .openRegion title => title ≠ []
  | .closeRegion => True
  | .elements nodes edge => (∀ d ∈ nodes, IsIdentToken d.1 src ∧ d.2.1.trim = d.2.1) ∧
      ∀ e ∈ edge, IsIdentToken e.source src ∧ IsIdentToken e.target src ∧ e.label.trim = e.label

theorem read_sound {stmt src : Text} (piece : Bounded stmt src) : (Statement.read stmt).Sound src := by
  unfold Statement.read
  split
  · trivial
  · split
    · dsimp only
      split
      · trivial
      · rename_i empty
        simpa [Statement.Sound] using empty
    · split
      · trivial
      · refine ⟨fun d mem => ?_, fun e mem => ?_⟩
        · obtain ⟨token, trimmed⟩ := mem_declarations mem
          exact ⟨token.of_bounded piece, trimmed⟩
        · obtain ⟨source, target, label⟩ := edgeOf?_tokens mem
          exact ⟨source.of_bounded piece, target.of_bounded piece, label⟩

theorem mem_sourceStatements_sound {src : Text} {st : Statement} (mem : st ∈ sourceStatements src) :
    st.Sound src := by
  obtain ⟨line, lineMem, stMem⟩ := List.mem_flatMap.1 mem
  obtain ⟨stmt, stmtMem, rfl⟩ := List.mem_map.1 stMem
  exact read_sound (bounded_of_mem_sourceStatements lineMem stmtMem)

end Syntax

/-! ## Sound diagrams -/

theorem trim_eq_self_of_idents {id : Text} (idents : ∀ c ∈ id, c.isIdent = true) : id.trim = id := by
  have notBlank : ∀ c ∈ id, c.isBlank = false := by
    intro c mem
    cases blank : c.isBlank
    · rfl
    · have ident := idents c mem
      rw [CodePoint.isIdent_eq_false_of_isBlank blank] at ident
      cases ident
  have start : trimStart id = id := List.dropWhile_eq_self_iff.2 fun positive => by
    simp [notBlank _ (List.getElem_mem positive)]
  unfold trim
  rw [start, trimEnd_eq_rdropWhile, List.rdropWhile_eq_self_iff.2]
  intro ne
  simp [notBlank _ (List.getLast_mem ne)]

theorem Region.nodup_addMember {r : Region} (nodup : r.members.Nodup) (id : Text) :
    (r.addMember id).members.Nodup := by
  unfold Region.addMember
  split
  · exact nodup
  · rename_i absent
    rw [List.contains_iff_mem] at absent
    exact List.nodup_append.2 ⟨nodup, by simp, by simp only [List.mem_singleton]; rintro a mem b rfl rfl; exact absent mem⟩

theorem Region.mem_addMember {r : Region} {id m : Text} (mem : m ∈ (r.addMember id).members) :
    m ∈ r.members ∨ m = id := by
  unfold Region.addMember at mem
  split at mem
  · exact Or.inl mem
  · simpa using mem

theorem Region.label_addMember (r : Region) (id : Text) :
    ((r.addMember id).id, (r.addMember id).title) = (r.id, r.title) := by
  unfold Region.addMember
  split <;> rfl

namespace Diagram

theorem node?_eq_some_of_mem (g : Diagram) {n : Node} (mem : n ∈ g.nodes) : g.node? n.id = some n := by
  unfold node?
  cases found : g.nodes.find? (fun m => m.id = n.id) with
  | none =>
      rw [List.find?_eq_none] at found
      exact absurd (by simp) (found n mem)
  | some m =>
      have memM := List.mem_of_find?_eq_some found
      have same : m.id = n.id := by simpa using List.find?_some found
      rw [List.inj_on_of_nodup_map g.nodup memM mem same]

theorem mem_of_node?_eq_some {g : Diagram} {id : Text} {n : Node} (found : g.node? id = some n) :
    n ∈ g.nodes ∧ n.id = id :=
  ⟨List.mem_of_find?_eq_some found, by simpa using List.find?_some found⟩

/-- The facts every diagram read from `src` satisfies, beyond the distinct ids its type carries:
nodes are whole identifiers of `src` with trimmed texts, edges join nodes and have trimmed labels,
regions hold distinct nodes, and the `i`-th region is `subgraph_i` with a title. -/
structure Sound (src : Text) (g : Diagram) : Prop where
  ident : ∀ n ∈ g.nodes, IsIdentToken n.id src
  text : ∀ n ∈ g.nodes, n.text ≠ [] ∧ n.text.trim = n.text
  edge : ∀ e ∈ g.edges, g.hasNode e.source = true ∧ g.hasNode e.target = true ∧ e.label.trim = e.label
  member : ∀ r ∈ g.regions, r.members.Nodup ∧ ∀ m ∈ r.members, g.hasNode m = true
  region : ∀ i, ∀ r ∈ g.regions[i]?, r.id = Text.ofString "subgraph_" ++ Text.ofNat i ∧ r.title ≠ []

theorem sound_empty (src : Text) (direction : Direction) : Sound src { direction } :=
  ⟨by simp, by simp, by simp, by simp, by simp⟩

variable {src : Text}

theorem Sound.putNode {g : Diagram} (sound : g.Sound src) {n : Node} (token : IsIdentToken n.id src)
    (text : n.text ≠ [] ∧ n.text.trim = n.text) : (g.putNode n).Sound src where
  ident m mem := by
    rcases mem_putNode mem with rfl | old
    · exact token
    · exact sound.ident m old
  text m mem := by
    rcases mem_putNode mem with rfl | old
    · exact text
    · exact sound.text m old
  edge e mem := by
    rw [edges_putNode] at mem
    obtain ⟨source, target, label⟩ := sound.edge e mem
    exact ⟨hasNode_putNode_of_hasNode n source, hasNode_putNode_of_hasNode n target, label⟩
  member r mem := by
    rw [regions_putNode] at mem
    obtain ⟨nodup, nodes⟩ := sound.member r mem
    exact ⟨nodup, fun m memM => hasNode_putNode_of_hasNode n (nodes m memM)⟩
  region i r mem := by
    rw [regions_putNode] at mem
    exact sound.region i r mem

end Diagram

namespace Syntax.Scan

open Diagram

variable {src : Text} {s : Scan}

theorem sound_attach (sound : s.diagram.Sound src) {id : Text} (node : s.diagram.hasNode id = true) :
    (s.attach id).diagram.Sound src where
  ident n mem := sound.ident n (by simpa using mem)
  text n mem := sound.text n (by simpa using mem)
  edge e mem := by simpa using sound.edge e (by simpa using mem)
  member r mem := by
    rw [regions_attach] at mem
    split at mem
    · rcases mem_mapLast mem with old | ⟨r', mem', rfl⟩
      · simpa using sound.member r old
      · obtain ⟨nodup, nodes⟩ := sound.member r' mem'
        refine ⟨Region.nodup_addMember nodup id, fun m memM => ?_⟩
        rcases Region.mem_addMember memM with old | rfl
        · simpa using nodes m old
        · simpa using node
    · simpa using sound.member r mem
  region i r mem := by
    rw [regions_attach] at mem
    split at mem
    · -- the open region takes a member and keeps its id and title
      have keeps := map_mapLast (g := fun r : Region => (r.id, r.title))
        (fun r => Region.label_addMember r id) s.diagram.regions
      have atI := congrArg (·[i]?) keeps
      rw [Option.mem_def] at mem
      simp only [List.getElem?_map, mem, Option.map_some] at atI
      obtain ⟨r', mem', eq⟩ := Option.map_eq_some_iff.1 atI.symm
      simp only [Prod.mk.injEq] at eq
      rw [← eq.1, ← eq.2]
      exact sound.region i r' mem'
    · exact sound.region i r mem

theorem sound_openRegion (sound : s.diagram.Sound src) {title : Text} (titled : title ≠ []) :
    (s.openRegion title).diagram.Sound src where
  ident := sound.ident
  text := sound.text
  edge := sound.edge
  member r mem := by
    simp only [Scan.openRegion, List.mem_append, List.mem_singleton] at mem
    rcases mem with old | rfl
    · exact sound.member r old
    · simp
  region i r mem := by
    simp only [Scan.openRegion] at mem
    rcases Nat.lt_or_ge i s.diagram.regions.length with lt | ge
    · rw [List.getElem?_append_left lt] at mem
      exact sound.region i r mem
    · -- the new region is the last one, numbered by the regions before it
      rw [List.getElem?_append_right ge, List.getElem?_singleton] at mem
      split at mem
      · rename_i zero
        simp only [Option.mem_def, Option.some.injEq] at mem
        subst mem
        exact ⟨by rw [show i = s.diagram.regions.length by omega], titled⟩
      · cases mem

theorem sound_declare (sound : s.diagram.Sound src) {id text : Text} (shape : Shape)
    (token : IsIdentToken id src) (trimmed : text.trim = text) :
    (s.declare id text shape).diagram.Sound src := by
  unfold Scan.declare
  split
  · -- a new node: its text, or its id when the text is empty
    have shown : (Node.declared id text shape).text ≠ [] ∧
        (Node.declared id text shape).text.trim = (Node.declared id text shape).text := by
      unfold Node.declared
      split
      · exact ⟨token.1, trim_eq_self_of_idents token.2.1⟩
      · rename_i nonempty
        exact ⟨by simpa using nonempty, trimmed⟩
    exact sound_attach (sound.putNode token shown) (hasNode_putNode _ _)
  · rename_i n found
    obtain ⟨-, same⟩ := mem_of_node?_eq_some found
    split
    · rename_i changes
      simp only [Bool.and_eq_true, Bool.not_eq_true', List.isEmpty_eq_false_iff,
        decide_eq_true_eq] at changes
      have put := sound.putNode (n := { n with text, shape }) (by simpa [same] using token)
        ⟨changes.1, trimmed⟩
      exact sound_attach put (by simpa [same] using hasNode_putNode s.diagram { n with text, shape })
    · exact sound

theorem hasNode_ensure {id x : Text} (node : s.diagram.hasNode x = true) :
    (s.ensure id).diagram.hasNode x = true := by
  unfold Scan.ensure
  split
  · exact node
  · simpa using hasNode_putNode_of_hasNode _ node

theorem sound_ensure (sound : s.diagram.Sound src) {id : Text} (token : IsIdentToken id src) :
    (s.ensure id).diagram.Sound src ∧ (s.ensure id).diagram.hasNode id = true := by
  unfold Scan.ensure
  split
  · rename_i present
    exact ⟨sound, present⟩
  · have put := sound.putNode (n := Node.bare id) token ⟨token.1, trim_eq_self_of_idents token.2.1⟩
    exact ⟨sound_attach put (hasNode_putNode _ _), by
      rw [hasNode_attach]
      exact hasNode_putNode s.diagram (Node.bare id)⟩

theorem sound_link (sound : s.diagram.Sound src) {e : Edge} (source : IsIdentToken e.source src)
    (target : IsIdentToken e.target src) (label : e.label.trim = e.label) :
    (s.link e).diagram.Sound src := by
  obtain ⟨sound₁, present₁⟩ := sound_ensure sound source
  obtain ⟨sound₂, present₂⟩ := sound_ensure sound₁ target
  have kept : ((s.ensure e.source).ensure e.target).diagram.hasNode e.source = true :=
    hasNode_ensure present₁
  exact {
    ident := sound₂.ident
    text := sound₂.text
    edge := fun e' mem => by
      rcases List.mem_append.1 mem with old | new
      · exact sound₂.edge e' old
      · rw [List.mem_singleton.1 new]
        exact ⟨kept, present₂, label⟩
    member := sound₂.member
    region := sound₂.region }

theorem sound_foldl_declare (nodes : List (Text × Text × Shape)) :
    ∀ s : Scan, s.diagram.Sound src → (∀ d ∈ nodes, IsIdentToken d.1 src ∧ d.2.1.trim = d.2.1) →
      (nodes.foldl (fun s (id, text, shape) => s.declare id text shape) s).diagram.Sound src := by
  induction nodes with
  | nil => intro s sound _; exact sound
  | cons d rest ih =>
      intro s sound declared
      obtain ⟨token, trimmed⟩ := declared d (by simp)
      exact ih _ (sound_declare sound d.2.2 token trimmed) fun d' mem => declared d' (by simp [mem])

/-- Every sound statement keeps the diagram sound. -/
theorem step_sound (sound : s.diagram.Sound src) {st : Statement} (ok : st.Sound src) :
    (s.step st).diagram.Sound src := by
  cases st with
  | nothing => exact sound
  | openRegion title => exact sound_openRegion sound ok
  | closeRegion => exact sound
  | elements nodes edge =>
      obtain ⟨declared, linked⟩ := ok
      have afterNodes := sound_foldl_declare nodes s sound declared
      cases edge with
      | none => exact afterNodes
      | some e =>
          obtain ⟨source, target, label⟩ := linked e rfl
          exact sound_link afterNodes source target label

theorem sound_foldl_step (sts : List Statement) :
    ∀ s : Scan, s.diagram.Sound src → (∀ st ∈ sts, st.Sound src) →
      (sts.foldl step s).diagram.Sound src := by
  induction sts with
  | nil => intro s sound _; exact sound
  | cons st rest ih =>
      intro s sound ok
      exact ih _ (step_sound sound (ok st (by simp))) fun st' mem => ok st' (by simp [mem])

end Syntax.Scan

/-- A diagram read from any source finds each node under its own id; each id is a whole identifier
of the source (a non-empty run of ASCII letters, digits and `_`, with none right before or after
it); every node shows a trimmed text that is not empty; every edge joins two nodes and has a trimmed
label; every region holds distinct nodes; and the `i`-th region is `subgraph_i`, with a title. -/
theorem Diagram.ofSource_wellFormed (src : Text) :
    let g := Diagram.ofSource src
    (∀ n ∈ g.nodes, g.node? n.id = some n) ∧
    (∀ n ∈ g.nodes, IsIdentToken n.id src) ∧
    (∀ n ∈ g.nodes, n.text ≠ [] ∧ n.text.trim = n.text) ∧
    (∀ e ∈ g.edges, g.hasNode e.source = true ∧ g.hasNode e.target = true ∧ e.label.trim = e.label) ∧
    (∀ r ∈ g.regions, r.members.Nodup ∧ ∀ m ∈ r.members, g.hasNode m = true) ∧
    ∀ i (h : i < g.regions.length),
      g.regions[i].id = Text.ofString "subgraph_" ++ Text.ofNat i ∧ g.regions[i].title ≠ [] := by
  intro g
  have sound : g.Sound src :=
    Syntax.Scan.sound_foldl_step _ _ (Diagram.sound_empty src _)
      fun _ mem => Syntax.mem_sourceStatements_sound mem
  exact ⟨fun n mem => g.node?_eq_some_of_mem mem, sound.ident, sound.text, sound.edge, sound.member,
    fun i h => sound.region i _ (List.getElem?_eq_getElem h)⟩

end Flowchart
