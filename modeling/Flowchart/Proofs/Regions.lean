import Flowchart.Proofs.Events
import Flowchart.Proofs.Layering

/-! # Who joins a region

A region's window is the run of statements after the one that opens it, up to the next statement
that opens a titled region or is `end`. An event makes a node join the open region when it creates
the node, a declaration or an edge's end naming it for the first time, or when it declares a text
for it (`Flowchart.Syntax.Event.joiner`). A region's members are the nodes with a joining event in
its window, each once, in the order first met (`Flowchart.Diagram.ofSource_regionMembers`).

The proof follows the one slot for the open region. Before the window, the regions opened are
counted by the openers read (`Flowchart.Syntax.Scan.length_regions_foldl`). Inside it, the region is
the last one and stays open, and each event adds what it joins
(`Flowchart.Syntax.Scan.regions_foldl_window`). Past it, a later region is the last one or none is
open, and then no event touches the region again (`Flowchart.Syntax.Scan.getElem?_regions_foldl`). -/

set_option autoImplicit false

namespace Flowchart

namespace Syntax

namespace Statement

/-- Whether a statement opens a region. -/
def opens : Statement → Bool
  | .openRegion _ => true
  | _ => false

/-- Whether a statement ends the window of the region open before it: it opens a region or closes
one. -/
def bounds : Statement → Bool
  | .openRegion _ => true
  | .closeRegion => true
  | _ => false

end Statement

namespace Event

/-- Whether an event opens a region. -/
def opens : Event → Bool
  | .openRegion _ => true
  | _ => false

/-- Whether an event opens or closes a region. -/
def bounds : Event → Bool
  | .openRegion _ => true
  | .closeRegion => true
  | _ => false

/-- The node an event makes join the open region, after the events `seen`: the node it creates, or
the node it declares a text for. -/
def joiner (seen : List Event) (e : Event) : Option Text :=
  e.subject.filter fun id => e.informative || (eventsFor id seen).isEmpty

end Event

/-- The nodes that the events `evs` make join the open region, in order, after the events `seen`. -/
def joiningIds (seen : List Event) : List Event → List Text
  | [] => []
  | e :: rest => (e.joiner seen).toList ++ joiningIds (seen ++ [e]) rest

theorem bounds_of_mem_events {st : Statement} (inside : st.bounds = false) :
    ∀ e ∈ st.events, e.bounds = false := by
  intro e mem
  cases st with
  | nothing => cases mem
  | openRegion title => cases inside
  | closeRegion => cases inside
  | elements nodes edge =>
      rcases List.mem_append.1 mem with declared | linked
      · obtain ⟨⟨id, text, shape⟩, -, rfl⟩ := List.mem_map.1 declared
        rfl
      · cases edge with
        | none => cases linked
        | some edge =>
            simp only [Option.map_some, Option.getD_some, List.mem_cons, List.not_mem_nil,
              or_false] at linked
            rcases linked with rfl | rfl | rfl <;> rfl

theorem countP_opens_events (st : Statement) :
    st.events.countP Event.opens = if st.opens then 1 else 0 := by
  cases st with
  | nothing => rfl
  | openRegion title => rfl
  | closeRegion => rfl
  | elements nodes edge =>
      rw [List.countP_eq_zero.2]
      · rfl
      · intro e mem opens
        have quiet := bounds_of_mem_events rfl e mem
        cases e <;> simp_all [Event.opens, Event.bounds]

theorem countP_opens_flatMap (sts : List Statement) :
    (sts.flatMap Statement.events).countP Event.opens = sts.countP Statement.opens := by
  induction sts with
  | nil => rfl
  | cons st rest ih =>
      rw [List.flatMap_cons, List.countP_append, ih, countP_opens_events, List.countP_cons]
      omega

theorem exists_split_of_lt_countP {α : Type} {p : α → Bool} :
    ∀ {l : List α} {i : Nat}, i < l.countP p →
      ∃ before x rest, l = before ++ x :: rest ∧ p x = true ∧ before.countP p = i
  | [], i, lt => by simp at lt
  | x :: l, i, lt => by
      by_cases hit : p x = true
      · cases i with
        | zero => exact ⟨[], x, l, rfl, hit, rfl⟩
        | succ i =>
            rw [List.countP_cons, if_pos hit] at lt
            have lt' : i < l.countP p := by omega
            obtain ⟨before, y, rest, split, hy, count⟩ := exists_split_of_lt_countP lt'
            refine ⟨x :: before, y, rest, by rw [split]; rfl, hy, ?_⟩
            rw [List.countP_cons, if_pos hit, count]
      · rw [List.countP_cons, if_neg hit, Nat.add_zero] at lt
        obtain ⟨before, y, rest, split, hy, count⟩ := exists_split_of_lt_countP lt
        refine ⟨x :: before, y, rest, by rw [split]; rfl, hy, ?_⟩
        rw [List.countP_cons, if_neg hit, count, Nat.add_zero]

namespace Scan

open Diagram

theorem mapLast_concat {β : Type} (f : β → β) (x : β) :
    ∀ xs : List β, mapLast f (xs ++ [x]) = xs ++ [f x]
  | [] => rfl
  | [y] => rfl
  | y :: z :: more => by
      rw [List.cons_append, List.cons_append, mapLast, ← List.cons_append, mapLast_concat f x (z :: more)]
      rfl

theorem getElem?_mapLast {β : Type} (f : β → β) {i : Nat} :
    ∀ {xs : List β}, i + 1 < xs.length → (mapLast f xs)[i]? = xs[i]?
  | [], lt => by simp at lt
  | [_], lt => by simp at lt
  | y :: z :: more, lt => by
      cases i with
      | zero => rfl
      | succ i =>
          simp only [mapLast, List.getElem?_cons_succ]
          have lt' : i + 1 < (z :: more).length := by simpa using lt
          exact getElem?_mapLast f lt'

theorem regions_declare (s : Scan) (id text : Text) (shape : Shape) :
    (s.declare id text shape).inRegion = s.inRegion ∧
      ((s.declare id text shape).diagram.regions = s.diagram.regions ∨
        (s.declare id text shape).diagram.regions =
          if s.inRegion then mapLast (·.addMember id) s.diagram.regions else s.diagram.regions) := by
  unfold declare
  split
  · exact ⟨by simp, Or.inr (by simp [regions_attach])⟩
  · split
    · exact ⟨by simp, Or.inr (by simp [regions_attach])⟩
    · exact ⟨rfl, Or.inl rfl⟩

theorem regions_ensure (s : Scan) (id : Text) :
    (s.ensure id).inRegion = s.inRegion ∧
      ((s.ensure id).diagram.regions = s.diagram.regions ∨
        (s.ensure id).diagram.regions =
          if s.inRegion then mapLast (·.addMember id) s.diagram.regions else s.diagram.regions) := by
  unfold ensure
  split
  · exact ⟨rfl, Or.inl rfl⟩
  · exact ⟨by simp, Or.inr (by simp [regions_attach])⟩

theorem length_regions_apply (s : Scan) (e : Event) :
    (s.apply e).diagram.regions.length = s.diagram.regions.length + if e.opens then 1 else 0 := by
  cases e with
  | declare id text shape =>
      rcases (regions_declare s id text shape).2 with same | joined
      · simp [apply, same, Event.opens]
      · rw [apply, joined]
        split <;> simp [length_mapLast, Event.opens]
  | endpoint id =>
      rcases (regions_ensure s id).2 with same | joined
      · simp [apply, same, Event.opens]
      · rw [apply, joined]
        split <;> simp [length_mapLast, Event.opens]
  | edge e => simp [apply, Event.opens]
  | openRegion title => simp [apply, Scan.openRegion, Event.opens]
  | closeRegion => simp [apply, Event.opens]

/-- Every opener read adds one region. -/
theorem length_regions_foldl (evs : List Event) (s : Scan) :
    (evs.foldl apply s).diagram.regions.length = s.diagram.regions.length + evs.countP Event.opens := by
  induction evs generalizing s with
  | nil => rfl
  | cons e rest ih =>
      rw [List.foldl_cons, ih, length_regions_apply, List.countP_cons]
      omega

/-- The region `i` exists and is not the open one: none is open, or a later region is the last. -/
def Past (s : Scan) (i : Nat) : Prop :=
  i < s.diagram.regions.length ∧ (s.inRegion = false ∨ i + 1 < s.diagram.regions.length)

theorem past_apply {s : Scan} {i : Nat} (past : s.Past i) (e : Event) :
    (s.apply e).diagram.regions[i]? = s.diagram.regions[i]? ∧ (s.apply e).Past i := by
  obtain ⟨exists_, notOpen⟩ := past
  -- a node event at most adds a member to the last region, and only while one is open
  have touchesLast : ∀ (t : Scan) (id : Text), t.inRegion = s.inRegion →
      (t.diagram.regions = s.diagram.regions ∨
        t.diagram.regions = if s.inRegion then mapLast (·.addMember id) s.diagram.regions
          else s.diagram.regions) →
      t.diagram.regions[i]? = s.diagram.regions[i]? ∧ t.Past i := by
    intro t id open_ regions
    have length : t.diagram.regions.length = s.diagram.regions.length := by
      rcases regions with same | joined
      · rw [same]
      · rw [joined]
        split <;> simp [length_mapLast]
    refine ⟨?_, by rw [Past, length, open_]; exact ⟨exists_, notOpen⟩⟩
    rcases regions with same | joined
    · rw [same]
    · rw [joined]
      split
      · rename_i inside
        rcases notOpen with closed | later
        · rw [closed] at inside
          cases inside
        · exact getElem?_mapLast _ later
      · rfl
  cases e with
  | declare id text shape =>
      obtain ⟨open_, regions⟩ := regions_declare s id text shape
      exact touchesLast _ id open_ regions
  | endpoint id =>
      obtain ⟨open_, regions⟩ := regions_ensure s id
      exact touchesLast _ id open_ regions
  | edge e => exact ⟨rfl, ⟨exists_, notOpen⟩⟩
  | openRegion title =>
      refine ⟨List.getElem?_append_left exists_, ?_, Or.inr ?_⟩ <;>
        simp only [apply, Scan.openRegion, List.length_append, List.length_singleton] <;> omega
  | closeRegion => exact ⟨rfl, exists_, Or.inl rfl⟩

theorem getElem?_regions_foldl (evs : List Event) {s : Scan} {i : Nat} (past : s.Past i) :
    (evs.foldl apply s).diagram.regions[i]? = s.diagram.regions[i]? := by
  induction evs generalizing s with
  | nil => rfl
  | cons e rest ih =>
      obtain ⟨same, past'⟩ := past_apply past e
      rw [List.foldl_cons, ih past', same]

theorem regions_apply_window {s : Scan} {seen : List Event}
    (nodes : ∀ x, s.diagram.node? x = settled seen x) {e : Event} (quiet : e.bounds = false)
    (open_ : s.inRegion = true) {R : List Region} {r : Region} (regions : s.diagram.regions = R ++ [r]) :
    (s.apply e).inRegion = true ∧
      (s.apply e).diagram.regions = R ++ [(e.joiner seen).toList.foldl Region.addMember r] := by
  have absent : ∀ x, s.diagram.node? x = none ↔ (eventsFor x seen).isEmpty = true := by
    intro x
    rw [nodes, settled_eq_none_iff, List.isEmpty_iff]
  cases e with
  | declare x text shape =>
      simp only [apply]
      unfold declare
      cases found : s.diagram.node? x with
      | none =>
          have fresh := (absent x).1 found
          simp [regions_attach, open_, regions, mapLast_concat, Event.joiner, Event.subject,
            Option.filter_some, fresh]
      | some n =>
          have known : eventsFor x seen ≠ [] := by
            rw [Ne, ← List.isEmpty_iff, ← absent, found]
            simp
          by_cases informs : text ≠ [] ∧ text ≠ x
          · simp [informs, regions_attach, open_, regions, mapLast_concat, Event.joiner,
              Event.subject, Event.informative, Option.filter_some]
          · have unchanged : (!text.isEmpty && decide (text ≠ x)) = false := by
              simpa using informs
            dsimp only
            rw [unchanged]
            simp [open_, regions, Event.joiner, Event.subject, Event.informative, Option.filter_some,
              informs, known]
  | endpoint x =>
      simp only [apply]
      unfold ensure
      by_cases present : s.diagram.hasNode x = true
      · have known : (eventsFor x seen).isEmpty = false := by
          rw [← Bool.not_eq_true, ← absent, ← Option.not_isSome_iff_eq_none,
            ← mem_nodeIds_iff, ← hasNode_iff]
          simp [present]
        simp [present, open_, regions, Event.joiner, Event.subject, Event.informative,
          Option.filter_some, known]
      · have fresh : (eventsFor x seen).isEmpty = true := by
          rw [← absent, ← Option.not_isSome_iff_eq_none, ← mem_nodeIds_iff, ← hasNode_iff]
          exact present
        simp [present, regions_attach, open_, regions, mapLast_concat, Event.joiner, Event.subject,
          Event.informative, Option.filter_some, fresh]
  | edge e => exact ⟨open_, by simp [apply, regions, Event.joiner, Event.subject]⟩
  | openRegion title => cases quiet
  | closeRegion => cases quiet

/-- Through a window, the open region stays the last one and gathers the nodes its events join. -/
theorem regions_foldl_window (W : List Event) (quiet : ∀ e ∈ W, e.bounds = false) :
    ∀ {s : Scan} {seen : List Event}, (∀ x, s.diagram.node? x = settled seen x) →
      s.inRegion = true → ∀ {R : List Region} {r : Region}, s.diagram.regions = R ++ [r] →
        (W.foldl apply s).inRegion = true ∧
          (W.foldl apply s).diagram.regions = R ++ [(joiningIds seen W).foldl Region.addMember r] := by
  induction W with
  | nil => intro s seen _ open_ R r regions; exact ⟨open_, regions⟩
  | cons e rest ih =>
      intro s seen nodes open_ R r regions
      obtain ⟨open', regions'⟩ :=
        regions_apply_window nodes (quiet e List.mem_cons_self) open_ regions
      have nodes' : ∀ x, (s.apply e).diagram.node? x = settled (seen ++ [e]) x := by
        intro x
        rw [node?_apply, settled_append, nodes]
      rw [List.foldl_cons, joiningIds, List.foldl_append]
      exact ih (fun e' mem => quiet e' (List.mem_cons_of_mem e mem)) nodes' open' regions'

theorem getElem?_regions_after {after : List Statement} (stop : ∀ st ∈ after.head?, st.bounds = true)
    {s : Scan} {R : List Region} {r : Region} (regions : s.diagram.regions = R ++ [r]) :
    ((after.flatMap Statement.events).foldl apply s).diagram.regions[R.length]? = some r := by
  cases after with
  | nil => simp [regions]
  | cons st more =>
      have bound := stop st rfl
      rw [List.flatMap_cons, List.foldl_append]
      cases st with
      | openRegion title =>
          have past : (s.apply (.openRegion title)).Past R.length := by
            refine ⟨?_, Or.inr ?_⟩ <;> simp [apply, Scan.openRegion, regions]
          rw [Statement.events, List.foldl_cons, List.foldl_nil, getElem?_regions_foldl _ past]
          simp [apply, Scan.openRegion, regions]
      | closeRegion =>
          have past : (s.apply .closeRegion).Past R.length := ⟨by simp [apply, regions], Or.inl rfl⟩
          rw [Statement.events, List.foldl_cons, List.foldl_nil, getElem?_regions_foldl _ past]
          simp [apply, regions]
      | nothing => cases bound
      | elements nodes edge => cases bound

end Scan

theorem members_foldl_addMember (ids : List Text) :
    ∀ r : Region, (ids.foldl Region.addMember r).members = r.members ++ (ids.filter (· ∉ r.members)).eraseDups := by
  intro r
  have plain : ∀ (ids : List Text) (r : Region), (ids.foldl Region.addMember r).members =
      ids.foldl (fun acc v => if ([] : List Text).contains v || acc.contains v then acc else acc ++ [v])
        r.members := by
    intro ids
    induction ids with
    | nil => intro r; rfl
    | cons v rest ih =>
        intro r
        rw [List.foldl_cons, List.foldl_cons, ih]
        unfold Region.addMember
        split <;> simp_all
  rw [plain, Topology.foldl_fresh_eq]
  simp

theorem exists_window (rest : List Statement) :
    ∃ window after, rest = window ++ after ∧ (∀ st ∈ window, st.bounds = false) ∧
      ∀ st ∈ after.head?, st.bounds = true := by
  refine ⟨rest.takeWhile (!·.bounds), rest.dropWhile (!·.bounds), List.takeWhile_append_dropWhile.symm,
    fun st mem => by simpa using List.mem_takeWhile_imp mem, fun st mem => ?_⟩
  have stop := List.head?_dropWhile_not (!·.bounds) rest
  rw [Option.mem_def.1 mem] at stop
  simpa using stop

end Syntax

open Syntax in
theorem Diagram.lt_countP_opens {src : Text} {i : Nat} {r : Region}
    (found : (Diagram.ofSource src).regions[i]? = some r) :
    i < (sourceStatements src).countP Statement.opens := by
  have length := Scan.length_regions_foldl (sourceEvents src) { diagram := { direction := headerDirection src } }
  rw [← Diagram.ofSource_eq_foldl_apply, sourceEvents, countP_opens_flatMap] at length
  have := (List.getElem?_eq_some_iff.1 found).1
  simp only [List.length_nil, Nat.zero_add] at length
  omega

open Syntax in
/-- The members of each region of a diagram read from a source are the nodes with a joining event
in the region's window, each once, in the order first met. The window of the `i`-th region is the
run of statements after the `i`-th statement that opens a titled region, up to the next statement
that opens one or is `end`. A joining event creates its node, or declares a text for it, neither
empty nor the id. -/
theorem Diagram.ofSource_regionMembers (src : Text) (i : Nat) (r : Region)
    (found : (Diagram.ofSource src).regions[i]? = some r) :
    ∃ before title window after,
      sourceStatements src = before ++ .openRegion title :: (window ++ after) ∧
      before.countP Statement.opens = i ∧
      (∀ st ∈ window, st.bounds = false) ∧ (∀ st ∈ after.head?, st.bounds = true) ∧
      r.members = (joiningIds ((before ++ [.openRegion title]).flatMap Statement.events)
        (window.flatMap Statement.events)).eraseDups := by
  let init : Scan := { diagram := { direction := headerDirection src } }
  have read : ∀ evs, sourceEvents src = evs → Diagram.ofSource src = (evs.foldl Scan.apply init).diagram := by
    rintro evs rfl
    exact Diagram.ofSource_eq_foldl_apply src
  obtain ⟨before, st, rest, split, opens, count⟩ := exists_split_of_lt_countP (Diagram.lt_countP_opens found)
  obtain ⟨title, rfl⟩ : ∃ title, st = .openRegion title := by
    cases st with
    | openRegion title => exact ⟨title, rfl⟩
    | _ => cases opens
  obtain ⟨window, after, rfl, inside, stop⟩ := exists_window rest
  refine ⟨before, title, window, after, split, count, inside, stop, ?_⟩
  -- the events run in stretches: up to the opener, through the window, and after it
  let seen := (before ++ [Statement.openRegion title]).flatMap Statement.events
  let s₁ := (before.flatMap Statement.events).foldl Scan.apply init
  have opened := Scan.length_regions_foldl (before.flatMap Statement.events) init
  rw [countP_opens_flatMap, count] at opened
  have atOpener : seen.foldl Scan.apply init = s₁.openRegion title := by
    simp [seen, s₁, List.flatMap_append, List.foldl_append, Statement.events, Scan.apply]
  have nodes : ∀ x, (s₁.openRegion title).diagram.node? x = settled seen x := by
    intro x
    rw [← atOpener]
    exact Scan.node?_foldl_apply seen (fun _ => rfl) x
  have quiet : ∀ e ∈ window.flatMap Statement.events, e.bounds = false := by
    intro e mem
    obtain ⟨st, inWindow, inSt⟩ := List.mem_flatMap.1 mem
    exact bounds_of_mem_events (inside st inWindow) e inSt
  obtain ⟨-, inWindow⟩ := Scan.regions_foldl_window (window.flatMap Statement.events) quiet nodes rfl rfl
  have final := Scan.getElem?_regions_after stop inWindow
  have whole : sourceEvents src =
      seen ++ (window.flatMap Statement.events ++ after.flatMap Statement.events) := by
    simp [sourceEvents, split, seen, List.flatMap_append]
  rw [← atOpener, ← List.foldl_append, ← List.foldl_append, ← whole, ← read _ rfl] at final
  simp only [s₁, opened, init, List.length_nil, Nat.zero_add, found, Option.some.injEq] at final
  rw [final, members_foldl_addMember]
  simp [seen]

open Syntax in
/-- In `G`, `A` joins by its declaration with a text and `C` by its creation; `B`, redeclared
without a text, and `A`, met again as an edge's end, do not. -/
theorem Diagram.ofSource_regionMembers_joined :
    let src := Text.ofString "A --> B\nsubgraph G\nA[Alpha]\nB[B]\nC --> A\nend\nE --> C"
    let r : Region := { id := Text.ofString "subgraph_0", title := Text.ofString "G",
                        members := [Text.ofString "A", Text.ofString "C"] }
    (Diagram.ofSource src).regions[0]? = some r ∧
    ∃ before title window after,
      sourceStatements src = before ++ .openRegion title :: (window ++ after) ∧
      before.countP Statement.opens = 0 ∧
      (∀ st ∈ window, st.bounds = false) ∧ (∀ st ∈ after.head?, st.bounds = true) ∧
      r.members = (joiningIds ((before ++ [.openRegion title]).flatMap Statement.events)
        (window.flatMap Statement.events)).eraseDups :=
  ⟨by decide +kernel, Diagram.ofSource_regionMembers _ 0 _ (by decide +kernel)⟩

end Flowchart
