import Flowchart.Proofs.Labels

/-! # The ends of an edge as written

An end of an edge is an identifier, perhaps followed by a shaped body: the opener, text and closer of
one of the shapes. When that text holds only letters, digits and spaces, an end reads back as
written. An identifier reading stops where the body starts, and the body is the first shaped reading
(`Flowchart.Syntax.Endpoint.shapedBodies_bodyText`). The declaration scan reports the body's
declaration and nothing else (`Flowchart.Syntax.Endpoint.scanFrom_written`). The cutter leaves no
bracket open after the end (`Flowchart.Syntax.Endpoint.foldl_written`). -/

set_option autoImplicit false

namespace Flowchart

theorem CodePoint.isBlank_eq_false_of_isIdent {c : CodePoint} (ident : c.isIdent = true) :
    c.isBlank = false := by
  cases blank : c.isBlank
  · rfl
  · rw [CodePoint.isIdent_eq_false_of_isBlank blank] at ident
    cases ident

namespace Syntax

open Text

/-- One end of an edge as written: an identifier, and perhaps a body given by a row of
`Flowchart.Syntax.shapeSyntax` (opener, closer, shape) and the text between opener and closer. -/
structure Endpoint where
  id : Text
  body : Option ((String × String × Shape) × Text) := none
deriving DecidableEq, Repr

/-- The characters the text of a body may hold here: letters, digits and spaces. -/
def plainChar (c : CodePoint) : Bool := c.isAlphanumeric || c == CodePoint.ofChar ' '

/-- The characters that break lines, cut statements, or make arrows and labels. -/
def edgeMarks : Text := Text.ofString "\r\n;|-.="

/-! ## Lexemes -/

theorem skipBlanks_of_head {t : Text} (solid : ∀ c ∈ t.head?, c.isBlank = false) : skipBlanks t = t := by
  cases t with
  | nil => rfl
  | cons c t => exact List.dropWhile_cons_of_neg (by simp [solid c rfl])

theorem ident?_append {id rest : Text} (ne : id ≠ []) (idents : ∀ c ∈ id, c.isIdent = true)
    (stop : ∀ c ∈ rest.head?, c.isIdent = false) : ident? (id ++ rest) = some (id, rest) := by
  have taken : (id ++ rest).takeWhile CodePoint.isIdent = id := by
    rw [List.takeWhile_append_of_pos idents]
    cases rest with
    | nil => simp
    | cons c rest => simp [List.takeWhile_cons_of_neg (by simp [stop c rfl] : ¬c.isIdent = true)]
  have dropped : (id ++ rest).dropWhile CodePoint.isIdent = rest := by
    rw [List.dropWhile_append_of_pos idents]
    cases rest with
    | nil => rfl
    | cons c rest => exact List.dropWhile_cons_of_neg (by simp [stop c rfl])
  obtain ⟨c, id', rfl⟩ := List.exists_cons_of_ne_nil ne
  unfold ident?
  rw [taken, dropped]

theorem clean_eq_trim {t : Text} (noQuote : CodePoint.ofChar '"' ∉ t) : clean t = t.trim := by
  unfold clean
  dsimp only
  rw [if_neg]
  rintro ⟨-, head, -⟩
  obtain ⟨pre, post, eq, -, -⟩ := bounded_trim t
  exact noQuote (by rw [eq]; exact List.mem_append_left _ (List.mem_append_right _ (List.mem_of_mem_head? head)))

theorem enclosed?_written (o c t rest : Text) (ne : c ≠ []) (stops : ∀ x ∈ t, x ≠ c.headD default) :
    enclosed? o c (o ++ t ++ c ++ rest) = some (t, rest) := by
  obtain ⟨d, c', rfl⟩ := List.exists_cons_of_ne_nil ne
  have taken : (t ++ (d :: c' ++ rest)).takeWhile (fun x => decide (x ≠ (d :: c').headD default)) = t := by
    rw [List.takeWhile_append_of_pos (by simpa using stops), List.cons_append,
      List.takeWhile_cons_of_neg (by simp)]
    simp
  have dropped : (t ++ (d :: c' ++ rest)).dropWhile (fun x => decide (x ≠ (d :: c').headD default)) =
      d :: c' ++ rest := by
    rw [List.dropWhile_append_of_pos (by simpa using stops), List.cons_append,
      List.dropWhile_cons_of_neg (by simp)]
  simp only [enclosed?, List.append_assoc, Text.dropPrefix?_append, Option.bind_eq_bind,
    Option.bind_some, taken, dropped, Option.pure_def]

theorem shapedBodies_eq_nil {u : Text} (head : ∀ c ∈ u.head?, c ∉ Text.ofString "[(\x7b>") :
    shapedBodies u = [] := by
  cases u with
  | nil => decide
  | cons c u =>
      have notOpen := head c rfl
      simp [Text.ofString] at notOpen
      obtain ⟨h1, h2, h3, h4⟩ := notOpen
      simp +decide [shapedBodies, shapeSyntax, enclosed?, Text.ofString, Text.dropPrefix?, Ne.symm h1,
        Ne.symm h2, Ne.symm h3, Ne.symm h4]

namespace Endpoint

/-- A body as written: opener, text and closer. -/
def bodyText : Option ((String × String × Shape) × Text) → Text
  | none => []
  | some ((o, c, _), t) => Text.ofString o ++ t ++ Text.ofString c

/-- The end as written. -/
def written (e : Endpoint) : Text := e.id ++ bodyText e.body

/-- The declaration the body makes: the id, the text made clean, and the shape. -/
def declaration (e : Endpoint) : Option (Text × Text × Shape) :=
  match e.body with
  | none => none
  | some ((_, _, s), t) => some (e.id, clean t, s)

theorem declaration_id (e : Endpoint) : ∀ d ∈ e.declaration, d.1 = e.id := by
  intro d mem
  unfold declaration at mem
  split at mem
  · cases mem
  · cases mem
    rfl

/-- The node the end stands for when nothing else declares it. -/
def node (e : Endpoint) : Node :=
  match e.body with
  | none => Node.bare e.id
  | some ((_, _, s), t) => Node.declared e.id t.trim s

theorem node_of_body_eq_none {e : Endpoint} (plain : e.body = none) : e.node = Node.bare e.id := by
  simp [node, plain]

/-- An end whose id is an identifier and whose body, if any, is of one of the shapes and holds
letters, digits and spaces only. -/
structure WellWritten (e : Endpoint) : Prop where
  id_ne : e.id ≠ []
  ident : ∀ c ∈ e.id, c.isIdent = true
  body : ∀ b ∈ e.body, b.1 ∈ shapeSyntax ∧ ∀ c ∈ b.2, plainChar c = true

instance (e : Endpoint) : Decidable e.WellWritten :=
  decidable_of_iff (e.id ≠ [] ∧ (∀ c ∈ e.id, c.isIdent = true) ∧
      ∀ b ∈ e.body, b.1 ∈ shapeSyntax ∧ ∀ c ∈ b.2, plainChar c = true)
    ⟨fun ⟨ne, ident, body⟩ => ⟨ne, ident, body⟩, fun ⟨ne, ident, body⟩ => ⟨ne, ident, body⟩⟩

/-! ## Characters -/

theorem special_not_ident : ∀ c ∈ Cutter.special, c.isIdent = false := by
  decide

theorem special_not_plain : ∀ c ∈ Cutter.special, plainChar c = false := by
  decide

theorem edgeMarks_not_ident : ∀ c ∈ edgeMarks, c.isIdent = false := by
  decide

theorem edgeMarks_not_plain : ∀ c ∈ edgeMarks, plainChar c = false := by
  decide

theorem shapeSyntax_brackets : ∀ r ∈ shapeSyntax,
    (∀ c ∈ Text.ofString r.1, c ∈ Text.ofString "[(\x7b>") ∧
      (∀ c ∈ Text.ofString r.2.1, c ∈ Text.ofString "])\x7d") ∧
      (Text.ofString r.1).length = (Text.ofString r.2.1).length ∧
      ∀ c ∈ Text.ofString r.1 ++ Text.ofString r.2.1, c ∉ edgeMarks := by
  decide

theorem shapeSyntax_opener_ne : ∀ r ∈ shapeSyntax, Text.ofString r.1 ≠ [] := by
  decide

theorem opener_head_solid : ∀ r ∈ shapeSyntax, ∀ c ∈ (Text.ofString r.1).head?,
    c.isIdent = false ∧ c.isBlank = false := by
  decide

theorem closer_last_solid : ∀ r ∈ shapeSyntax, ∀ c ∈ (Text.ofString r.2.1).getLast?, c.isBlank = false := by
  decide

theorem closer_head_special : ∀ r ∈ shapeSyntax, (Text.ofString r.2.1).headD default ∈ Cutter.special := by
  decide

theorem not_mem_of_ident {c : CodePoint} {t : Text} (ident : c.isIdent = true)
    (none : ∀ x ∈ t, x.isIdent = false) : c ∉ t := fun mem => by
  rw [none c mem] at ident
  cases ident

theorem not_mem_of_plain {c : CodePoint} {t : Text} (plain : plainChar c = true)
    (none : ∀ x ∈ t, plainChar x = false) : c ∉ t := fun mem => by
  rw [none c mem] at plain
  cases plain

/-- A written body is the first shaped reading of the text it starts: the openers tried before
its own are longer, and fail on its first characters. -/
theorem shapedBodies_bodyText {r : String × String × Shape} {t : Text} (row : r ∈ shapeSyntax)
    (plain : ∀ c ∈ t, plainChar c = true) (rest : Text) :
    ∃ more, shapedBodies (bodyText (some (r, t)) ++ rest) = (r.2.2, t, rest) :: more := by
  have stops : ∀ c ∈ t, c ∉ Cutter.special := fun c mem => not_mem_of_plain (plain c mem) special_not_plain
  have closerStops : ∀ c ∈ t, c ≠ (Text.ofString r.2.1).headD default := fun c mem eq =>
    stops c mem (eq ▸ closer_head_special r row)
  -- an opener's second character is a bracket, never the first character of the text
  have second : ∀ x ∈ t.head?, CodePoint.ofChar '[' ≠ x ∧ CodePoint.ofChar '(' ≠ x ∧
      CodePoint.ofChar '\x7b' ≠ x := by
    intro x mem
    have notSpecial := stops x (List.mem_of_mem_head? mem)
    simp only [Cutter.special, List.mem_cons, List.not_mem_nil, or_false, not_or] at notSpecial
    exact ⟨Ne.symm notSpecial.2.2.2.1, Ne.symm notSpecial.2.2.2.2.1, Ne.symm notSpecial.2.2.2.2.2.1⟩
  obtain ⟨o, c, s⟩ := r
  simp only [shapeSyntax, List.mem_cons, List.not_mem_nil, or_false, Prod.mk.injEq] at row
  rcases row with ⟨rfl, rfl, rfl⟩ | ⟨rfl, rfl, rfl⟩ | ⟨rfl, rfl, rfl⟩ | ⟨rfl, rfl, rfl⟩ |
    ⟨rfl, rfl, rfl⟩ | ⟨rfl, rfl, rfl⟩ | ⟨rfl, rfl, rfl⟩ | ⟨rfl, rfl, rfl⟩ <;>
  · simp only [bodyText, shapedBodies, shapeSyntax, List.filterMap_cons]
    rw [enclosed?_written _ _ _ _ (by decide) closerStops]
    cases t with
    | nil => simp +decide [Text.ofString, enclosed?, Text.dropPrefix?]
    | cons x t =>
        obtain ⟨h1, h2, h3⟩ := second x rfl
        simp +decide [Text.ofString, enclosed?, Text.dropPrefix?, h1, h2, h3]

section

variable {e : Endpoint} (wf : e.WellWritten)
include wf

theorem not_mem_edgeMarks : ∀ c ∈ e.written, c ∉ edgeMarks := by
  intro c mem
  rcases List.mem_append.1 mem with inId | inBody
  · exact not_mem_of_ident (wf.ident c inId) edgeMarks_not_ident
  · cases body : e.body with
    | none => simp [body, bodyText] at inBody
    | some b =>
        obtain ⟨⟨o, c', s⟩, t⟩ := b
        obtain ⟨row, plain⟩ := wf.body _ body
        rw [body, bodyText] at inBody
        simp only [List.mem_append] at inBody
        rcases inBody with (opener | text) | closer
        · exact (shapeSyntax_brackets _ row).2.2.2 c (List.mem_append_left _ opener)
        · exact not_mem_of_plain (plain c text) edgeMarks_not_plain
        · exact (shapeSyntax_brackets _ row).2.2.2 c (List.mem_append_right _ closer)

theorem written_head : ∀ c ∈ e.written.head?, c.isIdent = true := by
  intro c mem
  obtain ⟨d, id, eq⟩ := List.exists_cons_of_ne_nil wf.id_ne
  rw [written, eq] at mem
  simp only [List.cons_append, List.head?_cons, Option.mem_def, Option.some.injEq] at mem
  exact mem ▸ wf.ident d (by rw [eq]; exact List.mem_cons_self)

theorem written_last : ∀ c ∈ e.written.getLast?, c.isBlank = false := by
  intro c mem
  cases body : e.body with
  | none =>
      rw [written, body, bodyText, List.append_nil] at mem
      exact CodePoint.isBlank_eq_false_of_isIdent (wf.ident c (List.mem_of_getLast? mem))
  | some b =>
      obtain ⟨⟨o, c', s⟩, t⟩ := b
      obtain ⟨row, -⟩ := wf.body _ body
      rw [written, body, bodyText, ← List.append_assoc,
        List.getLast?_append_of_ne_nil _ (shapeSyntax_closer_ne _ row)] at mem
      exact closer_last_solid _ row c mem

theorem bodyText_head : ∀ c ∈ (bodyText e.body).head?, c.isIdent = false ∧ c.isBlank = false := by
  intro c mem
  cases body : e.body with
  | none => simp [body, bodyText] at mem
  | some b =>
      obtain ⟨⟨o, c', s⟩, t⟩ := b
      obtain ⟨row, -⟩ := wf.body _ body
      rw [body, bodyText, List.append_assoc,
        List.head?_append_of_ne_nil _ (shapeSyntax_opener_ne _ row)] at mem
      exact opener_head_solid _ row c mem

theorem body_head_append {rest : Text} (stop : ∀ c ∈ rest.head?, c.isIdent = false) :
    ∀ c ∈ (bodyText e.body ++ rest).head?, c.isIdent = false := by
  intro c mem
  cases bodyEmpty : bodyText e.body with
  | nil => exact stop c (by rw [bodyEmpty] at mem; exact mem)
  | cons d more =>
      rw [bodyEmpty] at mem
      have := (bodyText_head wf d (by rw [bodyEmpty]; rfl)).1
      simp only [List.cons_append, List.head?_cons, Option.mem_def, Option.some.injEq] at mem
      exact mem ▸ this

theorem target?_written : target? (CodePoint.ofChar ' ' :: e.written) = some (e.id, bodyText e.body) := by
  have solid : ∀ c ∈ e.written.head?, c.isBlank = false :=
    fun c mem => CodePoint.isBlank_eq_false_of_isIdent (written_head wf c mem)
  unfold target? skipBlanks
  rw [List.dropWhile_cons_of_pos (by decide)]
  rw [← skipBlanks, skipBlanks_of_head solid, written]
  exact ident?_append wf.id_ne wf.ident fun c mem => (bodyText_head wf c (by simpa using mem)).1

/-- The cutter leaves no bracket open after a written end: the opener raises the depth by at most
its length, the text leaves the depth alone, and the closer, as long as the opener, lowers it again. -/
theorem foldl_written (s : Cutter) (depth : s.depth = 0) (q : s.inQuotes = false)
    (p : s.inPipe = false) : ∃ buf prev, e.written.foldl Cutter.step s = { s with buf, prev } := by
  rw [written, List.foldl_append]
  obtain ⟨buf, prev, idFold⟩ :=
    Cutter.foldl_plain e.id (fun c mem => not_mem_of_ident (wf.ident c mem) special_not_ident) s
  rw [idFold]
  cases body : e.body with
  | none => exact ⟨buf, prev, rfl⟩
  | some b =>
      obtain ⟨⟨o, c, sh⟩, t⟩ := b
      obtain ⟨row, plain⟩ := wf.body _ body
      dsimp only at row plain
      obtain ⟨opening, closing, same, -⟩ := shapeSyntax_brackets _ row
      dsimp only at opening closing same
      rw [bodyText, List.foldl_append, List.foldl_append]
      obtain ⟨d, le, buf₁, prev₁, opened⟩ := Cutter.foldl_opening _ opening { s with buf, prev } q p
      rw [opened]
      obtain ⟨buf₂, prev₂, middle⟩ :=
        Cutter.foldl_plain t (fun x mem => not_mem_of_plain (plain x mem) special_not_plain) _
      rw [middle]
      dsimp only at le ⊢
      obtain ⟨buf₃, prev₃, closed⟩ :=
        Cutter.foldl_closing _ closing { s with depth := d, buf := buf₂, prev := prev₂ } q p
      rw [closed]
      refine ⟨buf₃, prev₃, ?_⟩
      have back : d - (Text.ofString c).length = s.depth := by omega
      dsimp only
      rw [back]

theorem declared_eq_node {o c : String} {s : Shape} {t : Text} (body : e.body = some ((o, c, s), t)) :
    Node.declared e.id (clean t) s = e.node := by
  obtain ⟨-, plain⟩ := wf.body _ body
  have noQuote : CodePoint.ofChar '"' ∉ t := fun mem => by
    have := plain _ mem
    revert this
    decide
  rw [node, body, clean_eq_trim noQuote]

end

/-! ## Reading a written end -/

variable {α : Type} {e : Endpoint} (wf : e.WellWritten) {rest : Text}
  (stop : ∀ c ∈ rest.head?, c.isIdent = false)
  (noBody : ∀ c ∈ (skipBlanks rest).head?, c ∉ Text.ofString "[(\x7b>")
include wf stop noBody

theorem withSource_written {k : Text → Option α} {a : α} (hit : k rest = some a) :
    withSource k (e.written ++ rest) = some (e.id, a) := by
  rw [written, List.append_assoc]
  have ident := ident?_append wf.id_ne wf.ident (body_head_append wf stop)
  cases body : e.body with
  | none =>
      rw [body] at ident
      simp only [bodyText, List.nil_append] at ident ⊢
      simp only [withSource, ident, shapedBodies_eq_nil noBody, Option.bind_eq_bind, Option.bind_some,
        List.findSome?_nil, Option.orElse_none, hit, Option.pure_def]
  | some b =>
      obtain ⟨⟨o, c, s⟩, t⟩ := b
      obtain ⟨row, plain⟩ := wf.body _ body
      dsimp only at row plain
      rw [body] at ident
      obtain ⟨more, bodies⟩ := shapedBodies_bodyText row plain rest
      have skip : skipBlanks (bodyText (some ((o, c, s), t)) ++ rest) = bodyText (some ((o, c, s), t)) ++ rest :=
        skipBlanks_of_head fun x mem => by
          rw [bodyText, List.append_assoc, List.append_assoc,
            List.head?_append_of_ne_nil _ (shapeSyntax_opener_ne _ row)] at mem
          exact (opener_head_solid _ row x mem).2
      simp only [withSource, ident, skip, bodies, Option.bind_eq_bind, Option.bind_some,
        List.findSome?_cons, hit, Option.orElse_some,
        Option.pure_def]

end Endpoint

theorem declarationAt_ident {w rest : Text} (ne : w ≠ []) (idents : ∀ c ∈ w, c.isIdent = true)
    (stop : ∀ c ∈ rest.head?, c.isIdent = false)
    (noBody : ∀ c ∈ (skipBlanks rest).head?, c ∉ Text.ofString "[(\x7b>") :
    declarationAt (w ++ rest) = none := by
  simp [declarationAt, ident?_append ne idents stop, shapedBodies_eq_nil noBody]

theorem declarationAt_of_not_ident {c : CodePoint} (u : Text) (notIdent : c.isIdent = false) :
    declarationAt (c :: u) = none := by
  have none : ident? (c :: u) = none := by
    simp [ident?, List.takeWhile_cons_of_neg (by simp [notIdent] : ¬c.isIdent = true)]
  simp [declarationAt, none]

namespace Endpoint

variable {e : Endpoint} (wf : e.WellWritten) {rest : Text}
  (stop : ∀ c ∈ rest.head?, c.isIdent = false)
  (noBody : ∀ c ∈ (skipBlanks rest).head?, c ∉ Text.ofString "[(\x7b>")
include wf stop noBody

theorem declarationAt_written :
    declarationAt (e.written ++ rest) = e.declaration.map fun d => (d, e.written.length) := by
  cases body : e.body with
  | none =>
      simp only [written, declaration, body, bodyText, List.append_nil, Option.map_none]
      exact declarationAt_ident wf.id_ne wf.ident stop noBody
  | some b =>
      obtain ⟨⟨o, c, s⟩, t⟩ := b
      obtain ⟨row, plain⟩ := wf.body _ body
      dsimp only at row plain
      obtain ⟨more, bodies⟩ := shapedBodies_bodyText row plain rest
      have skip : skipBlanks (bodyText (some ((o, c, s), t)) ++ rest) = bodyText (some ((o, c, s), t)) ++ rest :=
        skipBlanks_of_head fun x mem => by
          rw [bodyText, List.append_assoc, List.append_assoc,
            List.head?_append_of_ne_nil _ (shapeSyntax_opener_ne _ row)] at mem
          exact (opener_head_solid _ row x mem).2
      have ident := ident?_append wf.id_ne wf.ident (body_head_append wf stop)
      rw [body] at ident
      simp only [written, declaration, body, List.append_assoc] at ident ⊢
      simp [declarationAt, ident, skip, bodies]
      omega

theorem scanFrom_written (pos : Nat) :
    scanFrom declarationAt pos 0 (e.written ++ rest) =
      (e.declaration.map fun d => (pos, d)).toList ++
        scanFrom declarationAt (pos + e.written.length) 0 rest := by
  cases body : e.body with
  | none =>
      have idOnly : e.written = e.id := by simp [written, body, bodyText]
      rw [idOnly, scanFrom_append_none pos rest fun u suffix ne =>
        declarationAt_ident ne (fun c mem => wf.ident c (suffix.subset mem)) stop noBody]
      simp [declaration, body]
  | some b =>
      obtain ⟨⟨o, c, s⟩, t⟩ := b
      have ne : e.written ≠ [] := by simp [written, wf.id_ne]
      have hit : declarationAt (e.written ++ rest) = some ((e.id, clean t, s), e.written.length) := by
        simp [declarationAt_written wf stop noBody, declaration, body]
      rw [scanFrom_append_some pos rest ne hit]
      simp [declaration, body]

end Endpoint

end Syntax

end Flowchart
