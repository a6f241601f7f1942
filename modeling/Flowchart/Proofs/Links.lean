import Flowchart.Proofs.Tokens

/-! # Edges read from a statement

An edge read from a statement joins two whole identifiers of the statement: its source is the
identifier where the reading starts, which a search from the left only finds at its first character,
and its target follows a character that is no identifier character (a bar, the last character of an
arrow or of a closer, or a blank). Its label is trimmed (`Flowchart.Syntax.edgeOf?_tokens`). The
label ranges that masking blanks start and end where no identifier runs across
(`Flowchart.Syntax.safe_pipeRanges`, `Flowchart.Syntax.safe_inlineRanges`). -/

set_option autoImplicit false

namespace Flowchart

namespace Syntax

open Text

variable {α : Type}

/-! ## Identifiers and the pieces of syntax around them -/

theorem ident?_eq_some {t id rest : Text} (h : ident? t = some (id, rest)) :
    t = id ++ rest ∧ id ≠ [] ∧ (∀ c ∈ id, c.isIdent = true) ∧ ∀ c ∈ rest.head?, c.isIdent = false := by
  unfold ident? at h
  split at h
  · cases h
  · rename_i run notNil
    simp only [Option.some.injEq, Prod.mk.injEq] at h
    obtain ⟨rfl, rfl⟩ := h
    refine ⟨(List.takeWhile_append_dropWhile).symm, notNil, fun c mem => ?_, fun c mem => ?_⟩
    · exact List.mem_takeWhile_imp mem
    · have first := List.head?_dropWhile_not CodePoint.isIdent t
      rw [Option.mem_def] at mem
      rw [mem] at first
      simpa using first

theorem ident?_cons {c : CodePoint} {u id rest : Text} (ident : c.isIdent = true)
    (h : ident? u = some (id, rest)) : ident? (c :: u) = some (c :: id, rest) := by
  unfold ident? at h ⊢
  rw [List.takeWhile_cons_of_pos ident, List.dropWhile_cons_of_pos ident]
  split at h
  · cases h
  · rename_i run notNil
    simpa using h

theorem isIdentToken_of_ident? {x u id rest : Text} (h : ident? u = some (id, rest))
    (before : ∀ c ∈ x.getLast?, c.isIdent = false) : IsIdentToken id (x ++ u) := by
  obtain ⟨rfl, notNil, idents, after⟩ := ident?_eq_some h
  exact ⟨notNil, idents, x, rest, by simp, before, after⟩

theorem exists_last_of_getLast? {P : CodePoint → Prop} {a : Text} (ne : a ≠ [])
    (last : ∀ c ∈ a.getLast?, P c) (rest : Text) : ∃ y c, a ++ rest = y ++ c :: rest ∧ P c := by
  obtain ⟨y, c, rfl⟩ := (List.eq_nil_or_concat a).resolve_left ne
  exact ⟨y, c, by simp, last c (by simp)⟩

theorem arrows_last : ∀ a ∈ arrows, ∀ c ∈ (Text.ofString a).getLast?, c.isIdent = false := by
  decide

theorem labelClosers_last : ∀ a ∈ labelClosers, ∀ c ∈ (Text.ofString a).getLast?, c.isIdent = false := by
  decide

theorem labelClosers_head : ∀ a ∈ labelClosers, ∀ c ∈ (Text.ofString a).head?, c.isIdent = false := by
  decide

theorem labelOpeners_last : ∀ a ∈ labelOpeners, ∀ c ∈ (Text.ofString a).getLast?, c.isIdent = false := by
  decide

theorem shapeSyntax_last : ∀ e ∈ shapeSyntax, ∀ c ∈ (Text.ofString e.2.1).getLast?, c.isIdent = false := by
  decide

theorem shapeSyntax_closer_ne : ∀ e ∈ shapeSyntax, Text.ofString e.2.1 ≠ [] := by
  decide

theorem labelClosers_ne : ∀ a ∈ labelClosers, Text.ofString a ≠ [] := by
  decide

theorem labelOpeners_ne : ∀ a ∈ labelOpeners, Text.ofString a ≠ [] := by
  decide

theorem arrows_ne : ∀ a ∈ arrows, Text.ofString a ≠ [] := by
  decide

theorem skipBlanks_split (t : Text) :
    t = t.takeWhile CodePoint.isBlank ++ skipBlanks t := (List.takeWhile_append_dropWhile).symm

theorem eq_of_mem_arrowsAt {u a rest : Text} (mem : (a, rest) ∈ arrowsAt u) :
    ∃ s ∈ arrows, a = Text.ofString s ∧ u = a ++ rest := by
  obtain ⟨s, memS, hit⟩ := List.mem_filterMap.1 mem
  obtain ⟨rest', dropped, eq⟩ := Option.map_eq_some_iff.1 hit
  simp only [Prod.mk.injEq] at eq
  obtain ⟨rfl, rfl⟩ := eq
  exact ⟨s, memS, rfl, Text.eq_append_of_dropPrefix? dropped⟩

theorem enclosed?_eq_some {o c t body after : Text} (h : enclosed? o c t = some (body, after)) :
    t = o ++ body ++ c ++ after := by
  simp only [enclosed?, Option.bind_eq_bind, Option.bind_eq_some_iff, Option.pure_def,
    Option.some.injEq, Prod.mk.injEq] at h
  obtain ⟨inner, opened, rest, closed, rfl, rfl⟩ := h
  rw [Text.eq_append_of_dropPrefix? opened]
  conv_lhs => rw [← List.takeWhile_append_dropWhile (p := fun x => decide (x ≠ c.headD default)) (l := inner)]
  rw [Text.eq_append_of_dropPrefix? closed]
  simp

theorem mem_shapedBodies {t body after : Text} {s : Shape} (mem : (s, body, after) ∈ shapedBodies t) :
    ∃ e ∈ shapeSyntax, e.2.2 = s ∧ t = Text.ofString e.1 ++ body ++ Text.ofString e.2.1 ++ after := by
  obtain ⟨⟨o, c, s'⟩, memE, hit⟩ := List.mem_filterMap.1 mem
  obtain ⟨⟨body', after'⟩, found, eq⟩ := Option.map_eq_some_iff.1 hit
  simp only [Prod.mk.injEq] at eq
  obtain ⟨rfl, rfl, rfl⟩ := eq
  exact ⟨_, memE, rfl, enclosed?_eq_some found⟩

theorem exists_closer_of_mem_shapedBodies {t body after : Text} {s : Shape}
    (mem : (s, body, after) ∈ shapedBodies t) :
    ∃ y c, t = y ++ c :: after ∧ c.isIdent = false := by
  obtain ⟨e, memE, -, split⟩ := mem_shapedBodies mem
  obtain ⟨y, c, eq, notIdent⟩ :=
    exists_last_of_getLast? (shapeSyntax_closer_ne e memE) (shapeSyntax_last e memE) after
  exact ⟨Text.ofString e.1 ++ body ++ y, c, by rw [split, List.append_assoc _ _ after, eq]; simp,
    notIdent⟩

theorem withSource_eq_some {k : Text → Option α} {u src : Text} {a : α}
    (h : withSource k u = some (src, a)) :
    ∃ rest v, ident? u = some (src, rest) ∧ v <:+ rest ∧ k v = some a := by
  simp only [withSource, Option.bind_eq_bind, Option.bind_eq_some_iff, Option.pure_def,
    Option.some.injEq] at h
  obtain ⟨⟨src', rest⟩, found, r, read, eq⟩ := h
  simp only [Prod.mk.injEq] at eq
  obtain ⟨rfl, rfl⟩ := eq
  refine ⟨rest, ?_⟩
  rw [Option.orElse_eq_or, Option.or_eq_some_iff] at read
  rcases read with shaped | ⟨-, plain⟩
  · -- the reading after a shaped body goes on from the text after its closer
    obtain ⟨⟨s, body, after⟩, mem, hit⟩ := List.exists_of_findSome?_eq_some shaped
    obtain ⟨y, c, split, -⟩ := exists_closer_of_mem_shapedBodies mem
    refine ⟨after, found, ⟨rest.takeWhile CodePoint.isBlank ++ y ++ [c], ?_⟩, hit⟩
    conv_rhs => rw [skipBlanks_split rest, split]
    simp
  · exact ⟨rest, found, List.suffix_refl rest, plain⟩

theorem withSource_cons {k : Text → Option α} {c : CodePoint} {u : Text} (ident : c.isIdent = true)
    (h : (withSource k u).isSome) : (withSource k (c :: u)).isSome := by
  cases found : ident? u with
  | none => simp [withSource, found] at h
  | some p =>
      obtain ⟨id, rest⟩ := p
      simpa [withSource, found, ident?_cons ident found, Option.isSome_bind] using h

/-! ## Targets -/

/-- `v` reads on to the target `dst` after a character that is no identifier character. -/
def TargetIn (v dst : Text) : Prop :=
  ∃ y c after r, v = y ++ c :: after ∧ c.isIdent = false ∧ target? after = some (dst, r)

theorem TargetIn.append_left {v dst : Text} (h : TargetIn v dst) (w : Text) : TargetIn (w ++ v) dst := by
  obtain ⟨y, c, after, r, rfl, notIdent, hit⟩ := h
  exact ⟨w ++ y, c, after, r, by simp, notIdent, hit⟩

theorem TargetIn.of_suffix {v w dst : Text} (h : TargetIn v dst) (suffix : v <:+ w) : TargetIn w dst := by
  obtain ⟨x, rfl⟩ := suffix
  exact h.append_left x

theorem TargetIn.isIdentToken {v dst : Text} (h : TargetIn v dst) (x : Text) :
    IsIdentToken dst (x ++ v) := by
  obtain ⟨y, c, after, r, rfl, notIdent, hit⟩ := h
  have split : x ++ (y ++ c :: after) =
      (x ++ y ++ c :: after.takeWhile CodePoint.isBlank) ++ skipBlanks after := by
    conv_lhs => rw [skipBlanks_split after]
    simp
  rw [split]
  refine isIdentToken_of_ident? hit fun d mem => ?_
  rw [List.getLast?_append_cons] at mem
  rcases List.mem_cons.1 (List.mem_of_getLast? mem) with rfl | blank
  · exact notIdent
  · exact CodePoint.isIdent_eq_false_of_isBlank (List.mem_takeWhile_imp blank)

theorem closeAt_eq_some {z c dst r : Text} (h : closeAt z = some (c, dst, r)) :
    ∃ s ∈ labelClosers, c = Text.ofString s ∧ ∃ after, z = c ++ after ∧ target? after = some (dst, r) := by
  obtain ⟨s, mem, hit⟩ := List.exists_of_findSome?_eq_some h
  simp only [Option.bind_eq_some_iff, Option.map_eq_some_iff, Prod.mk.injEq] at hit
  obtain ⟨after, dropped, ⟨dst', r'⟩, found, rfl, rfl, rfl⟩ := hit
  exact ⟨s, mem, rfl, after, Text.eq_append_of_dropPrefix? dropped, found⟩

theorem closeAt_target {z c dst r : Text} (h : closeAt z = some (c, dst, r)) : TargetIn z dst := by
  obtain ⟨s, mem, rfl, after, rfl, found⟩ := closeAt_eq_some h
  obtain ⟨y, d, eq, notIdent⟩ :=
    exists_last_of_getLast? (labelClosers_ne s mem) (labelClosers_last s mem) after
  exact ⟨y, d, after, r, eq, notIdent, found⟩

theorem closeAt_head {z c dst r : Text} (h : closeAt z = some (c, dst, r)) :
    ∃ d rest, z = d :: rest ∧ d.isIdent = false := by
  obtain ⟨s, mem, rfl, after, rfl, -⟩ := closeAt_eq_some h
  obtain ⟨d, rest, eq⟩ := List.exists_cons_of_ne_nil (labelClosers_ne s mem)
  exact ⟨d, rest ++ after, by rw [eq]; rfl, labelClosers_head s mem d (by rw [eq]; rfl)⟩

theorem shortestLabel_eq_some {acc w label c dst r : Text}
    (h : shortestLabel acc w = some (label, c, dst, r)) :
    ∃ y z, w = y ++ z ∧ label = acc.reverse ++ y ∧ closeAt z = some (c, dst, r) := by
  fun_induction shortestLabel acc w with
  | case1 acc =>
      obtain ⟨⟨c', dst', r'⟩, found, eq⟩ := Option.map_eq_some_iff.1 h
      simp only [Prod.mk.injEq] at eq
      obtain ⟨rfl, rfl, rfl, rfl⟩ := eq
      exact ⟨[], [], rfl, by simp, found⟩
  | case2 acc x t c' dst' r' found =>
      simp only [Option.some.injEq, Prod.mk.injEq] at h
      obtain ⟨rfl, rfl, rfl, rfl⟩ := h
      exact ⟨[], x :: t, rfl, by simp, found⟩
  | case3 => cases h
  | case4 acc x t none bar ih =>
      obtain ⟨y, z, rfl, rfl, found⟩ := ih h
      exact ⟨x :: y, z, rfl, by simp, found⟩

theorem pipeTail_target {v arrow label dst r : Text} (h : pipeTail v = some (arrow, label, dst, r)) :
    TargetIn v dst := by
  obtain ⟨⟨arrow', rest⟩, mem, hit⟩ := List.exists_of_findSome?_eq_some h
  obtain ⟨s, -, -, split⟩ := eq_of_mem_arrowsAt mem
  simp only at hit
  split at hit
  · rename_i bar inner skipped
    split at hit
    · split at hit
      · rename_i d after dropped
        obtain ⟨⟨dst', r'⟩, found, eq⟩ := Option.map_eq_some_iff.1 hit
        simp only [Prod.mk.injEq] at eq
        obtain ⟨-, -, rfl, rfl⟩ := eq
        have closing : d = CodePoint.ofChar '|' := by
          have first := List.head?_dropWhile_not (fun x => decide (x ≠ CodePoint.ofChar '|')) inner
          rw [dropped] at first
          simpa using first
        have inner_split := (List.takeWhile_append_dropWhile (l := inner)
          (p := fun x => decide (x ≠ CodePoint.ofChar '|'))).symm
        rw [dropped] at inner_split
        refine TargetIn.of_suffix ⟨[], d, after, r', rfl, by rw [closing]; decide, found⟩ ?_
        refine ⟨v.takeWhile CodePoint.isBlank ++ arrow' ++ rest.takeWhile CodePoint.isBlank ++
          bar :: inner.takeWhile (fun x => decide (x ≠ CodePoint.ofChar '|')), ?_⟩
        conv_rhs => rw [skipBlanks_split v, split, skipBlanks_split rest, skipped, inner_split]
        simp
      · cases hit
    · cases hit
  · cases hit

theorem inlineTail_eq_some {v o labelFrom label c dst r : Text}
    (h : inlineTail v = some (o, labelFrom, label, c, dst, r)) :
    (∃ s ∈ labelOpeners, o = Text.ofString s ∧ skipBlanks v = o ++ labelFrom) ∧
      ∃ x y z, labelFrom = x :: y ++ z ∧ label = x :: y ∧ startsInlineLabel x = true ∧
        closeAt z = some (c, dst, r) := by
  obtain ⟨s, mem, hit⟩ := List.exists_of_findSome?_eq_some h
  simp only [Option.bind_eq_some_iff] at hit
  obtain ⟨rest, dropped, hit⟩ := hit
  split at hit
  · rename_i x more
    split at hit
    · rename_i starts
      obtain ⟨⟨label', c', dst', r'⟩, found, eq⟩ := Option.map_eq_some_iff.1 hit
      simp only [Prod.mk.injEq] at eq
      obtain ⟨rfl, rfl, rfl, rfl, rfl, rfl⟩ := eq
      obtain ⟨y, z, rfl, rfl, closed⟩ := shortestLabel_eq_some found
      exact ⟨⟨s, mem, rfl, Text.eq_append_of_dropPrefix? dropped⟩, x, y, z, rfl, by simp, starts, closed⟩
    · cases hit
  · cases hit

theorem plainTail_target {v arrow dst r : Text} (h : plainTail v = some (arrow, dst, r)) :
    TargetIn v dst := by
  obtain ⟨⟨arrow', rest⟩, mem, hit⟩ := List.exists_of_findSome?_eq_some h
  obtain ⟨s, memS, rfl, split⟩ := eq_of_mem_arrowsAt mem
  obtain ⟨⟨dst', r'⟩, found, eq⟩ := Option.map_eq_some_iff.1 hit
  simp only [Prod.mk.injEq] at eq
  obtain ⟨-, rfl, rfl⟩ := eq
  obtain ⟨y, c, eq, notIdent⟩ := exists_last_of_getLast? (arrows_ne s memS) (arrows_last s memS) rest
  refine TargetIn.of_suffix ⟨y, c, rest, r', eq, notIdent, found⟩ ⟨v.takeWhile CodePoint.isBlank, ?_⟩
  rw [← split]
  exact (skipBlanks_split v).symm

/-! ## The three forms of an edge -/

/-- What an edge reader guarantees of an edge it reads at the start of a text: it also reads one
after an identifier character put in front, and the edge starts at the identifier there, ends at a
target that follows a character that is no identifier character, and has a trimmed label. -/
structure ReadsEdge (m : Text → Option LinkRead) : Prop where
  extend : ∀ c u, c.isIdent = true → (m u).isSome → (m (c :: u)).isSome
  source : ∀ u l, m u = some l → ∃ rest, ident? u = some (l.edge.source, rest)
  target : ∀ u l, m u = some l → TargetIn u l.edge.target
  label : ∀ u l, m u = some l → l.edge.label.trim = l.edge.label

theorem suffix_of_ident? {u src rest v : Text} (found : ident? u = some (src, rest)) (suffix : v <:+ rest) :
    v <:+ u := by
  rw [(ident?_eq_some found).1]
  exact suffix.trans (List.suffix_append src rest)

theorem pipeLink?_reads : ReadsEdge pipeLink? where
  extend c u ident h := by
    simp only [pipeLink?, Option.isSome_map] at h ⊢
    exact withSource_cons ident h
  source u l h := by
    obtain ⟨⟨src, arrow, label, dst, r⟩, found, rfl⟩ := Option.map_eq_some_iff.1 h
    obtain ⟨rest, -, ident, -⟩ := withSource_eq_some found
    exact ⟨rest, ident⟩
  target u l h := by
    obtain ⟨⟨src, arrow, label, dst, r⟩, found, rfl⟩ := Option.map_eq_some_iff.1 h
    obtain ⟨rest, v, ident, suffix, tail⟩ := withSource_eq_some found
    exact (pipeTail_target tail).of_suffix (suffix_of_ident? ident suffix)
  label u l h := by
    obtain ⟨⟨src, arrow, label, dst, r⟩, found, rfl⟩ := Option.map_eq_some_iff.1 h
    exact trim_trim label

theorem inlineTail_target {v o labelFrom label c dst r : Text}
    (h : inlineTail v = some (o, labelFrom, label, c, dst, r)) : TargetIn v dst := by
  obtain ⟨⟨s, -, -, split⟩, x, y, z, rfl, -, -, closed⟩ := inlineTail_eq_some h
  refine (closeAt_target closed).of_suffix ⟨v.takeWhile CodePoint.isBlank ++ o ++ x :: y, ?_⟩
  conv_rhs => rw [skipBlanks_split v, split]
  simp

theorem inlineLink?_reads : ReadsEdge inlineLink? where
  extend c u ident h := by
    simp only [inlineLink?, Option.isSome_map] at h ⊢
    exact withSource_cons ident h
  source u l h := by
    obtain ⟨⟨src, o, labelFrom, label, c, dst, r⟩, found, rfl⟩ := Option.map_eq_some_iff.1 h
    obtain ⟨rest, -, ident, -⟩ := withSource_eq_some found
    exact ⟨rest, ident⟩
  target u l h := by
    obtain ⟨⟨src, o, labelFrom, label, c, dst, r⟩, found, rfl⟩ := Option.map_eq_some_iff.1 h
    obtain ⟨rest, v, ident, suffix, tail⟩ := withSource_eq_some found
    exact (inlineTail_target tail).of_suffix (suffix_of_ident? ident suffix)
  label u l h := by
    obtain ⟨⟨src, o, labelFrom, label, c, dst, r⟩, found, rfl⟩ := Option.map_eq_some_iff.1 h
    exact trim_trim label

theorem plainLink?_reads : ReadsEdge plainLink? where
  extend c u ident h := by
    simp only [plainLink?, Option.isSome_map] at h ⊢
    exact withSource_cons ident h
  source u l h := by
    obtain ⟨⟨src, arrow, dst, r⟩, found, rfl⟩ := Option.map_eq_some_iff.1 h
    obtain ⟨rest, -, ident, -⟩ := withSource_eq_some found
    exact ⟨rest, ident⟩
  target u l h := by
    obtain ⟨⟨src, arrow, dst, r⟩, found, rfl⟩ := Option.map_eq_some_iff.1 h
    obtain ⟨rest, v, ident, suffix, tail⟩ := withSource_eq_some found
    exact (plainTail_target tail).of_suffix (suffix_of_ident? ident suffix)
  label u l h := by
    obtain ⟨⟨src, arrow, dst, r⟩, found, rfl⟩ := Option.map_eq_some_iff.1 h
    rfl

theorem ReadsEdge.firstMatch {m : Text → Option LinkRead} (reads : ReadsEdge m) {t : Text}
    {l : LinkRead} (found : firstMatch m t = some l) :
    IsIdentToken l.edge.source t ∧ IsIdentToken l.edge.target t ∧ l.edge.label.trim = l.edge.label := by
  obtain ⟨x, u, rfl, hit, before⟩ := firstMatch_eq_some found
  -- a search that passed the character before `u` did not find an identifier running on there
  have boundary : ∀ c ∈ x.getLast?, c.isIdent = false := by
    intro c mem
    cases ident : c.isIdent
    · rfl
    · have some := reads.extend c u ident (by simp [hit])
      rw [before c mem] at some
      cases some
  obtain ⟨rest, source⟩ := reads.source u l hit
  exact ⟨isIdentToken_of_ident? source boundary, (reads.target u l hit).isIdentToken x,
    reads.label u l hit⟩

/-- The edge of a statement joins two whole identifiers of it, and its label is trimmed. -/
theorem edgeOf?_tokens {stmt : Text} {e : Edge} (h : edgeOf? stmt = some e) :
    IsIdentToken e.source stmt ∧ IsIdentToken e.target stmt ∧ e.label.trim = e.label := by
  obtain ⟨l, found, rfl⟩ := Option.map_eq_some_iff.1 h
  cases pipe : firstMatch pipeLink? stmt with
  | some l' =>
      rw [pipe, Option.orElse_some, Option.some.injEq] at found
      subst found
      exact pipeLink?_reads.firstMatch pipe
  | none =>
      rw [pipe, Option.orElse_none] at found
      cases inline : firstMatch inlineLink? stmt with
      | some l' =>
          rw [inline, Option.orElse_some, Option.some.injEq] at found
          subst found
          exact inlineLink?_reads.firstMatch inline
      | none =>
          rw [inline, Option.orElse_none] at found
          exact plainLink?_reads.firstMatch found

/-! ## Label ranges -/

theorem inlineLink?_label {u : Text} {l : LinkRead} (h : inlineLink? u = some l) :
    (∃ y c, u = y ++ c :: l.labelFrom ∧ c.isIdent = false) ∧
      ∃ d z, l.labelFrom = l.rawLabel ++ d :: z ∧ d.isIdent = false := by
  obtain ⟨⟨src, o, labelFrom, label, c, dst, r⟩, found, rfl⟩ := Option.map_eq_some_iff.1 h
  obtain ⟨rest, v, ident, suffix, tail⟩ := withSource_eq_some found
  obtain ⟨⟨s, mem, rfl, split⟩, x, y, z, rfl, rfl, -, closed⟩ := inlineTail_eq_some tail
  obtain ⟨w, rfl⟩ := suffix_of_ident? ident suffix
  obtain ⟨y', oc, opener, notIdent⟩ :=
    exists_last_of_getLast? (labelOpeners_ne s mem) (labelOpeners_last s mem) (x :: y ++ z)
  obtain ⟨d, z', rfl, closer⟩ := closeAt_head closed
  refine ⟨⟨w ++ v.takeWhile CodePoint.isBlank ++ y', oc, ?_, notIdent⟩, d, z', rfl, closer⟩
  conv_lhs => rw [skipBlanks_split v, split, opener]
  simp

theorem cut_inlineLabelAt {u : Text} {r : Nat × Nat} {n : Nat} (h : inlineLabelAt u = some (r, n)) :
    Cut u r.1 ∧ Cut u r.2 := by
  obtain ⟨l, found, eq⟩ := Option.map_eq_some_iff.1 h
  simp only [Prod.mk.injEq] at eq
  obtain ⟨rfl, -⟩ := eq
  obtain ⟨⟨y, c, opener, notIdent⟩, d, z, closer, notIdent'⟩ := inlineLink?_label found
  have start : u.length - l.labelFrom.length = y.length + 1 := by
    rw [opener]
    simp
    omega
  have whole : u = (y ++ c :: l.rawLabel) ++ d :: z := by
    rw [opener, closer]
    simp
  refine ⟨cut_after opener start notIdent, cut_at whole ?_ notIdent'⟩
  show u.length - l.labelFrom.length + l.rawLabel.length = (y ++ c :: l.rawLabel).length
  rw [start]
  simp
  omega

theorem cut_pipeLabelAt {u : Text} {r : Nat × Nat} {n : Nat} (h : pipeLabelAt u = some (r, n)) :
    Cut u r.1 ∧ Cut u r.2 := by
  obtain ⟨⟨arrow, rest⟩, mem, hit⟩ := List.exists_of_findSome?_eq_some h
  obtain ⟨s, -, -, split⟩ := eq_of_mem_arrowsAt mem
  simp only at hit
  split at hit
  · rename_i bar inner skipped
    split at hit
    · rename_i opening
      split at hit
      · rename_i d after dropped
        simp only [Option.some.injEq, Prod.mk.injEq] at hit
        obtain ⟨rfl, -⟩ := hit
        have closing : d = CodePoint.ofChar '|' := by
          have first := List.head?_dropWhile_not (fun x => decide (x ≠ CodePoint.ofChar '|')) inner
          rw [dropped] at first
          simpa using first
        have inner_split := (List.takeWhile_append_dropWhile (l := inner)
          (p := fun x => decide (x ≠ CodePoint.ofChar '|'))).symm
        rw [dropped] at inner_split
        have whole : u = (arrow ++ rest.takeWhile CodePoint.isBlank) ++
            bar :: (inner.takeWhile (fun x => decide (x ≠ CodePoint.ofChar '|')) ++ d :: after) := by
          conv_lhs => rw [split, skipBlanks_split rest, skipped]
          rw [← inner_split]
          simp
        have length := congrArg List.length whole
        have innerLength := congrArg List.length inner_split
        simp only [List.length_append, List.length_cons] at length innerLength
        refine ⟨cut_at whole ?_ (by rw [opening]; decide), cut_after (y := arrow ++
            rest.takeWhile CodePoint.isBlank ++ bar :: inner.takeWhile (fun x => decide (x ≠ CodePoint.ofChar '|')))
            (c := d) (z := after) (by rw [whole]; simp) ?_ (by rw [closing]; decide)⟩
        · show u.length - (skipBlanks rest).length = _
          rw [skipped]
          simp only [List.length_append, List.length_cons]
          omega
        · show u.length - after.length = _
          simp only [List.length_append, List.length_cons]
          omega
      · cases hit
    · cases hit
  · cases hit

theorem safe_pipeRanges (t : Text) : Safe (matchRanges pipeLabelAt t) t :=
  safe_matchRanges fun _ _ _ h _ => cut_pipeLabelAt h

theorem safe_inlineRanges (t : Text) : Safe (matchRanges inlineLabelAt t) t :=
  safe_matchRanges fun _ _ _ h _ => cut_inlineLabelAt h

end Syntax

end Flowchart
