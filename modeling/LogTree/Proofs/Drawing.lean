import LogTree.Config.Outline
import LogTree.Proofs.Declared
import Mathlib.Algebra.GroupWithZero.Nat
import Mathlib.Data.List.Lex
import Mathlib.Data.List.Sort

/-!
Drawings of trees can be read. Each line tells by the pieces at its start how deep its node stands and
whether a sibling follows, the lines stand in the order of their places, and no other tree has the same
lines. Main statement: `lines_determine_tree`.
-/
namespace LogTree

/-- What a line says of its node: the steps down from the root, whether it is the last among its siblings,
and its label. -/
structure Row where
  depth : Nat
  last : Bool
  label : String

namespace Row

def lower (n : Nat) (r : Row) : Row := { r with depth := r.depth + n }

/-- A piece for each step down, of which the last is a mark, and then the label. -/
def ofChars : List Char → Row
  | '│' :: ' ' :: ' ' :: rest => (ofChars rest).lower 1
  | ' ' :: ' ' :: ' ' :: rest => (ofChars rest).lower 1
  | '├' :: '─' :: ' ' :: label => ⟨1, false, .ofList label⟩
  | '└' :: '─' :: ' ' :: label => ⟨1, true, .ofList label⟩
  | label => ⟨0, true, .ofList label⟩

def ofLine (line : String) : Row := ofChars line.toList

theorem ofLine_piece (more : Bool) (s : String) :
    ofLine ((if more then "│  " else "   ") ++ s) = (ofLine s).lower 1 := by
  unfold ofLine
  rw [String.toList_append]
  cases more <;> rfl

theorem ofLine_mark (last : Bool) (label : String) :
    ofLine ((if last then "└─ " else "├─ ") ++ label) = ⟨1, last, label⟩ := by
  unfold ofLine
  rw [String.toList_append]
  cases last
  · exact congrArg _ (String.ofList_toList)
  · exact congrArg _ (String.ofList_toList)

/-- No piece starts with a letter. -/
theorem ofLine_plain {line : String} (letter : line.toList.head?.any Char.isLower = true) :
    ofLine line = ⟨0, true, line⟩ := by
  have plain : ofChars line.toList = ⟨0, true, .ofList line.toList⟩ := by
    unfold ofChars
    split
    case h_5 => rfl
    all_goals
      rename_i start
      rw [start] at letter
      cases letter
  rw [ofLine, plain, String.ofList_toList]

def Indents (n : Nat) (indent : String) : Prop := ∀ s, ofLine (indent ++ s) = (ofLine s).lower n

theorem indents_empty : Indents 0 "" := by
  intro s
  rw [String.empty_append]
  rfl

theorem Indents.piece {n : Nat} {indent : String} (indents : Indents n indent) (more : Bool) :
    Indents (n + 1) (indent ++ if more then "│  " else "   ") := by
  intro s
  rw [String.append_assoc, indents, ofLine_piece]
  simp [lower, Nat.add_assoc, Nat.add_comm]

end Row

namespace Outline

mutual

def rows (depth : Nat) (last : Bool) : Outline → List Row
  | .node label children => ⟨depth, last, label⟩ :: rowsBelow (depth + 1) children

def rowsBelow (depth : Nat) : List Outline → List Row
  | [] => []
  | o :: rest => rows depth rest.isEmpty o ++ rowsBelow depth rest

end

mutual

theorem map_lineAt (o : Outline) {n : Nat} {indent : String} (indents : Row.Indents n indent)
    (last : Bool) : (lineAt indent last o).map Row.ofLine = rows (n + 1) last o := by
  match o with
  | .node label children =>
    have here : Row.ofLine (indent ++ (if last then "└─ " else "├─ ") ++ label) =
        ⟨n + 1, last, label⟩ := by
      rw [String.append_assoc, indents, Row.ofLine_mark]
      simp [Row.lower, Nat.add_comm]
    have below := indents.piece (!last)
    rw [lineAt, rows, List.map_cons, here]
    cases last
    · exact congrArg _ (map_linesBelow children below)
    · exact congrArg _ (map_linesBelow children below)

theorem map_linesBelow (os : List Outline) {n : Nat} {indent : String}
    (indents : Row.Indents n indent) :
    (linesBelow indent os).map Row.ofLine = rowsBelow (n + 1) os := by
  match os with
  | [] => rw [linesBelow, rowsBelow, List.map_nil]
  | o :: rest =>
    rw [linesBelow, rowsBelow, List.map_append, map_lineAt o indents, map_linesBelow rest indents]

end

/-- Nothing at the front of these rows belongs to a list of siblings at this depth. -/
def Above (depth : Nat) (rs : List Row) : Prop := ∀ r ∈ rs.head?, r.depth < depth

theorem above_rowsBelow {depth : Nat} (os : List Outline) {rs : List Row} (above : Above depth rs) :
    Above (depth + 1) (rowsBelow depth os ++ rs) := by
  cases os with
  | nil =>
    intro r first
    exact Nat.lt_succ_of_lt (above r first)
  | cons o rest =>
    obtain ⟨label, children⟩ := o
    intro r first
    obtain rfl : _ = r := Option.some.inj first
    exact Nat.lt_succ_self depth

theorem not_above_rowsBelow (o : Outline) (os : List Outline) {depth : Nat} {rs : List Row} :
    ¬ Above depth (rowsBelow depth (o :: os) ++ rs) := by
  obtain ⟨label, children⟩ := o
  intro above
  exact Nat.lt_irrefl depth (above ⟨depth, os.isEmpty, label⟩ rfl)

mutual

theorem rows_cancel {o p : Outline} {depth : Nat} {k l : Bool} {rs ss : List Row}
    (left : Above (depth + 1) rs) (right : Above (depth + 1) ss)
    (same : rows depth k o ++ rs = rows depth l p ++ ss) : o = p ∧ rs = ss := by
  match o, p with
  | .node a os, .node b ps =>
    rw [rows, rows, List.cons_append, List.cons_append, List.cons.injEq, Row.mk.injEq] at same
    obtain ⟨⟨_, _, rfl⟩, below⟩ := same
    obtain ⟨rfl, rest⟩ := rowsBelow_cancel left right below
    exact ⟨rfl, rest⟩

theorem rowsBelow_cancel {os ps : List Outline} {depth : Nat} {rs ss : List Row}
    (left : Above depth rs) (right : Above depth ss)
    (same : rowsBelow depth os ++ rs = rowsBelow depth ps ++ ss) : os = ps ∧ rs = ss := by
  match os, ps with
  | [], [] => exact ⟨rfl, by simpa [rowsBelow] using same⟩
  | [], p :: ps =>
    rw [rowsBelow, List.nil_append] at same
    exact absurd (same ▸ left) (not_above_rowsBelow p ps)
  | o :: os, [] =>
    rw [rowsBelow, List.nil_append] at same
    exact absurd (same ▸ right) (not_above_rowsBelow o os)
  | o :: os, p :: ps =>
    rw [rowsBelow, rowsBelow, List.append_assoc, List.append_assoc] at same
    obtain ⟨rfl, others⟩ := rows_cancel (above_rowsBelow os left) (above_rowsBelow ps right) same
    obtain ⟨rfl, rest⟩ := rowsBelow_cancel left right others
    exact ⟨rfl, rest⟩

end

theorem rows_injective {o p : Outline} {depth : Nat} {last : Bool}
    (same : rows depth last o = rows depth last p) : o = p := by
  have nothing : Above (depth + 1) [] := by
    intro r first
    cases first
  apply (rows_cancel nothing nothing _).1
  · exact last
  · exact last
  · rw [same]

/-- The row of the node that the place leads to, by the numbers of the children on the way. -/
def rowAt? : List Nat → Nat → Bool → Outline → Option Row
  | [], depth, last, .node label _ => some ⟨depth, last, label⟩
  | i :: place, depth, _, .node _ children =>
    children[i]?.bind (rowAt? place (depth + 1) (i + 1 == children.length))

mutual

def places : Outline → List (List Nat)
  | .node _ children => [] :: placesBelow 0 children

def placesBelow (i : Nat) : List Outline → List (List Nat)
  | [] => []
  | o :: rest => (places o).map (i :: ·) ++ placesBelow (i + 1) rest

end

mutual

theorem map_places (o : Outline) (depth : Nat) (last : Bool) :
    (places o).map (rowAt? · depth last o) = (rows depth last o).map some := by
  match o with
  | .node label children =>
    rw [places, rows, List.map_cons, List.map_cons, rowAt?]
    exact congrArg _ (map_placesBelow label [] children depth last)

theorem map_placesBelow (label : String) (done rest : List Outline) (depth : Nat) (last : Bool) :
    (placesBelow done.length rest).map (rowAt? · depth last (.node label (done ++ rest))) =
      (rowsBelow (depth + 1) rest).map some := by
  match rest with
  | [] => rw [placesBelow, rowsBelow, List.map_nil, List.map_nil]
  | o :: rest =>
    have others := map_placesBelow label (done ++ [o]) rest depth last
    rw [List.append_assoc, List.length_append] at others
    have ends : (done.length + 1 == (done ++ o :: rest).length) = rest.isEmpty := by
      cases rest <;> simp
    have here : ∀ place, rowAt? (done.length :: place) depth last (.node label (done ++ o :: rest)) =
        rowAt? place (depth + 1) rest.isEmpty o := by
      intro place
      rw [rowAt?, ends]
      simp
    rw [placesBelow, rowsBelow, List.map_append, List.map_append, List.map_map,
      ← map_places o (depth + 1) rest.isEmpty]
    exact congrArg₂ (· ++ ·) (List.map_congr_left fun place _ => here place) others

end

theorem mem_placesBelow {k i : Nat} {place : List Nat} {os : List Outline} :
    i :: place ∈ placesBelow k os ↔ ∃ j o, i = k + j ∧ os[j]? = some o ∧ place ∈ places o := by
  induction os generalizing k with
  | nil => simp [placesBelow]
  | cons o rest ih =>
    rw [placesBelow, List.mem_append, ih]
    constructor
    · rintro (here | ⟨j, p, rfl, child, there⟩)
      · obtain ⟨q, member, same⟩ := List.mem_map.mp here
        obtain ⟨rfl, rfl⟩ := List.cons.inj same
        exact ⟨0, o, rfl, rfl, member⟩
      · exact ⟨j + 1, p, by omega, child, there⟩
    · rintro ⟨_ | j, p, rfl, child, there⟩
      · obtain rfl := Option.some.inj child
        exact .inl (List.mem_map_of_mem there)
      · exact .inr ⟨j, p, by omega, child, there⟩

/-- The places are those that lead to a node. -/
theorem mem_places_iff {place : List Nat} {o : Outline} {depth : Nat} {last : Bool} :
    place ∈ places o ↔ (rowAt? place depth last o).isSome = true := by
  induction place generalizing o depth last with
  | nil =>
    obtain ⟨label, children⟩ := o
    simp [places, rowAt?]
  | cons i place ih =>
    obtain ⟨label, children⟩ := o
    rw [places, List.mem_cons, or_iff_right (List.cons_ne_nil i place), mem_placesBelow, rowAt?,
      Option.isSome_bind]
    constructor
    · rintro ⟨j, o, rfl, child, there⟩
      rw [Nat.zero_add, child]
      exact ih.mp there
    · intro found
      cases child : children[i]? with
      | none => simp [child] at found
      | some o =>
        rw [child] at found
        exact ⟨i, o, (Nat.zero_add i).symm, child, ih.mpr found⟩

theorem exists_of_mem_placesBelow {k : Nat} {os : List Outline} :
    ∀ place ∈ placesBelow k os, ∃ i rest, place = i :: rest ∧ k ≤ i := by
  induction os generalizing k with
  | nil =>
    intro place member
    cases member
  | cons o os ih =>
    intro place member
    rcases List.mem_append.mp member with here | later
    · obtain ⟨rest, _, rfl⟩ := List.mem_map.mp here
      exact ⟨k, rest, rfl, Nat.le_refl k⟩
    · obtain ⟨i, rest, rfl, behind⟩ := ih place later
      exact ⟨i, rest, rfl, by omega⟩

mutual

/-- In the order of their places a node comes before all that is below it, and a sibling with all that is
below it before the next one. -/
theorem sorted_places (o : Outline) : (places o).Pairwise (· < ·) := by
  match o with
  | .node label children =>
    rw [places, List.pairwise_cons]
    refine ⟨?_, sorted_placesBelow 0 children⟩
    intro place member
    obtain ⟨i, rest, rfl, _⟩ := exists_of_mem_placesBelow place member
    exact List.nil_lt_cons i rest

theorem sorted_placesBelow (k : Nat) (os : List Outline) : (placesBelow k os).Pairwise (· < ·) := by
  match os with
  | [] => exact List.Pairwise.nil
  | o :: rest =>
    rw [placesBelow, List.pairwise_append, List.pairwise_map]
    refine ⟨?_, sorted_placesBelow (k + 1) rest, ?_⟩
    · apply (sorted_places o).imp
      intro p q less
      exact List.cons_lt_cons_iff.mpr (.inr ⟨rfl, less⟩)
    · intro p here q later
      obtain ⟨p, _, rfl⟩ := List.mem_map.mp here
      obtain ⟨i, q, rfl, behind⟩ := exists_of_mem_placesBelow q later
      exact List.cons_lt_cons_iff.mpr (.inl behind)

end

/-- The rows in the places of a tree say which tree it is. -/
theorem eq_of_rowAt? {o p : Outline} {depth : Nat} {last : Bool}
    (same : ∀ place, rowAt? place depth last o = rowAt? place depth last p) : o = p := by
  have members : ∀ place, place ∈ places o ↔ place ∈ places p := by
    intro place
    have found : place ∈ places o ↔ (rowAt? place depth last o).isSome = true := mem_places_iff
    rw [found, same]
    exact mem_places_iff.symm
  have places_eq : places o = places p := (sorted_places o).eq_of_mem_iff (sorted_places p) members
  have shown : (rows depth last o).map some = (rows depth last p).map some := by
    rw [← map_places, ← map_places, places_eq]
    exact List.map_congr_left fun place _ => same place
  exact rows_injective (List.map_injective_iff.mpr (Option.some_injective Row) shown)

theorem length_placesBelow (k : Nat) (os : List Outline) :
    (placesBelow k os).length = (os.map fun o => (places o).length).sum := by
  induction os generalizing k with
  | nil => rfl
  | cons o rest ih =>
    rw [placesBelow, List.length_append, List.length_map, ih, List.map_cons, List.sum_cons]

end Outline

namespace Config.Node

/-- The children of a node, each with the predicates it is reached under. -/
def branches : Node → List (List PredicateSpec × Node)
  | .sink _ => []
  | .group _ members => members.map fun n => ([], n)
  | .router routes _ => routes

def rowAt? : List Nat → Nat → Bool → List PredicateSpec → Node → Option Row
  | [], depth, last, when, n => some ⟨depth, last, n.label when⟩
  | i :: place, depth, _, _, n =>
    n.branches[i]?.bind fun b => rowAt? place (depth + 1) (i + 1 == n.branches.length) b.1 b.2

theorem outlineEach_eq_map (ns : List Node) : outlineEach ns = ns.map (outlineWhen []) := by
  induction ns with
  | nil => simp [outlineEach]
  | cons n rest ih => simp [outlineEach, ih]

theorem outlineRoutes_eq_map (rs : List (List PredicateSpec × Node)) :
    outlineRoutes rs = rs.map fun r => outlineWhen r.1 r.2 := by
  induction rs with
  | nil => simp [outlineRoutes]
  | cons r rest ih => simp [outlineRoutes, ih]

theorem outlineWhen_eq (when : List PredicateSpec) (n : Node) :
    outlineWhen when n =
      .node (n.label when) (n.branches.map fun b => outlineWhen b.1 b.2) := by
  cases n with
  | sink name => rw [outlineWhen, branches, List.map_nil]
  | group strategy members =>
    rw [outlineWhen, branches, outlineEach_eq_map, List.map_map]
    rfl
  | router routes first => rw [outlineWhen, branches, outlineRoutes_eq_map]

theorem rowAt?_eq (place : List Nat) (depth : Nat) (last : Bool) (when : List PredicateSpec)
    (n : Node) : n.rowAt? place depth last when = (outlineWhen when n).rowAt? place depth last := by
  induction place generalizing depth last when n with
  | nil =>
    rw [outlineWhen_eq]
    rfl
  | cons i place ih =>
    rw [outlineWhen_eq, rowAt?, Outline.rowAt?, List.length_map, List.getElem?_map]
    cases n.branches[i]? with
    | none => rfl
    | some b => exact ih (depth + 1) _ b.1 b.2

theorem countEach_eq (ns : List Node) : countEach ns = (ns.map count).sum := by
  induction ns with
  | nil => simp [countEach]
  | cons n rest ih => simp [countEach, ih]

theorem countTargets_eq (rs : List (List PredicateSpec × Node)) :
    countTargets rs = (rs.map fun r => r.2.count).sum := by
  induction rs with
  | nil => simp [countTargets]
  | cons r rest ih => simp [countTargets, ih]

theorem count_eq (n : Node) : n.count = (n.branches.map fun b => b.2.count).sum + 1 := by
  cases n with
  | sink name => simp [count, branches]
  | group strategy members =>
    rw [count, branches, countEach_eq, List.map_map]
    rfl
  | router routes first => rw [count, branches, countTargets_eq]

theorem of_branches {motive : Node → Prop}
    (step : ∀ n, (∀ b ∈ n.branches, motive b.2) → motive n) (n : Node) : motive n := by
  induction n using Node.induction with
  | sink name => exact step _ (List.forall_mem_nil _)
  | group strategy members ih => exact step _ (List.forall_mem_map.mpr ih)
  | router routes first ih => exact step _ ih

theorem length_places (n : Node) (when : List PredicateSpec) :
    (outlineWhen when n).places.length = n.count := by
  induction n using of_branches generalizing when with
  | step n ih =>
    rw [outlineWhen_eq, Outline.places, List.length_cons, Outline.length_placesBelow, List.map_map,
      count_eq]
    congr 2
    exact List.map_congr_left fun b member => ih b member b.1

/-- The root is labelled by its strategy, so its line does not start with a piece of a drawing. -/
theorem ofLine_label (n : Node) : Row.ofLine (n.label []) = ⟨0, true, n.label []⟩ := by
  cases n with
  | sink name =>
    apply Row.ofLine_plain
    show ("sink " ++ name).toList.head?.any Char.isLower = true
    rw [String.toList_append]
    rfl
  | group strategy members =>
    apply Row.ofLine_plain
    show strategy.name.toList.head?.any Char.isLower = true
    cases strategy <;> decide
  | router routes first =>
    apply Row.ofLine_plain
    show (if first then "router (first match)" else "router").toList.head?.any Char.isLower = true
    cases first <;> decide

theorem map_lines (n : Node) : n.outline.lines.map Row.ofLine = n.outline.rows 0 true := by
  rw [outline, outlineWhen_eq, Outline.lines, Outline.rows, List.map_cons, ofLine_label]
  exact congrArg _ (Outline.map_linesBelow _ Row.indents_empty)

/-- A drawing has a line for each node, in the order of their places, which is depth first with a node
before its children; a line tells by its start how deep its node stands and whether it is the last among
its siblings. Two trees have the same lines only if they have nodes in the same places with the same
labels. -/
theorem lines_determine_tree (n m : Node) :
    n.outline.lines.length = n.count ∧
    (∃ places : List (List Nat), places.Pairwise (· < ·) ∧
      (∀ place, place ∈ places ↔ (n.rowAt? place 0 true []).isSome = true) ∧
      n.outline.lines.map (fun line => some (Row.ofLine line)) =
        places.map (n.rowAt? · 0 true [])) ∧
    (n.outline.lines = m.outline.lines ↔
      ∀ place, n.rowAt? place 0 true [] = m.rowAt? place 0 true []) := by
  have told : ∀ n : Node, n.outline.lines.map (fun line => some (Row.ofLine line)) =
      n.outline.places.map (n.rowAt? · 0 true []) := by
    intro n
    have rows : n.outline.lines.map (fun line => some (Row.ofLine line)) =
        (n.outline.lines.map Row.ofLine).map some := List.map_map.symm
    rw [rows, map_lines, ← Outline.map_places]
    exact List.map_congr_left fun place _ => (rowAt?_eq place 0 true [] n).symm
  refine ⟨?_, ⟨n.outline.places, Outline.sorted_places _, ?_, told n⟩, ?_⟩
  · have length := congrArg List.length (told n)
    rw [List.length_map, List.length_map] at length
    exact length.trans (length_places n [])
  · intro place
    rw [rowAt?_eq]
    exact Outline.mem_places_iff
  · constructor
    · intro same place
      have rows : n.outline.rows 0 true = m.outline.rows 0 true := by
        rw [← map_lines, same, map_lines]
      rw [rowAt?_eq, rowAt?_eq]
      exact congrArg (Outline.rowAt? place 0 true) (Outline.rows_injective rows)
    · intro same
      have trees : n.outline = m.outline := by
        apply Outline.eq_of_rowAt?
        intro place
        exact (rowAt?_eq place 0 true [] n).symm.trans
          ((same place).trans (rowAt?_eq place 0 true [] m))
      rw [trees]

end Config.Node
end LogTree
