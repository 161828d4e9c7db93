import SeedNavigator.Proofs.Script.Tree

/-! The walk of a cursor through a subtree. What a cursor has still to go through are the places under its
focus and those behind its levels; a step takes the first of them away and leaves the others in their order.
So the walk makes its calls at the places of the subtree, one after the other, and ends behind the last. -/
namespace SeedNavigator.Script

/-- Places with their ways from further out. -/
def under (start : Way) (places : List (Way × Node)) : List (Way × Node) :=
  places.map fun place => (start ++ place.1, place.2)

/-- The places at and below the end of a way through a tree, a parent before its children and a child before
its later siblings: in the order of the ways, none of them twice. -/
structure PreOrder (tree : Node) (start : Way) (trail : List (Way × Node)) : Prop where
  ordered : trail.Pairwise fun earlier later => earlier.1 < later.1
  mem_iff : ∀ way found, (way, found) ∈ trail ↔ start <+: way ∧ tree.at? way = some found

section

variable {tree node found : Node} {start way : Way} {places others : List (Way × Node)}

@[simp] theorem under_nil : under start [] = [] := rfl

@[simp] theorem under_nil_way (places : List (Way × Node)) : under [] places = places := by
  simp [under]

@[simp] theorem under_cons (place : Way × Node) :
    under start (place :: places) = (start ++ place.1, place.2) :: under start places := rfl

theorem under_append : under start (places ++ others) = under start places ++ under start others :=
  List.map_append

theorem under_under (start way : Way) (places : List (Way × Node)) :
    under start (under way places) = under (start ++ way) places := by
  simp [under]

theorem mem_under_iff : (way, found) ∈ under start places ↔
    ∃ below, way = start ++ below ∧ (below, found) ∈ places := by
  simp only [under, List.mem_map, Prod.mk.injEq, Prod.exists]
  constructor
  · rintro ⟨below, _, inside, rfl, rfl⟩
    exact ⟨below, rfl, inside⟩
  · rintro ⟨below, rfl, inside⟩
    exact ⟨below, found, inside, rfl, rfl⟩

namespace Node

theorem at?_append (tree : Node) (start below : Way) :
    tree.at? (start ++ below) = (tree.at? start).bind (at? · below) := by
  induction start generalizing tree with
  | nil => rw [List.nil_append, at?, Option.bind_some]
  | cons position start ih => rw [List.cons_append, at?, at?, Option.bind_assoc, funext ih]

/-- The places of a subtree are those of the whole tree that are reached through it. -/
theorem preOrder_under (there : tree.at? start = some node) :
    PreOrder tree start (under start node.places) := by
  constructor
  · exact List.pairwise_map.mpr (node.places_ordered.imp List.append_left_lt)
  · intro way found
    rw [mem_under_iff]
    constructor
    · rintro ⟨below, rfl, inside⟩
      rw [at?_append, there]
      exact ⟨List.prefix_append .., mem_places_iff.mp inside⟩
    · rintro ⟨⟨below, rfl⟩, reached⟩
      rw [at?_append, there] at reached
      exact ⟨below, rfl, mem_places_iff.mpr reached⟩

end Node

end

namespace Cursor

variable {cursor : Cursor} {σ : Type}

def wayTo (levels : List Level) : Way :=
  (levels.map (·.position)).reverse

/-- The way from the starting node. -/
def way (cursor : Cursor) : Way :=
  wayTo cursor.above

/-- The siblings that are still to come at all levels, with all that is below them. -/
def placesBehind : List Level → List (Way × Node)
  | [] => []
  | level :: outer =>
    under (wayTo outer) (Node.placesFrom (level.position + 1) level.later) ++ placesBehind outer

/-- What the walk has to go through from a cursor on. -/
def ahead (cursor : Cursor) : List (Way × Node) :=
  under cursor.way cursor.focus.places ++ placesBehind cursor.above

/-- Where the walk stands after a number of calls, unless it has ended. -/
def after (cursor : Cursor) : (calls : Nat) → Option Cursor
  | 0 => some cursor
  | calls + 1 => cursor.next?.bind (·.after calls)

theorem wayTo_cons (level : Level) (outer : List Level) :
    wayTo (level :: outer) = wayTo outer ++ [level.position] := by
  simp [wayTo]

/-- A child is ahead together with the siblings behind it. -/
theorem ahead_child (parent child : Node) (position : Nat) (role : Option Role)
    (later : List (Option Role × Node)) (outer : List Level) :
    ahead ⟨child, ⟨parent, position, later⟩ :: outer⟩ =
      under (wayTo outer) (Node.placesFrom position ((role, child) :: later)) ++ placesBehind outer := by
  have first : under (wayTo (⟨parent, position, later⟩ :: outer)) child.places =
      under (wayTo outer) (under [position] child.places) := by
    rw [wayTo_cons, under_under]
  rw [ahead, way, placesBehind, Node.placesFrom, under_append, first, List.append_assoc]
  rfl

theorem ahead_nextSibling {sibling : Cursor} (h : cursor.nextSibling? = some sibling) :
    sibling.ahead = placesBehind cursor.above := by
  unfold nextSibling? at h
  split at h
  · rename_i above
    obtain rfl := Option.some.inj h
    rw [above, ahead_child, placesBehind]
  · contradiction

/-- A level without further siblings has nothing behind it. -/
theorem placesBehind_parent {parent : Cursor} (last : cursor.nextSibling? = none)
    (h : cursor.parent? = some parent) : placesBehind cursor.above = placesBehind parent.above := by
  obtain ⟨level, above⟩ := above_parent h
  have none : level.later = [] := by
    rcases level with ⟨_, _, _ | _⟩
    · rfl
    · simp [nextSibling?, above] at last
  rw [above, placesBehind, none, Node.placesFrom, under_nil, List.nil_append]

theorem placesBehind_top (h : cursor.parent? = none) : placesBehind cursor.above = [] := by
  unfold parent? at h
  split at h
  · rename_i above
    rw [above, placesBehind]
  · contradiction

/-- Levels without further siblings are left for good. -/
theorem ahead_onward (cursor : Cursor) :
    cursor.onward?.elim [] ahead = placesBehind cursor.above := by
  fun_induction onward? cursor with
  | case1 cursor sibling found => exact ahead_nextSibling found
  | case2 cursor last parent found ih => rw [ih, placesBehind_parent last found]
  | case3 cursor last top => exact (placesBehind_top top).symm

/-- One step leaves the focus behind and nothing else. -/
theorem ahead_eq (cursor : Cursor) :
    cursor.ahead = (cursor.way, cursor.focus) :: cursor.next?.elim [] ahead := by
  rw [ahead, Node.places_eq, under_cons, List.append_nil, List.cons_append, next?, firstChild?]
  cases list : cursor.focus.roles with
  | nil => exact congrArg _ (ahead_onward cursor).symm
  | cons child later => exact congrArg _ (ahead_child ..).symm

/-- The walk makes its calls at the places that are ahead, in their order. -/
theorem walk_eq_foldl (call : σ → Node → σ) (cursor : Cursor) (state : σ) :
    cursor.walk call state = cursor.ahead.foldl (fun state place => call state place.2) state := by
  fun_induction walk call cursor state with
  | case1 cursor state next found ih => rw [ih, ahead_eq cursor, found]; rfl
  | case2 cursor state last => rw [ahead_eq, last]; rfl

/-- Each call takes one place away, until none is left and the walk has ended. -/
theorem after_eq (cursor : Cursor) (calls : Nat) :
    (cursor.after calls).map (fun later => (later.way, later.focus)) = cursor.ahead[calls]? := by
  induction calls generalizing cursor with
  | zero => rw [after, ahead_eq]; rfl
  | succ calls ih =>
    rw [after, ahead_eq, List.getElem?_cons_succ]
    cases cursor.next? with
    | none => rfl
    | some next => exact ih next

@[simp] theorem ahead_start (node : Node) : (start node).ahead = node.places := by
  simp [start, ahead, way, wayTo, placesBehind]

end Cursor

/-- The walk meets the nodes in the order of their ways. -/
theorem Node.visit_eq_places (node : Node) : node.visit = node.places.map (·.2) := by
  rw [visit, Cursor.walk_eq_foldl, Cursor.ahead_start]
  simp

theorem Node.mem_visit_iff {node found : Node} : found ∈ node.visit ↔ ∃ way, node.at? way = some found := by
  simp [visit_eq_places, ← mem_places_iff]

/-- A walk that starts anywhere in a tree goes through the subtree there in pre-order. It stands at each of
its nodes for exactly one call, at no other node of the tree, and ends behind the last one. -/
theorem walk_through_subtree {tree node : Node} {start : Way} (there : tree.at? start = some node) :
    PreOrder tree start (under start node.places) ∧
    (∀ calls, ((Cursor.start node).after calls).map (fun cursor => (start ++ cursor.way, cursor.focus)) =
      (under start node.places)[calls]?) ∧
    ∀ {σ : Type} (call : σ → Node → σ) (state : σ),
      (Cursor.start node).walk call state =
        (under start node.places).foldl (fun state place => call state place.2) state := by
  refine ⟨Node.preOrder_under there, fun calls => ?_, fun call state => ?_⟩
  · rw [under, List.getElem?_map, ← Cursor.ahead_start, ← Cursor.after_eq, Option.map_map]
    rfl
  · rw [Cursor.walk_eq_foldl, Cursor.ahead_start, under, List.foldl_map]

/-- In `f(a, [b])` the walk through the list ends with it, although the call goes on behind it. -/
theorem list_walked_alone :
    let list : Node := .branch .plain
      [(none, .leaf .mark " " "["), (none, .leaf .word "" "b"), (none, .leaf .mark "" "]")]
    let call : Node := .branch .plain
      [(none, .leaf .word "" "f"), (some .parameters, .branch .plain
        [(none, .leaf .mark "" "("), (none, .leaf .word "" "a"), (none, .leaf .mark "" ","),
          (none, list), (none, .leaf .mark "" ")")])]
    call.at? [1, 3] = some list ∧
    (Cursor.start list).after 4 = none ∧
    (Cursor.start list).walk (fun texts node => texts ++ [node.text]) [] = ["[b]", "[", "b", "]"] := by
  intro list call
  have there : call.at? [1, 3] = some list := rfl
  obtain ⟨-, ended, collected⟩ := walk_through_subtree there
  refine ⟨there, Option.map_eq_none_iff.mp (ended 4), ?_⟩
  rw [collected]
  decide +kernel

end SeedNavigator.Script
