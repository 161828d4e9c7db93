import SeedNavigator.Proofs.Text.Boundary
import SeedNavigator.Script.Tree

/-! The nodes of a tree by the ways that lead to them. A way says at each level which child is taken. In the
order of the ways, number by number, a node comes before all that is below it, and all that is below it
before its later siblings. -/
namespace SeedNavigator.Script

/-- The positions of the children that are taken on the way from a node to one of its descendants. -/
abbrev Way := List Nat

namespace Node

/-- The node that a way leads to. -/
def at? : Node → Way → Option Node
  | node, [] => some node
  | node, position :: way => (node.children[position]?).bind (at? · way)

mutual

/-- The nodes of a tree with the ways to them, a parent before its children. -/
def places : Node → List (Way × Node)
  | .leaf kind gap text => [([], .leaf kind gap text)]
  | .branch kind children => ([], .branch kind children) :: placesFrom 0 children

/-- Those of a row of siblings, the first of which has the given position. -/
def placesFrom : (position : Nat) → List (Option Role × Node) → List (Way × Node)
  | _, [] => []
  | position, (_, node) :: rest =>
    node.places.map (fun place => (position :: place.1, place.2)) ++ placesFrom (position + 1) rest

end

variable {node found : Node} {way : Way} {position : Nat} {siblings : List (Option Role × Node)}

theorem places_eq (node : Node) : node.places = ([], node) :: placesFrom 0 node.roles := by
  cases node <;> simp [places, placesFrom, roles]

/-- A way to a place begins with the position of the sibling it goes through. -/
theorem mem_placesFrom_iff : (way, found) ∈ placesFrom position siblings ↔
    ∃ index below, way = (position + index) :: below ∧
      ∃ sibling, (siblings.map (·.2))[index]? = some sibling ∧ (below, found) ∈ sibling.places := by
  induction siblings generalizing position with
  | nil => simp [placesFrom]
  | cons sibling rest ih =>
    rw [placesFrom, List.mem_append, ih]
    constructor
    · rintro (first | ⟨index, below, rfl, other, there, inside⟩)
      · obtain ⟨⟨below, _⟩, inside, same⟩ := List.mem_map.mp first
        obtain ⟨rfl, rfl⟩ := Prod.mk.inj same
        exact ⟨0, below, rfl, sibling.2, rfl, inside⟩
      · exact ⟨index + 1, below, by rw [Nat.add_right_comm, Nat.add_assoc], other, by simpa using there, inside⟩
    · rintro ⟨index, below, rfl, other, there, inside⟩
      cases index with
      | zero =>
        obtain rfl : sibling.2 = other := by simpa using there
        exact .inl (List.mem_map.mpr ⟨_, inside, rfl⟩)
      | succ index =>
        exact .inr ⟨index, below, by rw [Nat.add_right_comm, Nat.add_assoc], other,
          by simpa using there, inside⟩

/-- Each place is listed under the way that leads there. -/
theorem mem_places_iff : (way, found) ∈ node.places ↔ node.at? way = some found := by
  induction way generalizing node with
  | nil =>
    rw [places_eq, at?, List.mem_cons, mem_placesFrom_iff]
    simp [eq_comm]
  | cons position way ih =>
    rw [places_eq, at?, List.mem_cons, mem_placesFrom_iff, Option.bind_eq_some_iff]
    constructor
    · rintro (own | ⟨index, below, same, child, there, inside⟩)
      · simp at own
      · obtain ⟨rfl, rfl⟩ : position = index ∧ way = below := by simpa using same
        exact ⟨child, there, ih.mp inside⟩
    · rintro ⟨child, there, inside⟩
      exact .inr ⟨position, way, by rw [Nat.zero_add], child, there, ih.mpr inside⟩

mutual

/-- The ways ascend from the first place to the last. -/
theorem places_ordered : ∀ node : Node, node.places.Pairwise fun earlier later => earlier.1 < later.1
  | .leaf .. => by simp [places]
  | .branch kind children => by
    rw [places, List.pairwise_cons]
    refine ⟨?_, placesFrom_ordered 0 children⟩
    rintro ⟨way, found⟩ inside
    obtain ⟨index, below, rfl, -⟩ := mem_placesFrom_iff.mp inside
    exact List.nil_lt_cons ..

theorem placesFrom_ordered : ∀ (position : Nat) (siblings : List (Option Role × Node)),
    (placesFrom position siblings).Pairwise fun earlier later => earlier.1 < later.1
  | _, [] => by simp [placesFrom]
  | position, (_, node) :: rest => by
    rw [placesFrom, List.pairwise_append, List.pairwise_map]
    refine ⟨?_, placesFrom_ordered (position + 1) rest, ?_⟩
    · exact (places_ordered node).imp fun before => List.cons_lt_cons_iff.mpr (.inr ⟨rfl, before⟩)
    · -- the ways through a later sibling begin with a higher position
      intro earlier first ⟨way, found⟩ later
      obtain ⟨place, -, rfl⟩ := List.mem_map.mp first
      obtain ⟨index, below, rfl, -⟩ := mem_placesFrom_iff.mp later
      exact List.cons_lt_cons_iff.mpr (.inl (by omega))

end

end Node

/-! ### Literals -/

namespace Node

/-- A string with this text between its quotes. -/
structure Quotes (node : Node) (text : String) : Prop where
  kind : node.kind = .string
  written : ∃ opening closing : Char, opening.utf8Size = 1 ∧ closing.utf8Size = 1 ∧
    node.text = String.singleton opening ++ text ++ String.singleton closing

/-- A string whose first or last byte is only a part of a character. A quote is a whole character, so one is
missing. -/
structure Breaks (node : Node) : Prop where
  kind : node.kind = .string
  long : 2 ≤ node.text.utf8ByteSize
  parted : ¬(Text.IsBetween node.text 1 ∧ Text.IsBetween node.text (node.text.utf8ByteSize - 1))

variable {node : Node} {text : String} {crash : Crash}

theorem Quotes.long (quotes : node.Quotes text) : 2 ≤ node.text.utf8ByteSize := by
  obtain ⟨opening, closing, small, alsoSmall, written⟩ := quotes.written
  have size := congrArg String.utf8ByteSize written
  simp only [String.utf8ByteSize_append, String.utf8ByteSize_singleton] at size
  omega

theorem literal?_eq_some_iff : node.literal? = .ok (some text) ↔ node.Quotes text := by
  rw [literal?]
  constructor
  · intro read
    split at read
    · rename_i shape
      split at read
      · rename_i inner cut
        obtain rfl : inner = text := Option.some.inj (Except.ok.inj read)
        exact ⟨shape.1, Text.inner?_eq_some_iff.mp cut⟩
      · contradiction
    · simp at read
  · intro quotes
    rw [if_pos ⟨quotes.kind, quotes.long⟩, Text.inner?_eq_some_iff.mpr quotes.written]

theorem literal?_eq_error_iff : node.literal? = .error crash ↔ node.Breaks := by
  rw [literal?]
  constructor
  · intro broken
    split at broken
    · rename_i shape
      split at broken
      · contradiction
      · rename_i cut
        refine ⟨shape.1, shape.2, fun whole => ?_⟩
        have some := (Text.isSome_inner?_iff shape.2).mpr whole
        simp [cut] at some
    · contradiction
  · rintro ⟨kind, long, parted⟩
    have cut : Text.inner? node.text = none := by
      rw [← Option.not_isSome_iff_eq_none, Text.isSome_inner?_iff long]
      exact parted
    rw [if_pos ⟨kind, long⟩, cut]

end Node

end SeedNavigator.Script
