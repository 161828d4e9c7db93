import SeedNavigator.Stop
import SeedNavigator.Text.Boundary

/-! Syntax trees of TypeScript sources. A leaf is a token with the gap before it, a branch has its
children in the order of the source, some of them in a named role. Constructs that no reader asks
for are plain branches. -/
namespace SeedNavigator.Script

inductive Kind where
  | keyword
  | word
  | privateWord
  | string
  | number
  | regex
  | mark
  /-- `public`, `protected` or `private`. -/
  | accessibility
  | program
  | classDeclaration
  | abstractClassDeclaration
  /-- A class inside an expression. -/
  | classExpression
  | interfaceDeclaration
  | classBody
  | interfaceBody
  | methodDefinition
  | methodSignature
  | abstractMethodSignature
  | fieldDefinition
  | propertySignature
  | parameters
  | requiredParameter
  | optionalParameter
  | typeClause
  | object
  | pair
  | assignment
  | memberAccess
  | template
  | plain
  deriving DecidableEq, Repr

/-- The role of a child. -/
inductive Role where
  | name
  | body
  | left
  | right
  | object
  | property
  | key
  | value
  | declaredType
  | returnType
  | parameters
  | pattern
  deriving DecidableEq, Repr

inductive Node where
  | leaf (kind : Kind) (gap text : String)
  | branch (kind : Kind) (children : List (Option Role × Node))

namespace Node

def kind : Node → Kind
  | .leaf kind _ _ => kind
  | .branch kind _ => kind

def roles : Node → List (Option Role × Node)
  | .leaf .. => []
  | .branch _ children => children

def children (node : Node) : List Node :=
  node.roles.map (·.2)

/-- The first child in a role. -/
def child? (node : Node) (role : Role) : Option Node :=
  (node.roles.find? (·.1 = some role)).map (·.2)

mutual

def size : Node → Nat
  | .leaf .. => 1
  | .branch _ children => 1 + sizeAll children

def sizeAll : List (Option Role × Node) → Nat
  | [] => 0
  | (_, node) :: rest => node.size + sizeAll rest

end

def sizes : List Node → Nat
  | [] => 0
  | node :: rest => node.size + sizes rest

theorem size_eq (node : Node) : node.size = 1 + sizeAll node.roles := by
  cases node <;> rfl

theorem sizes_append (a b : List Node) : sizes (a ++ b) = sizes a + sizes b := by
  induction a with
  | nil => simp [sizes]
  | cons node rest ih => rw [List.cons_append, sizes, sizes, ih, Nat.add_assoc]

theorem sizes_children (node : Node) : sizes node.children + 1 = node.size := by
  have all : ∀ list : List (Option Role × Node), sizes (list.map (·.2)) = sizeAll list := by
    intro list
    induction list with
    | nil => rfl
    | cons entry rest ih => rw [List.map_cons, sizes, ih, sizeAll]
  rw [children, all, size_eq, Nat.add_comm]

/-! ### Text -/

/-- The gap before the node and the text of its first leaf come first; `written` holds what has been
read before, and is empty until the first leaf. -/
def textFrom : (todo : List Node) → (started : Bool) → (written : String) → String
  | [], _, written => written
  | .leaf _ gap text :: rest, started, written =>
    textFrom rest true (if started then written ++ gap ++ text else text)
  | .branch kind list :: rest, started, written =>
    textFrom ((Node.branch kind list).children ++ rest) started written
termination_by todo => sizes todo
decreasing_by
  · simp [sizes, size]
  · have := sizes_children (.branch kind list)
    rw [sizes_append]
    simp only [sizes] at *
    omega

/-- The text as it is written in the source, without the gap before it. -/
def text (node : Node) : String :=
  textFrom [node] false ""

def hasKeyword (node : Node) (word : String) : Bool :=
  node.children.any fun child => child.kind = .keyword && child.text = word

/-- What stands between the quotes of a string, with its escapes as they are written. Its first and its last
byte are taken for the quotes, also where the closing one is missing. -/
def literal? (node : Node) : Except Crash (Option String) :=
  if node.kind = .string ∧ 2 ≤ node.text.utf8ByteSize then
    match Text.inner? node.text with
    | some text => .ok (some text)
    | none => .error .withinCharacter
  else .ok none

end Node

/-! ### Walking a tree -/

/-- A step down that a cursor has made: from which parent, to the child at which position, and which siblings
stand behind that child. -/
structure Level where
  parent : Node
  position : Nat
  later : List (Option Role × Node)

/-- A place in a tree under a starting node. The levels are listed from the inside out and end at the
starting node: what lies outside of it is out of reach. -/
structure Cursor where
  focus : Node
  above : List Level

namespace Cursor

def start (node : Node) : Cursor :=
  ⟨node, []⟩

def firstChild? (cursor : Cursor) : Option Cursor :=
  match cursor.focus.roles with
  | [] => none
  | (_, child) :: later => some ⟨child, ⟨cursor.focus, 0, later⟩ :: cursor.above⟩

/-- The starting node has no siblings, whatever stands beside it in the whole tree. -/
def nextSibling? (cursor : Cursor) : Option Cursor :=
  match cursor.above with
  | ⟨parent, position, (_, sibling) :: later⟩ :: outer =>
    some ⟨sibling, ⟨parent, position + 1, later⟩ :: outer⟩
  | _ => none

def parent? (cursor : Cursor) : Option Cursor :=
  match cursor.above with
  | [] => none
  | level :: outer => some ⟨level.parent, outer⟩

theorem above_parent {cursor parent : Cursor} (h : cursor.parent? = some parent) :
    ∃ level, cursor.above = level :: parent.above := by
  unfold parent? at h
  split at h
  · contradiction
  · rename_i level outer above
    obtain rfl := Option.some.inj h
    exact ⟨level, above⟩

/-- The next sibling, or that of the closest parent that has one. -/
def onward? (cursor : Cursor) : Option Cursor :=
  match cursor.nextSibling? with
  | some sibling => some sibling
  | none =>
    match _h : cursor.parent? with
    | some parent => parent.onward?
    | none => none
termination_by cursor.above.length
decreasing_by
  obtain ⟨level, above⟩ := above_parent _h
  simp [above]

def next? (cursor : Cursor) : Option Cursor :=
  match cursor.firstChild? with
  | some child => some child
  | none => cursor.onward?

/-- The number of nodes behind all levels. -/
def behind : List Level → Nat
  | [] => 0
  | level :: outer => Node.sizeAll level.later + behind outer

/-- The number of nodes from the focus on. -/
def remaining (cursor : Cursor) : Nat :=
  cursor.focus.size + behind cursor.above

theorem remaining_nextSibling {cursor sibling : Cursor} (h : cursor.nextSibling? = some sibling) :
    sibling.remaining = behind cursor.above := by
  unfold nextSibling? at h
  split at h
  · rename_i above
    obtain rfl := Option.some.inj h
    simp only [remaining, above, behind, Node.sizeAll]
    omega
  · contradiction

theorem remaining_onward {cursor next : Cursor} (h : cursor.onward? = some next) :
    next.remaining ≤ behind cursor.above := by
  fun_induction onward? cursor with
  | case1 cursor sibling found =>
    obtain rfl := Option.some.inj h
    exact Nat.le_of_eq (remaining_nextSibling found)
  | case2 cursor _ parent found ih =>
    obtain ⟨level, above⟩ := above_parent found
    rw [above, behind]
    exact Nat.le_add_left_of_le (ih h)
  | case3 => contradiction

theorem remaining_next {cursor next : Cursor} (h : cursor.next? = some next) :
    next.remaining < cursor.remaining := by
  have own := Node.size_eq cursor.focus
  unfold next? at h
  split at h
  · rename_i child found
    obtain rfl := Option.some.inj h
    unfold firstChild? at found
    split at found
    · contradiction
    · rename_i list
      obtain rfl := Option.some.inj found
      simp only [remaining, behind, own, list, Node.sizeAll]
      omega
  · calc next.remaining
      _ ≤ behind cursor.above := remaining_onward h
      _ < cursor.remaining := by rw [remaining, own]; omega

/-- Makes a call at the focus and at every node that follows it on the walk. -/
def walk {σ : Type} (call : σ → Node → σ) (cursor : Cursor) (state : σ) : σ :=
  match _h : cursor.next? with
  | some next => next.walk call (call state cursor.focus)
  | none => call state cursor.focus
termination_by cursor.remaining
decreasing_by exact remaining_next _h

end Cursor

namespace Node

/-- The node and all its descendants, a parent before its children. -/
def visit (node : Node) : List Node :=
  ((Cursor.start node).walk Array.push #[]).toList

end Node

end SeedNavigator.Script
