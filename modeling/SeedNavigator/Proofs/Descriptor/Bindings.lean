import SeedNavigator.Descriptor.Structural
import SeedNavigator.Proofs.Script.Walk

/-! Base paths read from a tree. A literal counts where it is bound: a static field at its class, before all
that is in the class, and an assignment at its own node. Of several literals of a field the last one in this
order is in force, whatever else is bound to the field behind it. All values that are given to the class are
read in this order, also those of other fields, and the program breaks down over one that it cannot take the
quotes off. -/
namespace SeedNavigator.Descriptor

/-! ### The last of a list -/

section Last

variable {α : Type} {picks : α → Bool} {list : List α} {a : α}

theorem find?_reverse_eq_some_iff : list.reverse.find? picks = some a ↔
    picks a = true ∧ ∃ before after, list = before ++ a :: after ∧ ∀ later ∈ after, picks later = false := by
  rw [List.find?_eq_some_iff_append, and_congr_right fun _ => ?_]
  constructor
  · rintro ⟨after, before, whole, none⟩
    refine ⟨before.reverse, after.reverse, by simpa using congrArg List.reverse whole, ?_⟩
    simpa using none
  · rintro ⟨before, after, rfl, none⟩
    exact ⟨after.reverse, before.reverse, by simp, by simpa using none⟩

/-- In a list that is in order, the last pick comes after all others. -/
theorem last_of_find?_reverse {r : α → α → Prop} (ordered : list.Pairwise r)
    (found : list.reverse.find? picks = some a) :
    a ∈ list ∧ picks a = true ∧ ∀ other ∈ list, picks other = true → other = a ∨ r other a := by
  obtain ⟨picked, before, after, rfl, none⟩ := find?_reverse_eq_some_iff.mp found
  refine ⟨by simp, picked, fun other member chosen => ?_⟩
  rcases List.mem_append.mp member with earlier | rest
  · exact .inr ((List.pairwise_append.mp ordered).2.2 other earlier a List.mem_cons_self)
  · rcases List.mem_cons.mp rest with same | later
    · exact .inl same
    · simp [none other later] at chosen

theorem find?_reverse_of_last {r : α → α → Prop} (ordered : list.Pairwise r) (member : a ∈ list)
    (picked : picks a = true) (last : ∀ other ∈ list, picks other = true → ¬r a other) :
    list.reverse.find? picks = some a := by
  obtain ⟨b, found⟩ := Option.isSome_iff_exists.mp
    (List.find?_isSome.mpr ⟨a, List.mem_reverse.mpr member, picked⟩)
  obtain ⟨memberB, pickedB, lastB⟩ := last_of_find?_reverse ordered found
  rcases lastB a member picked with rfl | before
  · exact found
  · exact absurd before (last b memberB pickedB)

end Last

namespace Structural

open Script

variable {tree node member : Node} {field value : String} {gift : Gift} {binding : Binding} {way : Way}
  {site : Site} {crash : Crash}

/-! ### Where a literal is bound -/

/-- A class declaration of the application, abstract or not. -/
structure DeclaresApp (node : Node) : Prop where
  kind : node.kind = .classDeclaration ∨ node.kind = .abstractClassDeclaration
  name : ∃ name, node.child? .name = some name ∧ name.text = appClass

/-- A static field with its value. -/
structure HoldsStatic (member : Node) (gift : Gift) : Prop where
  kind : member.kind = .fieldDefinition
  isStatic : ∃ word ∈ member.children, word.kind = .keyword ∧ word.text = "static"
  field : gift.field = (member.child? .name).map (·.text)
  value : member.child? .value = some gift.value

/-- An assignment to a field of the application class. -/
structure Assigns (node : Node) (gift : Gift) : Prop where
  kind : node.kind = .assignment
  left : ∃ left, node.child? .left = some left ∧ left.kind = .memberAccess ∧
    (∃ object, left.child? .object = some object ∧ object.text = appClass) ∧
    gift.field = (left.child? .property).map (·.text)
  right : node.child? .right = some gift.value

/-- The place where a value is given: the class or the assignment, and the position in the body of the
class. -/
structure Site where
  way : Way
  position : Nat

/-- What is given at a node comes before all that is given below it. -/
def Site.Before (site other : Site) : Prop :=
  site.way < other.way ∨ site.way = other.way ∧ site.position < other.position

/-- A value is given to a field of the application class at a site, at any depth of the tree. -/
inductive Gives (tree : Node) : Site → Gift → Prop
  | static {way : Way} {position : Nat} {node body member : Node} {gift : Gift}
      (there : tree.at? way = some node) (app : DeclaresApp node) (inside : node.child? .body = some body)
      (listed : body.children[position]? = some member) (held : HoldsStatic member gift) :
      Gives tree ⟨way, position⟩ gift
  | assigned {way : Way} {node : Node} {gift : Gift}
      (there : tree.at? way = some node) (held : Assigns node gift) : Gives tree ⟨way, 0⟩ gift

/-- A literal is bound to a field of the application class at a site. -/
def Binds (tree : Node) (field : String) (site : Site) (value : String) : Prop :=
  ∃ gift, Gives tree site gift ∧ gift.field = some field ∧ gift.value.Quotes value

/-- The literal that is bound to a field after all other ones. -/
def BindsLast (tree : Node) (field value : String) : Prop :=
  ∃ site, Binds tree field site value ∧
    ∀ other text, Binds tree field other text → other = site ∨ other.Before site

/-- The program breaks down over a value that is given to the application class. -/
def BreaksMain (tree : Node) : Prop :=
  ∃ site gift, Gives tree site gift ∧ gift.value.Breaks

theorem Site.before_asymm (site other : Site) (before : site.Before other) : ¬other.Before site := by
  rintro (way | ⟨way, position⟩)
  · rcases before with ahead | ⟨same, -⟩
    · exact List.lt_asymm ahead way
    · exact List.lt_irrefl _ (same ▸ way)
  · rcases before with ahead | ⟨-, less⟩
    · exact List.lt_irrefl _ (way ▸ ahead)
    · exact absurd position (Nat.not_lt_of_gt less)

theorem isAppClass_iff : isAppClass node = true ↔ DeclaresApp node := by
  rw [isAppClass, Bool.and_eq_true, Bool.or_eq_true, decide_eq_true_eq, decide_eq_true_eq, Option.any_eq_true]
  constructor
  · rintro ⟨kind, name, there, text⟩
    exact ⟨kind, name, there, of_decide_eq_true text⟩
  · rintro ⟨kind, name, there, text⟩
    exact ⟨kind, name, there, decide_eq_true text⟩

theorem hasKeyword_iff {word : String} : node.hasKeyword word = true ↔
    ∃ child ∈ node.children, child.kind = .keyword ∧ child.text = word := by
  simp [Node.hasKeyword]

theorem staticGift?_eq_some_iff : staticGift? member = some gift ↔ HoldsStatic member gift := by
  rw [staticGift?]
  constructor
  · intro read
    split at read
    · rename_i shape
      rw [Bool.and_eq_true, decide_eq_true_eq, hasKeyword_iff] at shape
      obtain ⟨value, valued, rfl⟩ := Option.map_eq_some_iff.mp read
      exact ⟨shape.1, shape.2, rfl, valued⟩
    · contradiction
  · rintro ⟨kind, isStatic, named, valued⟩
    rw [if_pos (by rw [Bool.and_eq_true, decide_eq_true_eq, hasKeyword_iff]; exact ⟨kind, isStatic⟩), valued,
      Option.map_some, ← named]

theorem assignedGift?_eq_some_iff : assignedGift? node = some gift ↔ Assigns node gift := by
  rw [assignedGift?]
  constructor
  · intro read
    split at read
    · rename_i kind
      obtain ⟨left, leftThere, read⟩ := Option.bind_eq_some_iff.mp read
      obtain ⟨right, rightThere, read⟩ := Option.bind_eq_some_iff.mp read
      split at read
      · rename_i access
        rw [Bool.and_eq_true, decide_eq_true_eq, Option.any_eq_true] at access
        obtain ⟨memberAccess, object, objectThere, text⟩ := access
        obtain rfl := Option.some.inj read
        exact ⟨kind, ⟨left, leftThere, memberAccess, ⟨object, objectThere, of_decide_eq_true text⟩, rfl⟩, rightThere⟩
      · contradiction
    · contradiction
  · rintro ⟨kind, ⟨left, leftThere, memberAccess, ⟨object, objectThere, text⟩, named⟩, rightThere⟩
    simp [kind, leftThere, rightThere, memberAccess, objectThere, text, ← named]

/-! ### The gifts of a tree in order -/

/-- The nodes in the body of an application class. -/
def appMembers (node : Node) : List Node :=
  if isAppClass node then ((node.child? .body).map Node.children).getD [] else []

/-- The values that are given at a node. -/
def giftsAt (way : Way) (node : Node) : List (Site × Gift) :=
  (appMembers node).zipIdx.filterMap (fun member =>
    (staticGift? member.1).map (⟨way, member.2⟩, ·)) ++
  (assignedGift? node).toList.map (⟨way, 0⟩, ·)

def placedGifts (tree : Node) : List (Site × Gift) :=
  tree.places.flatMap fun place => giftsAt place.1 place.2

theorem map_giftsAt (way : Way) (node : Node) : (giftsAt way node).map (·.2) = nodeGifts node := by
  have members : classGifts node = (appMembers node).filterMap staticGift? := by
    rw [classGifts, appMembers]
    cases isAppClass node <;> cases node.child? .body <;> rfl
  have unnumbered : (fun member : Node × Nat => staticGift? member.1) = staticGift? ∘ Prod.fst := rfl
  rw [giftsAt, nodeGifts, members, List.map_append, List.map_filterMap, List.map_map]
  simp only [Option.map_map, Function.comp_def, Option.map_id', List.map_id']
  rw [unnumbered, ← List.filterMap_map, List.zipIdx_map_fst]

theorem map_placedGifts (tree : Node) : (placedGifts tree).map (·.2) = gifts tree := by
  rw [placedGifts, gifts, Node.visit_eq_places, List.map_flatMap, List.flatMap_map]
  simp only [map_giftsAt]

theorem getElem?_appMembers_iff {position : Nat} : (appMembers node)[position]? = some member ↔
    DeclaresApp node ∧ ∃ body, node.child? .body = some body ∧ body.children[position]? = some member := by
  rw [appMembers, ← isAppClass_iff]
  cases isAppClass node with
  | false => simp
  | true => cases node.child? .body <;> simp

theorem mem_giftsAt_iff : (site, gift) ∈ giftsAt way node ↔ site.way = way ∧
    ((∃ member, (appMembers node)[site.position]? = some member ∧ HoldsStatic member gift) ∨
      site.position = 0 ∧ Assigns node gift) := by
  rw [giftsAt, List.mem_append, List.mem_filterMap, List.mem_map, and_or_left]
  refine or_congr ?_ ?_
  · constructor
    · rintro ⟨⟨member, position⟩, listed, found⟩
      obtain ⟨_, held, same⟩ := Option.map_eq_some_iff.mp found
      obtain ⟨rfl, rfl⟩ := Prod.mk.inj same
      exact ⟨rfl, member, List.mk_mem_zipIdx_iff_getElem?.mp listed, staticGift?_eq_some_iff.mp held⟩
    · rintro ⟨rfl, member, listed, held⟩
      exact ⟨(member, site.position), List.mk_mem_zipIdx_iff_getElem?.mpr listed,
        Option.map_eq_some_iff.mpr ⟨gift, staticGift?_eq_some_iff.mpr held, rfl⟩⟩
  · constructor
    · rintro ⟨_, held, same⟩
      obtain ⟨rfl, rfl⟩ := Prod.mk.inj same
      exact ⟨rfl, rfl, assignedGift?_eq_some_iff.mp (Option.mem_toList.mp held)⟩
    · rintro ⟨rfl, first, held⟩
      obtain ⟨way, position⟩ := site
      obtain rfl : position = 0 := first
      exact ⟨gift, Option.mem_toList.mpr (assignedGift?_eq_some_iff.mpr held), rfl⟩

theorem mem_placedGifts_iff : (site, gift) ∈ placedGifts tree ↔ Gives tree site gift := by
  rw [placedGifts, List.mem_flatMap]
  constructor
  · rintro ⟨⟨way, node⟩, there, held⟩
    obtain ⟨own, kept⟩ := mem_giftsAt_iff.mp held
    obtain ⟨way, position⟩ := site
    obtain rfl : way = _ := own
    rcases kept with ⟨member, listed, holds⟩ | ⟨first, assigns⟩
    · obtain ⟨app, body, inside, listed⟩ := getElem?_appMembers_iff.mp listed
      exact .static (Node.mem_places_iff.mp there) app inside listed holds
    · obtain rfl : position = 0 := first
      exact .assigned (Node.mem_places_iff.mp there) assigns
  · rintro (⟨there, app, inside, listed, held⟩ | ⟨there, held⟩)
    · exact ⟨_, Node.mem_places_iff.mpr there, mem_giftsAt_iff.mpr ⟨rfl, .inl
        ⟨_, getElem?_appMembers_iff.mpr ⟨app, _, inside, listed⟩, held⟩⟩⟩
    · exact ⟨_, Node.mem_places_iff.mpr there, mem_giftsAt_iff.mpr ⟨rfl, .inr ⟨rfl, held⟩⟩⟩

theorem mem_gifts_iff : gift ∈ gifts tree ↔ ∃ site, Gives tree site gift := by
  rw [← map_placedGifts, List.mem_map]
  constructor
  · rintro ⟨⟨site, _⟩, placed, rfl⟩
    exact ⟨site, mem_placedGifts_iff.mp placed⟩
  · rintro ⟨site, gives⟩
    exact ⟨(site, gift), mem_placedGifts_iff.mpr gives, rfl⟩

theorem giftsAt_ordered (way : Way) (node : Node) :
    (giftsAt way node).Pairwise fun earlier later => earlier.1.Before later.1 := by
  have numbered : (appMembers node).zipIdx.Pairwise fun earlier later => earlier.2 < later.2 := by
    rw [← List.pairwise_map (f := Prod.snd) (R := (· < ·)), List.zipIdx_map_snd]
    exact List.pairwise_lt_range'
  rw [giftsAt, List.pairwise_append, List.pairwise_filterMap]
  refine ⟨numbered.imp ?_, ?_, ?_⟩
  · rintro ⟨member, position⟩ ⟨other, later⟩ less _ first _ second
    obtain ⟨gift, -, rfl⟩ := Option.map_eq_some_iff.mp first
    obtain ⟨gift, -, rfl⟩ := Option.map_eq_some_iff.mp second
    exact .inr ⟨rfl, less⟩
  · cases assignedGift? node <;> simp
  · -- a class is no assignment
    intro _ inside _ outside
    obtain ⟨⟨member, position⟩, listed, -⟩ := List.mem_filterMap.mp inside
    obtain ⟨gift, held, -⟩ := List.mem_map.mp outside
    have app := (getElem?_appMembers_iff.mp (List.mk_mem_zipIdx_iff_getElem?.mp listed)).1
    have assigns := assignedGift?_eq_some_iff.mp (Option.mem_toList.mp held)
    rcases app.kind with kind | kind <;> simp [assigns.kind] at kind

theorem placedGifts_ordered (tree : Node) :
    (placedGifts tree).Pairwise fun earlier later => earlier.1.Before later.1 := by
  rw [placedGifts, List.pairwise_flatMap]
  refine ⟨fun place _ => giftsAt_ordered place.1 place.2, (Node.places_ordered tree).imp ?_⟩
  rintro earlier later before ⟨site, gift⟩ first ⟨other, otherGift⟩ second
  obtain ⟨own, -⟩ := mem_giftsAt_iff.mp first
  obtain ⟨others, -⟩ := mem_giftsAt_iff.mp second
  exact .inl (own ▸ others ▸ before)

/-! ### The literals among the gifts -/

theorem Gift.binding?_eq_some_iff : gift.binding? = .ok (some binding) ↔
    gift.field = some binding.field ∧ gift.value.Quotes binding.value := by
  rw [← Node.literal?_eq_some_iff, binding?]
  obtain ⟨field, value⟩ := binding
  cases gift.value.literal? with
  | error crash => simp [Except.map]
  | ok literal => simp [Except.map, Option.bind_eq_some_iff]

theorem Gift.binding?_eq_error_iff : gift.binding? = .error crash ↔ gift.value.Breaks := by
  have own : gift.value.literal? = .error crash ↔ gift.value.Breaks := Node.literal?_eq_error_iff
  rw [← own, binding?]
  cases gift.value.literal? <;> simp [Except.map]

/-- The literals with the sites where they are bound. -/
def bound (tree : Node) : List (Site × Binding) :=
  (placedGifts tree).filterMap fun place => (kept Gift.binding? place.2).map (place.1, ·)

theorem map_bound (tree : Node) : (bound tree).map (·.2) = (gifts tree).filterMap (kept Gift.binding?) := by
  rw [bound, ← map_placedGifts, List.map_filterMap, List.filterMap_map]
  simp only [Option.map_map, Function.comp_def, Option.map_id']

theorem mem_bound_iff : (site, binding) ∈ bound tree ↔ Binds tree binding.field site binding.value := by
  rw [bound, List.mem_filterMap]
  constructor
  · rintro ⟨⟨_, gift⟩, placed, found⟩
    obtain ⟨_, read, same⟩ := Option.map_eq_some_iff.mp found
    obtain ⟨rfl, rfl⟩ := Prod.mk.inj same
    exact ⟨gift, mem_placedGifts_iff.mp placed, Gift.binding?_eq_some_iff.mp (kept_eq_some_iff.mp read)⟩
  · rintro ⟨gift, gives, binds⟩
    exact ⟨(site, gift), mem_placedGifts_iff.mpr gives, Option.map_eq_some_iff.mpr
      ⟨binding, kept_eq_some_iff.mpr (Gift.binding?_eq_some_iff.mpr binds), rfl⟩⟩

theorem bound_ordered (tree : Node) :
    (bound tree).Pairwise fun earlier later => earlier.1.Before later.1 := by
  rw [bound, List.pairwise_filterMap]
  refine (placedGifts_ordered tree).imp fun before _ first _ second => ?_
  obtain ⟨binding, -, rfl⟩ := Option.map_eq_some_iff.mp first
  obtain ⟨binding, -, rfl⟩ := Option.map_eq_some_iff.mp second
  exact before

theorem bindings_eq_error_iff : bindings tree = .error crash ↔ BreaksMain tree := by
  simp only [bindings, collect_eq_error_iff, mem_gifts_iff, Gift.binding?_eq_error_iff, BreaksMain]
  constructor
  · rintro ⟨gift, ⟨site, gives⟩, breaks⟩
    exact ⟨site, gift, gives, breaks⟩
  · rintro ⟨site, gift, gives, breaks⟩
    exact ⟨gift, ⟨site, gives⟩, breaks⟩

theorem bindings_of_whole (whole : ¬BreaksMain tree) : bindings tree = .ok ((bound tree).map (·.2)) := by
  rw [map_bound]
  refine collect_of_ok fun gift member crash broken => whole ?_
  obtain ⟨site, gives⟩ := mem_gifts_iff.mp member
  exact ⟨site, gift, gives, Gift.binding?_eq_error_iff.mp broken⟩

/-! ### The descriptor -/

theorem lastValue?_bound (field : String) (tree : Node) : lastValue? field ((bound tree).map (·.2)) =
    ((bound tree).reverse.find? fun place => place.2.field = field).map fun place => place.2.value := by
  rw [lastValue?, ← List.map_reverse, List.find?_map, Option.map_map]
  rfl

theorem lastValue?_bound_eq_some_iff :
    lastValue? field ((bound tree).map (·.2)) = some value ↔ BindsLast tree field value := by
  rw [lastValue?_bound, Option.map_eq_some_iff]
  constructor
  · rintro ⟨⟨site, binding⟩, found, rfl⟩
    obtain ⟨member, named, last⟩ := last_of_find?_reverse (bound_ordered tree) found
    obtain rfl : binding.field = field := of_decide_eq_true named
    refine ⟨site, mem_bound_iff.mp member, fun other text binds => ?_⟩
    rcases last (other, ⟨binding.field, text⟩) (mem_bound_iff.mpr binds) (by simp) with same | before
    · exact .inl (Prod.mk.inj same).1
    · exact .inr before
  · rintro ⟨site, binds, last⟩
    refine ⟨(site, ⟨field, value⟩), ?_, rfl⟩
    refine find?_reverse_of_last (bound_ordered tree) (mem_bound_iff.mpr binds) (by simp) ?_
    rintro ⟨other, binding⟩ member named after
    obtain rfl : binding.field = field := of_decide_eq_true named
    rcases last other binding.value (mem_bound_iff.mp member) with rfl | before
    · exact Site.before_asymm _ _ after after
    · exact Site.before_asymm _ _ after before

/-- A field that is bound at all has a last literal. -/
theorem exists_bindsLast_iff :
    (∃ value, BindsLast tree field value) ↔ ∃ site value, Binds tree field site value := by
  constructor
  · rintro ⟨value, site, binds, -⟩
    exact ⟨site, value, binds⟩
  · rintro ⟨site, value, binds⟩
    have some : ((bound tree).reverse.find? fun place => place.2.field = field).isSome :=
      List.find?_isSome.mpr ⟨(site, ⟨field, value⟩), List.mem_reverse.mpr (mem_bound_iff.mpr binds), by simp⟩
    obtain ⟨place, found⟩ := Option.isSome_iff_exists.mp some
    refine ⟨place.2.value, lastValue?_bound_eq_some_iff.mp ?_⟩
    rw [lastValue?_bound, found, Option.map_some]

theorem any_isAppClass_iff : tree.visit.any isAppClass = true ↔
    ∃ way node, tree.at? way = some node ∧ DeclaresApp node := by
  simp only [List.any_eq_true, Node.mem_visit_iff, isAppClass_iff]
  constructor
  · rintro ⟨node, ⟨way, there⟩, app⟩
    exact ⟨way, node, there, app⟩
  · rintro ⟨way, node, there, app⟩
    exact ⟨node, ⟨way, there⟩, app⟩

theorem mainOf?_eq_some_iff {descriptor : MainDescriptor} :
    mainOf? tree ((bound tree).map (·.2)) = some descriptor ↔
      (∃ way node, tree.at? way = some node ∧ DeclaresApp node) ∧
      BindsLast tree controllersField descriptor.controllers ∧ BindsLast tree viewsField descriptor.views := by
  rw [← any_isAppClass_iff, ← lastValue?_bound_eq_some_iff, ← lastValue?_bound_eq_some_iff, mainOf?]
  cases tree.visit.any isAppClass with
  | false => simp
  | true =>
    obtain ⟨controllers, views⟩ := descriptor
    simp [Option.bind_eq_some_iff]

theorem isSome_mainOf?_iff : (mainOf? tree ((bound tree).map (·.2))).isSome ↔
    (∃ way node, tree.at? way = some node ∧ DeclaresApp node) ∧
      (∃ site value, Binds tree controllersField site value) ∧ ∃ site value, Binds tree viewsField site value := by
  rw [Option.isSome_iff_exists, ← exists_bindsLast_iff, ← exists_bindsLast_iff]
  constructor
  · rintro ⟨descriptor, found⟩
    obtain ⟨app, controllers, views⟩ := mainOf?_eq_some_iff.mp found
    exact ⟨app, ⟨_, controllers⟩, ⟨_, views⟩⟩
  · rintro ⟨app, ⟨controllers, controllersLast⟩, ⟨views, viewsLast⟩⟩
    exact ⟨⟨controllers, views⟩, mainOf?_eq_some_iff.mpr ⟨app, controllersLast, viewsLast⟩⟩

theorem main?_eq_error_iff : main? tree = .error crash ↔ BreaksMain tree := by
  have own : bindings tree = .error crash ↔ BreaksMain tree := bindings_eq_error_iff
  rw [← own, main?]
  cases bindings tree <;> simp [Except.map]

theorem main?_of_whole (whole : ¬BreaksMain tree) :
    main? tree = .ok (mainOf? tree ((bound tree).map (·.2))) := by
  rw [main?, bindings_of_whole whole]
  rfl

/-- The program breaks down over a tree, or it looks through all of it. Then there is a descriptor exactly if
the application class is declared and a literal is bound to either field, and it holds the last literals. -/
theorem main?_of_last_literals (tree : Node) :
    BreaksMain tree ∧ main? tree = .error .withinCharacter ∨
    ¬BreaksMain tree ∧ ∃ found, main? tree = .ok found ∧
      (found.isSome ↔ (∃ way node, tree.at? way = some node ∧ DeclaresApp node) ∧
        (∃ site value, Binds tree controllersField site value) ∧
        ∃ site value, Binds tree viewsField site value) ∧
      ∀ descriptor, found = some descriptor ↔ (∃ way node, tree.at? way = some node ∧ DeclaresApp node) ∧
        BindsLast tree controllersField descriptor.controllers ∧ BindsLast tree viewsField descriptor.views := by
  by_cases breaks : BreaksMain tree
  · exact .inl ⟨breaks, main?_eq_error_iff.mpr breaks⟩
  · exact .inr ⟨breaks, _, main?_of_whole breaks, isSome_mainOf?_iff, fun _ => mainOf?_eq_some_iff⟩

-- Without a closing quote a string ends with the last character of what it holds.
example : main? (program "class AngularApp \x7b\x7d (AngularApp.title = \"é\n)") = .error .withinCharacter := by
  decide +kernel

end Structural

end SeedNavigator.Descriptor
