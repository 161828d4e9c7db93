import SeedNavigator.Proofs.Outline.Declarations

/-! The public members of a class are what it declares without `private`, `protected` or a private name: none of
the others is among them, and a key that is only declared in public is not missing. Constructors and their
parameters without a modifier are no declarations. The outline takes every method of the name for a
constructor, though, so a static method or an accessor that is called `constructor` is lost. -/
namespace SeedNavigator.Outline

open Script

/-! ### Public declarations -/

namespace Declaration

/-- Neither a modifier nor the form of the name hides the declaration. -/
def IsPublic (declaration : Declaration) : Prop :=
  declaration.name.kind ≠ .privateWord ∧
    ∀ modifier ∈ declaration.node.children, modifier.kind = .accessibility →
      modifier.text ≠ "private" ∧ modifier.text ≠ "protected"

/-- The grammar has one modifier of access in a declaration at most, and no private names for parameters. -/
def IsWritten (declaration : Declaration) : Prop :=
  (declaration.node.children.filter (·.kind = .accessibility)).length ≤ 1 ∧
    (declaration.form = .parameter → declaration.name.kind ≠ .privateWord)

instance (declaration : Declaration) : Decidable declaration.IsPublic :=
  inferInstanceAs (Decidable (_ ∧ _))

instance (declaration : Declaration) : Decidable declaration.IsWritten :=
  inferInstanceAs (Decidable (_ ∧ _))

end Declaration

theorem ofWord_eq_everywhere_iff (word : String) :
    Access.ofWord word = .everywhere ↔ word ≠ "private" ∧ word ≠ "protected" := by
  rw [Access.ofWord, Access.name, Access.name]
  split_ifs with ownClass subclasses <;> simp_all

theorem modified_eq_everywhere_iff {node : Node}
    (single : (node.children.filter (·.kind = .accessibility)).length ≤ 1) :
    ((accessWord? node).map Access.ofWord).getD .everywhere = .everywhere ↔
      ∀ modifier ∈ node.children, modifier.kind = .accessibility →
        modifier.text ≠ "private" ∧ modifier.text ≠ "protected" := by
  have listed (modifier : Node) : modifier ∈ node.children.filter (·.kind = .accessibility) ↔
      modifier ∈ node.children ∧ modifier.kind = .accessibility := by
    simp
  simp only [← and_imp, ← listed]
  rw [accessWord?, ← List.head?_filter]
  generalize node.children.filter (·.kind = .accessibility) = modifiers at single
  rcases modifiers with _ | ⟨modifier, _ | ⟨other, rest⟩⟩
  · simp
  · simp [ofWord_eq_everywhere_iff]
  · simp at single

theorem accessOf_eq_everywhere_iff (node name : Node) : accessOf node name = .everywhere ↔
    name.kind ≠ .privateWord ∧ ((accessWord? node).map Access.ofWord).getD .everywhere = .everywhere := by
  rw [accessOf]
  split_ifs with hidden <;> simp [hidden]

theorem access_methodMember (method name : Node) : (methodMember method name).access = accessOf method name := by
  simp only [methodMember]
  split <;> rfl

namespace Declaration

variable {declaration : Declaration}

theorem isPublic_member_iff (written : declaration.IsWritten) :
    declaration.member.isPublic = true ↔ declaration.IsPublic := by
  obtain ⟨single, parameter⟩ := written
  rw [IsPublic, ← modified_eq_everywhere_iff single, Member.isPublic, decide_eq_true_eq]
  obtain ⟨form, node, name⟩ := declaration
  cases form with
  | method =>
    rw [← accessOf_eq_everywhere_iff, ← access_methodMember]
    rfl
  | field => exact accessOf_eq_everywhere_iff node name
  | parameter => exact (and_iff_right (parameter rfl)).symm

end Declaration

/-! ### Public members -/

variable {constructs : (method name : Node) → Bool} {node : Node} {type : TypeDefinition}

theorem mem_declarations {declaration : Declaration} (declared : declaration ∈ declarations constructs node) :
    (declaration.form = .method → constructs declaration.node declaration.name = false) ∧
      (declaration.form = .parameter → isModified declaration.node = true) := by
  obtain ⟨part, -, within⟩ := List.mem_flatMap.mp declared
  cases named : part.child? .name with
  | none =>
    simp only [declaredIn, named, List.not_mem_nil] at within
  | some name =>
    simp only [declaredIn, named] at within
    split_ifs at within with method constructor field
    · obtain ⟨parameter, -, found⟩ := List.mem_filterMap.mp within
      obtain ⟨form, rfl, modified⟩ := of_property?_eq_some found
      exact ⟨by simp [form], fun _ => modified⟩
    · obtain rfl := List.mem_singleton.mp within
      exact ⟨fun _ => Bool.eq_false_iff.mpr constructor, by simp⟩
    · obtain rfl := List.mem_singleton.mp within
      exact ⟨by simp, by simp⟩
    · contradiction

/-- The public members of a class are what it declares to the public. A method that is a constructor is no
declaration, nor is a parameter without a modifier. -/
structure ShowsPublic (constructs : (method name : Node) → Bool) (node : Node) (type : TypeDefinition) :
    Prop where
  declared : ∀ member ∈ type.members, ∃ declaration ∈ declarations constructs node,
    declaration.member = member ∧
      (declaration.form = .method → constructs declaration.node declaration.name = false) ∧
      (declaration.form = .parameter → isModified declaration.node = true)
  sound : ∀ member ∈ type.publicMembers, ∃ declaration ∈ declarations constructs node,
    declaration.key = member.key ∧ declaration.IsPublic
  complete : ∀ key, (∃ declaration ∈ declarations constructs node, declaration.key = key) →
    (∀ declaration ∈ declarations constructs node, declaration.key = key → declaration.IsPublic) →
      ∃ member ∈ type.publicMembers, member.key = key

theorem exists_of_mem_members (outlines : Outlines node type) {member : Member} (listed : member ∈ type.members) :
    ∃ declaration ∈ declarations bearsName node, declaration.member = member := by
  have fits : member ∈ type.members.filter (·.key = member.key) :=
    List.mem_filter.mpr ⟨listed, decide_eq_true rfl⟩
  rw [outlines.filter_members] at fits
  obtain ⟨declaration, kept, same⟩ := List.mem_map.mp fits
  exact ⟨declaration, (List.mem_filter.mp (mem_of_mem_shown kept)).1, same⟩

theorem exists_member_iff (outlines : Outlines node type) (key : String × Bool) :
    (∃ member ∈ type.members, member.key = key) ↔
      ∃ declaration ∈ declarations bearsName node, declaration.key = key := by
  have found := congrArg Option.isSome (outlines.find?_members key)
  rw [Option.isSome_map, Bool.eq_iff_iff, List.find?_isSome, List.find?_isSome] at found
  simpa only [decide_eq_true_eq] using found

theorem showsPublic_bearsName (outlines : Outlines node type)
    (written : ∀ declaration ∈ declarations bearsName node, declaration.IsWritten) :
    ShowsPublic bearsName node type where
  declared member listed := by
    obtain ⟨declaration, within, same⟩ := exists_of_mem_members outlines listed
    exact ⟨declaration, within, same, mem_declarations within⟩
  sound member listed := by
    obtain ⟨listed, isPublic⟩ := List.mem_filter.mp listed
    obtain ⟨declaration, within, rfl⟩ := exists_of_mem_members outlines listed
    exact ⟨declaration, within, declaration.key_member.symm,
      (Declaration.isPublic_member_iff (written declaration within)).mp isPublic⟩
  complete key declared isPublic := by
    cases found : (declarations bearsName node).find? (·.key = key) with
    | none =>
      obtain ⟨declaration, within, same⟩ := declared
      exact absurd (decide_eq_true same) (List.find?_eq_none.mp found declaration within)
    | some first =>
      have within := List.mem_of_find?_eq_some found
      have same : first.key = key := by simpa using List.find?_some found
      have member := outlines.find?_members key
      rw [found, Option.map_some] at member
      refine ⟨first.member, List.mem_filter.mpr ⟨List.mem_of_find?_eq_some member, ?_⟩, ?_⟩
      · exact (Declaration.isPublic_member_iff (written first within)).mpr (isPublic first within same)
      · rw [first.key_member, same]

/-! ### Constructors -/

/-- A constructor may have its name in quotes. A static method or an accessor of the name is none. -/
def isConstructor (method name : Node) : Bool :=
  (name.text = "constructor" || name.literal?.toOption.join = some "constructor") &&
    !(method.hasKeyword "static" || method.hasKeyword "get" || method.hasKeyword "set")

/-- The methods of the bare name are the constructors. -/
def NamesConstructors (node : Node) : Prop :=
  ∀ part ∈ partsOf node, ∀ name, part.child? .name = some name → isMethod part = true →
    bearsName part name = isConstructor part name

theorem declarations_of_namesConstructors (names : NamesConstructors node) :
    declarations bearsName node = declarations isConstructor node := by
  refine List.flatMap_congr fun part within => ?_
  rw [declaredIn, declaredIn]
  cases named : part.child? .name with
  | none => rfl
  | some name =>
    by_cases method : isMethod part = true
    · simp only [method, if_true, names part within name named method]
    · simp only [if_neg method]

/-- The public members are the public declarations, with every method of the name taken for a constructor.
These are the declarations of the class if its methods of the name are its constructors. A static method or an
accessor of the name is not among them, and its key is shown only if something else is declared of it. -/
theorem public_members_shown (outlines : Outlines node type)
    (written : ∀ declaration ∈ declarations bearsName node, declaration.IsWritten) :
    ShowsPublic bearsName node type ∧
    (NamesConstructors node → ShowsPublic isConstructor node type) ∧
    ∀ declaration ∈ declarations isConstructor node, declaration.form = .method →
      bearsName declaration.node declaration.name = true →
        declaration ∉ declarations bearsName node ∧
        ((∃ member ∈ type.members, member.key = declaration.key) ↔
          ∃ other ∈ declarations bearsName node, other.key = declaration.key) := by
  have shows := showsPublic_bearsName outlines written
  refine ⟨shows, fun names => ?_, fun declaration _ method named => ⟨fun within => ?_, ?_⟩⟩
  · obtain ⟨declared, sound, complete⟩ := shows
    rw [declarations_of_namesConstructors names] at declared sound complete
    refine ⟨fun member listed => ?_, sound, complete⟩
    obtain ⟨declaration, within, same, -⟩ := declared member listed
    exact ⟨declaration, within, same, mem_declarations within⟩
  · have other := (mem_declarations within).1 method
    rw [named] at other
    contradiction
  · exact exists_member_iff outlines declaration.key

def staticConstructor : Declaration where
  form := .method
  node := .branch .methodDefinition [token .keyword "static", named .name "constructor"]
  name := .leaf .word " " "constructor"

/-- The class of `static constructor()`, `private lock` and `load()`. -/
def locked : Node :=
  classOf "Users" [staticConstructor.node,
    .branch .fieldDefinition [token .accessibility "private", named .name "lock"],
    .branch .methodDefinition [named .name "load"]]

/-- What the outline has of it: the private field and one method. -/
def lockedType : TypeDefinition :=
  ⟨"Users", .classType, [⟨"lock", .property, .ownClass, false, none, none⟩,
    ⟨"load", .method, .everywhere, false, none, some "()"⟩]⟩

/-- A static method that is called `constructor` is public and not shown. -/
theorem static_constructor_lost :
    Outlines locked lockedType ∧
    (∀ declaration ∈ declarations bearsName locked, declaration.IsWritten) ∧
    ShowsPublic bearsName locked lockedType ∧
    staticConstructor ∈ declarations isConstructor locked ∧
    (∀ declaration ∈ declarations isConstructor locked, declaration.key = staticConstructor.key →
      declaration.IsPublic) ∧
    (∀ member ∈ lockedType.members, member.key ≠ staticConstructor.key) ∧
    ¬ShowsPublic isConstructor locked lockedType := by
  have outlines : Outlines locked lockedType := ⟨rfl, by decide +kernel⟩
  have written : ∀ declaration ∈ declarations bearsName locked, declaration.IsWritten := by decide +kernel
  have within : staticConstructor ∈ declarations isConstructor locked := by
    simp [locked, staticConstructor, classOf, declarations, partsOf, declaredIn, Node.child?, Node.roles,
      Node.children, isMethod, Node.kind, isConstructor, named, token, Node.text, Node.textFrom,
      Node.hasKeyword]
  have isPublic : ∀ declaration ∈ declarations isConstructor locked,
      declaration.key = staticConstructor.key → declaration.IsPublic := by
    decide +kernel
  obtain ⟨shows, -, lost⟩ := public_members_shown outlines written
  obtain ⟨-, only⟩ := lost staticConstructor within rfl (by decide +kernel)
  have absent : ∀ member ∈ lockedType.members, member.key ≠ staticConstructor.key := by
    intro member listed same
    have nothing : ¬∃ other ∈ declarations bearsName locked, other.key = staticConstructor.key := by
      decide +kernel
    exact nothing (only.mp ⟨member, listed, same⟩)
  refine ⟨outlines, written, shows, within, isPublic, absent, fun all => ?_⟩
  obtain ⟨member, listed, same⟩ := all.complete _ ⟨staticConstructor, within, rfl⟩ isPublic
  exact absent member (List.mem_filter.mp listed).1 same

end SeedNavigator.Outline
