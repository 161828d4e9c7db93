import SeedNavigator.Completion.Suggestions
import SeedNavigator.Proofs.Outline.Declarations

/-! A getter and a setter of one name are one member, and it is the first of them that the outline keeps. Only
the getter says what type the member has, so behind a setter its type is lost, and a chain of members ends
there. -/
namespace SeedNavigator.Outline

open Script Completion

namespace Declaration

def IsGetter (declaration : Declaration) : Prop :=
  declaration.form = .method ∧ declaration.node.hasKeyword "get" = true

def IsSetter (declaration : Declaration) : Prop :=
  declaration.form = .method ∧ declaration.node.hasKeyword "set" = true

/-- The type that is written behind the parameters. -/
def returned? (declaration : Declaration) : Option String :=
  (declaration.node.child? .returnType).map typeText

theorem member_of_accessor {declaration : Declaration} (accessor : declaration.IsGetter ∨ declaration.IsSetter) :
    declaration.member.kind = .accessor ∧ declaration.member.declaredType = declaration.returned? := by
  have method : declaration.form = .method := accessor.elim And.left And.left
  have accesses : declaration.node.hasKeyword "get" = true ∨ declaration.node.hasKeyword "set" = true :=
    accessor.imp And.right And.right
  simp [member, method, methodMember, accesses, returned?]

end Declaration

/-- All that a class declares of a key, in the order of the source. -/
def Declares (node : Node) (key : String × Bool) (declared : List Declaration) : Prop :=
  (declarations bearsName node).filter (·.key = key) = declared

variable {node : Node} {type : TypeDefinition} {key : String × Bool} {first second getter setter : Declaration}
  {member : Member} {returned : String}

/-- Of two declarations without a parameter among them the first is the member. -/
theorem filter_members_of_two (outlines : Outlines node type) (declares : Declares node key [first, second])
    (form : second.form = .method) : type.members.filter (·.key = key) = [first.member] := by
  rw [outlines.filter_members, declares]
  simp [shown, form]

theorem follow?_of_find? (outline : Outline) {name : String} (taken : type.publicMembers.find?
      (fun member => member.name = name && member.kind ≠ .method) = some member) :
    follow? outline type name = member.declaredType.bind fun declared =>
      outline.find? (String.ofList (Text.trim declared.toList)) := by
  rw [follow?, taken]
  rfl

/-- A getter with a type and a setter come to one accessor. It has the type of the getter exactly if the
getter stands first or the setter repeats the type; a chain goes on through it in the one case, and ends there
in the other. -/
theorem accessor_type_iff (outlines : Outlines node type) (gets : getter.IsGetter) (sets : setter.IsSetter)
    (annotated : getter.returned? = some returned)
    (either : Declares node key [getter, setter] ∨ Declares node key [setter, getter]) :
    ∃ member, type.members.filter (·.key = key) = [member] ∧ member.kind = .accessor ∧
      (member.declaredType = some returned ↔
        Declares node key [getter, setter] ∨ setter.returned? = some returned) ∧
      ∀ outline : Outline, type.publicMembers.find? (fun other => other.name = key.1 && other.kind ≠ .method) =
          some member →
        (Declares node key [getter, setter] → follow? outline type key.1 =
          outline.find? (String.ofList (Text.trim returned.toList))) ∧
        (Declares node key [setter, getter] → setter.returned? = none →
          follow? outline type key.1 = none) := by
  obtain ⟨getterKind, getterType⟩ := Declaration.member_of_accessor (.inl gets)
  obtain ⟨setterKind, setterType⟩ := Declaration.member_of_accessor (.inr sets)
  -- Nothing says that the two are different declarations; if both orders hold, they are one.
  have same : Declares node key [getter, setter] → Declares node key [setter, getter] → getter = setter :=
    fun getterFirst setterFirst => (List.cons.inj (getterFirst.symm.trans setterFirst)).1
  rcases either with getterFirst | setterFirst
  · refine ⟨getter.member, filter_members_of_two outlines getterFirst sets.1, getterKind, ?_, ?_⟩
    · exact ⟨fun _ => .inl getterFirst, fun _ => getterType.trans annotated⟩
    · intro outline taken
      refine ⟨fun _ => ?_, fun setterFirst silent => ?_⟩
      · rw [follow?_of_find? outline taken, getterType, annotated]
        rfl
      · rw [same getterFirst setterFirst, silent] at annotated
        contradiction
  · refine ⟨setter.member, filter_members_of_two outlines setterFirst gets.1, setterKind, ?_, ?_⟩
    · rw [setterType]
      refine ⟨.inr, fun known => known.elim (fun getterFirst => ?_) id⟩
      rw [← same getterFirst setterFirst, annotated]
    · intro outline taken
      rw [follow?_of_find? outline taken, setterType]
      refine ⟨fun getterFirst => ?_, fun _ silent => ?_⟩
      · rw [← same getterFirst setterFirst, annotated]
        rfl
      · rw [silent]
        rfl

def setOwner : Declaration where
  form := .method
  node := .branch .methodDefinition [token .keyword "set", named .name "owner"]
  name := .leaf .word " " "owner"

def getOwner : Declaration where
  form := .method
  node := .branch .methodDefinition [token .keyword "get", named .name "owner", typed .returnType "Owner"]
  name := .leaf .word " " "owner"

/-- The class of `set owner(value)` and `get owner(): Owner`. -/
def owned : Node :=
  classOf "Users" [setOwner.node, getOwner.node]

theorem declares_owner : Declares owned ("owner", false) [setOwner, getOwner] := by
  simp [Declares, owned, setOwner, getOwner, classOf, declarations, partsOf, declaredIn, Node.child?, Node.roles,
    Node.children, isMethod, Node.kind, bearsName, named, token, typed, Node.text, Node.textFrom,
    Declaration.key, Declaration.isStatic, Node.hasKeyword]

/-- Behind its setter an accessor has no type, and whatever the source declares, no chain goes through it. -/
theorem owner_without_type :
    Outlines owned ⟨"Users", .classType, [⟨"owner", .accessor, .everywhere, false, none, none⟩]⟩ ∧
    getOwner.IsGetter ∧ setOwner.IsSetter ∧ getOwner.returned? = some "Owner" ∧
    Declares owned ("owner", false) [setOwner, getOwner] ∧
    ∀ outline, follow? outline
      ⟨"Users", .classType, [⟨"owner", .accessor, .everywhere, false, none, none⟩]⟩ "owner" = none := by
  have outlines :
      Outlines owned ⟨"Users", .classType, [⟨"owner", .accessor, .everywhere, false, none, none⟩]⟩ :=
    ⟨rfl, by decide +kernel⟩
  have gets : getOwner.IsGetter := ⟨rfl, by decide +kernel⟩
  have sets : setOwner.IsSetter := ⟨rfl, by decide +kernel⟩
  have annotated : getOwner.returned? = some "Owner" := by decide +kernel
  obtain ⟨member, only, -, -, chains⟩ :=
    accessor_type_iff outlines gets sets annotated (.inr declares_owner)
  obtain rfl : _ = member := List.head_eq_of_cons_eq only
  refine ⟨outlines, gets, sets, annotated, declares_owner, fun outline => ?_⟩
  exact (chains outline rfl).2 declares_owner rfl

end SeedNavigator.Outline
