import Mathlib.Data.List.Nodup
import Mathlib.Tactic.SplitIfs
import SeedNavigator.Outline.Members

/-! What a class declares in its body, and what its outline keeps of it. Members are told apart by their name
and by whether they are static. Of the methods, accessors and fields the first declaration stays. The
properties that a constructor declares in its parameters are added without a look at what is there. -/
namespace SeedNavigator

/-- What tells two members of a class apart. -/
def Member.key (member : Member) : String × Bool :=
  (member.name, member.isStatic)

namespace Outline

open Script

/-! ### Declarations -/

inductive Form where
  /-- A method, a getter or a setter. -/
  | method
  | field
  /-- A parameter of a constructor that is a property of the class as well. -/
  | parameter
  deriving DecidableEq, Repr

/-- A declaration in the body of a class, with the node that names what it declares. -/
structure Declaration where
  form : Form
  node : Node
  name : Node

def parameterMember (parameter pattern : Node) : Member where
  name := pattern.text
  kind := .property
  access := ((accessWord? parameter).map Access.ofWord).getD .everywhere
  isStatic := false
  declaredType := declaredType? parameter

namespace Declaration

def isStatic (declaration : Declaration) : Bool :=
  declaration.form ≠ .parameter && declaration.node.hasKeyword "static"

def key (declaration : Declaration) : String × Bool :=
  (declaration.name.text, declaration.isStatic)

def member (declaration : Declaration) : Member :=
  match declaration.form with
  | .method => methodMember declaration.node declaration.name
  | .field => fieldMember declaration.node declaration.name
  | .parameter => parameterMember declaration.node declaration.name

@[simp] theorem key_member (declaration : Declaration) : declaration.member.key = declaration.key := by
  obtain ⟨form, node, name⟩ := declaration
  cases form with
  | method =>
    simp only [member, methodMember, key, isStatic]
    split <;> simp [Member.key]
  | field => simp [member, fieldMember, key, isStatic, Member.key]
  | parameter => simp [member, parameterMember, key, isStatic, Member.key]

end Declaration

def isParameter (node : Node) : Bool :=
  node.kind = .requiredParameter || node.kind = .optionalParameter

/-- A parameter with a modifier of access, or a read-only one, is a property. -/
def isModified (parameter : Node) : Bool :=
  parameter.children.any (·.kind = .accessibility) || parameter.hasKeyword "readonly"

def property? (node : Node) : Option Declaration :=
  if isParameter node && isModified node then (node.child? .pattern).map (⟨.parameter, node, ·⟩) else none

def parametersOf (method : Node) : List Node :=
  ((method.child? .parameters).map Node.children).getD []

/-- What a part of a body declares. A method is a constructor if `constructs` says so of it and its name. -/
def declaredIn (constructs : (method name : Node) → Bool) (part : Node) : List Declaration :=
  match part.child? .name with
  | none => []
  | some name =>
    if isMethod part then
      if constructs part name then (parametersOf part).filterMap property? else [⟨.method, part, name⟩]
    else if part.kind = .fieldDefinition then [⟨.field, part, name⟩]
    else []

/-- The parts of a class between its braces. -/
def partsOf (type : Node) : List Node :=
  ((type.child? .body).map Node.children).getD []

/-- What a class declares, in the order of the source. The properties of a constructor stand in its place. -/
def declarations (constructs : (method name : Node) → Bool) (type : Node) : List Declaration :=
  (partsOf type).flatMap (declaredIn constructs)

/-- The outline knows a constructor by its name alone. -/
def bearsName (_method name : Node) : Bool :=
  name.text = "constructor"

/-! ### Keeping a declaration -/

/-- One declaration added to the members before it. -/
def keep (members : List Member) (declaration : Declaration) : List Member :=
  if declaration.form = .parameter then members ++ [declaration.member]
  else addMember members declaration.member

variable {members : List Member} {declaration : Declaration} {declared : List Declaration}
  {key : String × Bool}

theorem any_isSameMember (members : List Member) (member : Member) :
    members.any (isSameMember member) = true ↔ member.key ∈ members.map Member.key := by
  simp only [List.any_eq_true, List.mem_map, isSameMember, Member.key, Bool.and_eq_true, decide_eq_true_eq,
    Prod.mk.injEq]
  constructor <;> rintro ⟨other, listed, name, isStatic⟩ <;> exact ⟨other, listed, name.symm, isStatic.symm⟩

/-- A parameter is always added, anything else only where its key is free. -/
theorem keep_eq : keep members declaration =
    if declaration.form = .parameter ∨ declaration.key ∉ members.map Member.key
    then members ++ [declaration.member] else members := by
  by_cases form : declaration.form = .parameter
  · simp only [keep, form, true_or, if_true]
  · simp only [keep, form, addMember, any_isSameMember, Declaration.key_member, false_or, if_false, ite_not]

theorem mem_keys_keep : key ∈ (keep members declaration).map Member.key ↔
    key ∈ members.map Member.key ∨ key = declaration.key := by
  rw [keep_eq]
  split_ifs with added
  · simp
  · have taken := (not_or.mp added).2
    exact ⟨.inl, fun either => either.elim id fun same => same ▸ not_not.mp taken⟩

theorem nodup_keys_keep : ((keep members declaration).map Member.key).Nodup ↔
    (members.map Member.key).Nodup ∧
      (declaration.form = .parameter → declaration.key ∉ members.map Member.key) := by
  rw [keep_eq]
  split_ifs with added
  · rw [List.map_append, List.map_singleton, Declaration.key_member, ← List.concat_eq_append,
      List.nodup_concat, and_comm]
    refine and_congr_right fun _ => ⟨fun free _ => free, fun free => ?_⟩
    exact added.elim free id
  · obtain ⟨form, -⟩ := not_or.mp added
    exact (and_iff_left fun parameter => absurd parameter form).symm

/-- Only members of its own key matter to a declaration. -/
theorem filter_keep : (keep members declaration).filter (·.key = key) =
    if declaration.key = key then keep (members.filter (·.key = key)) declaration
    else members.filter (·.key = key) := by
  by_cases same : declaration.key = key
  · subst same
    have known : declaration.key ∈ (members.filter (·.key = declaration.key)).map Member.key ↔
        declaration.key ∈ members.map Member.key := by
      simp
    simp only [if_true, keep_eq, known]
    split <;> simp
  · rw [if_neg same, keep_eq]
    split <;> simp [same]

/-! ### Keeping all declarations -/

/-- The induction carries the keys that are taken before: a parameter may meet one of them as well as one of the
declarations in front of it. -/
theorem nodup_keys_foldl_keep : ((declared.foldl keep members).map Member.key).Nodup ↔
    (members.map Member.key).Nodup ∧
      (∀ declaration ∈ declared, declaration.form = .parameter →
        declaration.key ∉ members.map Member.key) ∧
      declared.Pairwise fun earlier later => later.form = .parameter → earlier.key ≠ later.key := by
  induction declared generalizing members with
  | nil => simp
  | cons declaration rest ih =>
    rw [List.foldl_cons, ih, nodup_keys_keep, List.pairwise_cons, List.forall_mem_cons]
    simp only [mem_keys_keep, not_or, forall_and, eq_comm (b := declaration.key)]
    constructor
    · rintro ⟨⟨unique, first⟩, ⟨others, behind⟩, pairs⟩
      exact ⟨unique, ⟨first, others⟩, behind, pairs⟩
    · rintro ⟨unique, ⟨first, others⟩, behind, pairs⟩
      exact ⟨⟨unique, first⟩, ⟨others, behind⟩, pairs⟩

/-- Keys do not interfere, so each can be followed on its own. -/
theorem filter_foldl_keep : (declared.foldl keep members).filter (·.key = key) =
    (declared.filter (·.key = key)).foldl keep (members.filter (·.key = key)) := by
  induction declared generalizing members with
  | nil => rfl
  | cons declaration rest ih =>
    rw [List.foldl_cons, ih, filter_keep]
    by_cases same : declaration.key = key
    · rw [if_pos same, List.filter_cons_of_pos (by simpa using same), List.foldl_cons]
    · rw [if_neg same, List.filter_cons_of_neg (by simpa using same)]

theorem foldl_keep_of_mem (same : ∀ declaration ∈ declared, declaration.key = key)
    (taken : key ∈ members.map Member.key) : declared.foldl keep members =
      members ++ (declared.filter (·.form = .parameter)).map Declaration.member := by
  induction declared generalizing members with
  | nil => simp
  | cons declaration rest ih =>
    obtain ⟨rfl, others⟩ := List.forall_mem_cons.mp same
    rw [List.foldl_cons, ih others (mem_keys_keep.mpr (.inl taken)), keep_eq]
    by_cases form : declaration.form = .parameter <;> simp [form, taken]

/-- What is kept of the declarations of one key: the first, and of the others the parameters. -/
def shown : List Declaration → List Declaration
  | [] => []
  | first :: others => first :: others.filter (·.form = .parameter)

theorem mem_of_mem_shown (kept : declaration ∈ shown declared) : declaration ∈ declared := by
  cases declared with
  | nil => exact kept
  | cons first others => exact (List.mem_cons.mp kept).elim (· ▸ List.mem_cons_self) fun later =>
      List.mem_cons_of_mem _ (List.mem_filter.mp later).1

theorem filter_foldl_keep_nil : (declared.foldl keep []).filter (·.key = key) =
    (shown (declared.filter (·.key = key))).map Declaration.member := by
  rw [filter_foldl_keep, List.filter_nil]
  cases split : declared.filter (·.key = key) with
  | nil => rfl
  | cons first others =>
    have same : ∀ declaration ∈ first :: others, declaration.key = key := by
      intro declaration listed
      rw [← split] at listed
      exact of_decide_eq_true (List.mem_filter.mp listed).2
    obtain ⟨fits, rest⟩ := List.forall_mem_cons.mp same
    rw [List.foldl_cons, keep_eq, if_pos (.inr (by simp)), List.nil_append,
      foldl_keep_of_mem rest (by simpa using fits.symm)]
    rfl

/-! ### The members of a class -/

theorem isModified_eq (parameter : Node) :
    isModified parameter = !((accessWord? parameter).isNone && !parameter.hasKeyword "readonly") := by
  rw [isModified, accessWord?, Option.isNone_map, ← Option.not_isSome, List.isSome_find?, ← Bool.not_or,
    Bool.not_not]

theorem parameterProperty?_eq (parameter : Node) :
    parameterProperty? parameter = (property? parameter).map Declaration.member := by
  change (if isParameter parameter = true then
    if ((accessWord? parameter).isNone && !parameter.hasKeyword "readonly") = true then none
    else (parameter.child? .pattern).map (parameterMember parameter) else none) = _
  rw [property?, isModified_eq]
  cases isParameter parameter <;>
    cases (accessWord? parameter).isNone && !parameter.hasKeyword "readonly" <;>
    simp [Function.comp_def, Declaration.member]

theorem of_property?_eq_some {parameter : Node} (found : property? parameter = some declaration) :
    declaration.form = .parameter ∧ declaration.node = parameter ∧ isModified parameter = true := by
  rw [property?] at found
  split_ifs at found with modified
  obtain ⟨pattern, -, rfl⟩ := Option.map_eq_some_iff.mp found
  exact ⟨rfl, rfl, (Bool.and_eq_true_iff.mp modified).2⟩

theorem foldl_keep_properties (members : List Member) (parameters : List Node) :
    (parameters.filterMap property?).foldl keep members =
      members ++ parameters.filterMap parameterProperty? := by
  induction parameters generalizing members with
  | nil => simp
  | cons parameter rest ih =>
    simp only [List.filterMap_cons, parameterProperty?_eq parameter]
    cases found : property? parameter with
    | none => exact ih members
    | some declaration =>
      obtain ⟨form, -⟩ := of_property?_eq_some found
      simp only [Option.map_some, List.foldl_cons, ih, keep_eq, form, true_or, if_true, List.append_assoc,
        List.singleton_append]

theorem contribute_contribution (members : List Member) (part : Node) :
    contribute members (contribution part) = (declaredIn bearsName part).foldl keep members := by
  simp only [contribution, declaredIn, bearsName, decide_eq_true_eq]
  cases part.child? .name with
  | none => rfl
  | some name =>
    simp only
    split_ifs with method constructs field
    · rw [foldl_keep_properties, parametersOf]
      simp only [contribute, parameterProperties]
      cases part.child? .parameters <;> simp
    all_goals rfl

theorem membersOf_classMembers (type : Node) :
    membersOf classMembers type = (declarations bearsName type).foldl keep [] := by
  rw [declarations, List.foldl_flatMap, partsOf, membersOf]
  cases type.child? .body with
  | none => rfl
  | some body =>
    simp only [Option.map_some, Option.getD_some, classMembers, List.foldl_map, contribute_contribution]

/-- `type` is what the outline of a tree has of the class `node`. -/
structure Outlines (node : Node) (type : TypeDefinition) : Prop where
  isClass : isClass node = true
  defined : definition? node = some type

namespace Outlines

variable {node : Node} {type : TypeDefinition}

theorem mem_types (outlines : Outlines node type) {tree : Node} (visited : node ∈ tree.visit) :
    type ∈ (ofTree tree).types :=
  List.mem_filterMap.mpr ⟨node, visited, outlines.defined⟩

theorem members_eq (outlines : Outlines node type) :
    type.members = (declarations bearsName node).foldl keep [] := by
  obtain ⟨name, -, defined⟩ := Option.bind_eq_some_iff.mp outlines.defined
  rw [if_pos outlines.isClass, Option.some.injEq] at defined
  rw [← defined, membersOf_classMembers]

theorem filter_members (outlines : Outlines node type) (key : String × Bool) :
    type.members.filter (·.key = key) =
      (shown ((declarations bearsName node).filter (·.key = key))).map Declaration.member := by
  rw [outlines.members_eq, filter_foldl_keep_nil]

theorem find?_members (outlines : Outlines node type) (key : String × Bool) :
    type.members.find? (·.key = key) =
      ((declarations bearsName node).find? (·.key = key)).map Declaration.member := by
  rw [← List.head?_filter, ← List.head?_filter, outlines.filter_members]
  cases (declarations bearsName node).filter (·.key = key) <;> rfl

end Outlines

/-- A key has the member of its first declaration. The members of a class have different keys exactly if no
property of a constructor stands behind a declaration of its key. -/
theorem members_unique_iff {node : Node} {type : TypeDefinition} (outlines : Outlines node type) :
    (∀ tree : Node, node ∈ tree.visit → type ∈ (ofTree tree).types) ∧
    ((type.members.map Member.key).Nodup ↔ (declarations bearsName node).Pairwise fun earlier later =>
      later.form = .parameter → earlier.key ≠ later.key) ∧
    ∀ key, type.members.find? (·.key = key) =
      ((declarations bearsName node).find? (·.key = key)).map Declaration.member := by
  refine ⟨fun _ => outlines.mem_types, ?_, outlines.find?_members⟩
  rw [outlines.members_eq, nodup_keys_foldl_keep]
  simp

/-! ### Small classes -/

def token (kind : Kind) (text : String) : Option Role × Node :=
  (none, .leaf kind " " text)

def named (role : Role) (text : String) : Option Role × Node :=
  (some role, .leaf .word " " text)

def typed (role : Role) (text : String) : Option Role × Node :=
  (some role, .branch .typeClause [token .mark ":", token .word text])

def classOf (name : String) (parts : List Node) : Node :=
  .branch .classDeclaration [token .keyword "class", named .name name,
    (some .body, .branch .classBody (parts.map (none, ·)))]

/-- The class of `log: Log` and `constructor(public log: Audit)`. -/
def logged : Node :=
  classOf "Users" [.branch .fieldDefinition [named .name "log", typed .declaredType "Log"],
    .branch .methodDefinition [named .name "constructor", (some .parameters, .branch .parameters [(none,
      .branch .requiredParameter [token .accessibility "public", named .pattern "log",
        typed .declaredType "Audit"])])]]

/-- What the outline has of it. -/
def loggedType : TypeDefinition :=
  ⟨"Users", .classType, [⟨"log", .property, .everywhere, false, some "Log", none⟩,
    ⟨"log", .property, .everywhere, false, some "Audit", none⟩]⟩

/-- A field that the constructor declares again is there twice. -/
theorem log_there_twice : Outlines logged loggedType ∧
    (declarations bearsName logged).map (fun declaration => (declaration.form, declaration.key)) =
      [(.field, "log", false), (.parameter, "log", false)] ∧
    ¬(loggedType.members.map Member.key).Nodup ∧
    ¬(declarations bearsName logged).Pairwise fun earlier later =>
      later.form = .parameter → earlier.key ≠ later.key := by
  have outlines : Outlines logged loggedType := ⟨rfl, by decide +kernel⟩
  have twice : ¬(loggedType.members.map Member.key).Nodup := by decide
  obtain ⟨-, unique, -⟩ := members_unique_iff outlines
  exact ⟨outlines, by decide +kernel, twice, mt unique.mpr twice⟩

end Outline

end SeedNavigator
