import Mathlib.Data.List.Basic
import SeedNavigator.Completion.Suggestions

/-! Chains of members, followed from type to type. A type may have several public members of one name, and
not each of them leads on. The chain takes the first, so it can be walked and yet not be followed. -/
namespace SeedNavigator.Completion

variable {outline : Outline} {className name : String} {chain : List String}
  {type next last : TypeDefinition}

/-- A public member of the name, other than a method, whose declared type is one of the source. -/
def Leads (outline : Outline) (type : TypeDefinition) (name : String) (next : TypeDefinition) : Prop :=
  ∃ member ∈ type.publicMembers, member.name = name ∧ member.kind ≠ .method ∧
    ∃ declared, member.declaredType = some declared ∧
      outline.find? (String.ofList (Text.trim declared.toList)) = some next

/-- Any member that leads on may be taken at a segment. -/
inductive Walk (outline : Outline) : TypeDefinition → List String → TypeDefinition → Prop where
  | done {type : TypeDefinition} : Walk outline type [] type
  | step {type next last : TypeDefinition} {name : String} {chain : List String} :
      Leads outline type name next → Walk outline next chain last → Walk outline type (name :: chain) last

def Walkable (outline : Outline) (type : TypeDefinition) (chain : List String) : Prop :=
  ∃ last, Walk outline type chain last

theorem leads_of_follow? (followed : follow? outline type name = some next) : Leads outline type name next := by
  obtain ⟨member, taken, goesOn⟩ := Option.bind_eq_some_iff.mp followed
  obtain ⟨declared, typed, found⟩ := Option.bind_eq_some_iff.mp goesOn
  have fits := List.find?_some taken
  simp only [Bool.and_eq_true, decide_eq_true_eq] at fits
  exact ⟨member, List.mem_of_find?_eq_some taken, fits.1, fits.2, declared, typed, found⟩

theorem walk_of_foldlM (followed : chain.foldlM (follow? outline) type = some last) :
    Walk outline type chain last := by
  induction chain generalizing type with
  | nil =>
    obtain rfl := Option.some.inj followed
    exact .done
  | cons name rest ih =>
    obtain ⟨next, first, others⟩ := Option.bind_eq_some_iff.mp followed
    exact .step (leads_of_follow? first) (ih others)

/-- Behind some of the chain the rest can be walked, but not through the first member of its next name. -/
def MisledFrom (outline : Outline) (type : TypeDefinition) (chain : List String) : Prop :=
  ∃ before name after reached, chain = before ++ name :: after ∧
    before.foldlM (follow? outline) type = some reached ∧ Walkable outline reached (name :: after) ∧
    ∀ next, follow? outline reached name = some next → ¬Walkable outline next after

theorem MisledFrom.cons (followed : follow? outline type name = some next)
    (misled : MisledFrom outline next chain) : MisledFrom outline type (name :: chain) := by
  obtain ⟨before, other, after, reached, rfl, way, rest⟩ := misled
  refine ⟨name :: before, other, after, reached, rfl, ?_, rest⟩
  rw [List.foldlM_cons, followed]
  exact way

theorem followed_or_misled (walkable : Walkable outline type chain) :
    (∃ last, chain.foldlM (follow? outline) type = some last) ∨ MisledFrom outline type chain := by
  induction chain generalizing type with
  | nil => exact .inl ⟨type, rfl⟩
  | cons name rest ih =>
    -- Where the first member leads does not matter unless the rest can be walked from there.
    by_cases leads : ∃ next, follow? outline type name = some next ∧ Walkable outline next rest
    · obtain ⟨next, first, onward⟩ := leads
      refine (ih onward).imp (fun followed => ?_) (.cons first)
      rwa [List.foldlM_cons, first]
    · exact .inr ⟨[], name, rest, type, rfl, rfl, walkable, fun next first onward =>
        leads ⟨next, first, onward⟩⟩

theorem foldlM_of_misled (misled : MisledFrom outline type chain) :
    chain.foldlM (follow? outline) type ≠ some last := by
  intro followed
  obtain ⟨before, name, after, reached, rfl, way, -, astray⟩ := misled
  rw [List.foldlM_append, way] at followed
  have rest : (name :: after).foldlM (follow? outline) reached = some last := followed
  obtain ⟨next, first, others⟩ := Option.bind_eq_some_iff.mp rest
  exact astray next first ⟨last, walk_of_foldlM others⟩

/-- A followed chain has been walked. A chain that can be walked is followed unless it is misled: at one of its
segments the first member of the name leads nowhere, or to a type from which the rest cannot be walked. -/
theorem chain_followed_iff (outline : Outline) (className : String) (chain : List String) :
    (∀ last, chainType? outline className chain = some last →
      ∃ start, outline.find? className = some start ∧ Walk outline start chain last) ∧
    ((∃ last, chainType? outline className chain = some last) ↔
      ∃ start, outline.find? className = some start ∧ Walkable outline start chain ∧
        ¬MisledFrom outline start chain) := by
  have starts (last : TypeDefinition) : chainType? outline className chain = some last ↔
      ∃ start, outline.find? className = some start ∧ chain.foldlM (follow? outline) start = some last :=
    Option.bind_eq_some_iff
  simp only [starts]
  refine ⟨?_, ?_, ?_⟩
  · rintro last ⟨start, found, followed⟩
    exact ⟨start, found, walk_of_foldlM followed⟩
  · rintro ⟨last, start, found, followed⟩
    exact ⟨start, found, ⟨last, walk_of_foldlM followed⟩, fun misled => foldlM_of_misled misled followed⟩
  · rintro ⟨start, found, walkable, straight⟩
    obtain ⟨last, followed⟩ := (followed_or_misled walkable).resolve_right straight
    exact ⟨last, start, found, followed⟩

/-- A static field without a type before a field of the same name with one. -/
def owners : Outline :=
  ⟨[⟨"Users", .classType, [⟨"owner", .property, .everywhere, true, none, none⟩,
    ⟨"owner", .property, .everywhere, false, some "Owner", none⟩]⟩, ⟨"Owner", .classType, []⟩]⟩

/-- The second of two members leads on, and the first hides it. -/
theorem owner_hidden_by_static : chainType? owners "Users" ["owner"] = none ∧
    ∃ start, owners.find? "Users" = some start ∧ Walkable owners start ["owner"] ∧
      MisledFrom owners start ["owner"] := by
  have lost : chainType? owners "Users" ["owner"] = none := by decide +kernel
  obtain ⟨start, found⟩ : ∃ start, owners.find? "Users" = some start := ⟨_, rfl⟩
  have walkable : Walkable owners start ["owner"] := by
    obtain rfl := Option.some.inj found
    exact ⟨⟨"Owner", .classType, []⟩, .step ⟨⟨"owner", .property, .everywhere, false, some "Owner", none⟩,
      by decide, rfl, by decide, "Owner", rfl, by decide +kernel⟩ .done⟩
  refine ⟨lost, start, found, walkable, ?_⟩
  by_contra straight
  obtain ⟨last, followed⟩ := (chain_followed_iff owners "Users" ["owner"]).2.mpr
    ⟨start, found, walkable, straight⟩
  rw [lost] at followed
  contradiction

end SeedNavigator.Completion
