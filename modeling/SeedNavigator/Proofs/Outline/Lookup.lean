import Mathlib.Data.List.Find
import SeedNavigator.Completion.Suggestions

/-! The class of a controller is chosen by its key and found again by its name. The second search does not
ask for a class, so an interface of the same name in front of the class takes its place. -/
namespace SeedNavigator.Outline

/-- `type` is the first class named after the key, with these definitions around it. -/
structure Chosen (outline : Outline) (key : String) (type : TypeDefinition)
    (before after : List TypeDefinition) : Prop where
  types : outline.types = before ++ type :: after
  isClass : type.kind = .classType
  named : isNamedAfter (simplified key) type = true
  first : ∀ other ∈ before, other.kind = .classType → isNamedAfter (simplified key) other = false

/-- The first interface of a name. -/
def interface? (types : List TypeDefinition) (name : String) : Option TypeDefinition :=
  types.find? fun type => type.kind = .interfaceType && type.name = name

variable {outline : Outline} {key : String} {type : TypeDefinition} {before after : List TypeDefinition}

theorem controllerClass?_eq_some_iff :
    outline.controllerClass? key = some type ↔ ∃ before after, Chosen outline key type before after := by
  rw [controllerClass?, List.find?_filter, List.find?_eq_some_iff_append]
  constructor
  · rintro ⟨fits, before, after, types, first⟩
    simp only [decide_eq_true_eq] at fits
    refine ⟨before, after, types, fits.1, fits.2, fun other member isClass => ?_⟩
    simpa [isClass] using first other member
  · rintro ⟨before, after, types, isClass, named, first⟩
    refine ⟨by simp [isClass, named], before, after, types, fun other member => ?_⟩
    cases kind : other.kind with
    | classType => simp [first other member kind]
    | interfaceType => simp

namespace Chosen

/-- A class of the same name is named after the same key, so none stands in front of the first. -/
theorem kind_of_name (chosen : Chosen outline key type before after) {other : TypeDefinition}
    (member : other ∈ before) (same : other.name = type.name) : other.kind = .interfaceType := by
  cases kind : other.kind with
  | interfaceType => rfl
  | classType =>
    have unnamed := chosen.first other member kind
    rw [isNamedAfter, same, ← isNamedAfter, chosen.named] at unnamed
    contradiction

theorem find?_name (chosen : Chosen outline key type before after) :
    outline.find? type.name = some ((interface? before type.name).getD type) := by
  have inFront : before.find? (·.name = type.name) = interface? before type.name := by
    refine List.find?_congr fun other member => ?_
    by_cases same : other.name = type.name
    · simp [same, chosen.kind_of_name member same]
    · simp [same]
  rw [find?, chosen.types, List.find?_append, inFront, List.find?_cons_of_pos (by simp)]
  cases interface? before type.name <;> rfl

theorem find?_name_eq_iff (chosen : Chosen outline key type before after) :
    outline.find? type.name = some type ↔
      ∀ other ∈ before, other.kind = .interfaceType → other.name ≠ type.name := by
  have free : interface? before type.name = none ↔
      ∀ other ∈ before, other.kind = .interfaceType → other.name ≠ type.name := by
    simp [interface?]
  rw [chosen.find?_name, ← free]
  cases taken : interface? before type.name with
  | none => simp
  | some other =>
    have fits : other.kind = .interfaceType ∧ other.name = type.name := by
      simpa using List.find?_some taken
    have apart : other ≠ type := by
      rintro rfl
      simp [chosen.isClass] at fits
    simp [apart]

end Chosen

/-- The chosen class is found again by its name exactly if no interface of this name stands in front of
it. Otherwise the first such interface is found, and chains begin at its members. -/
theorem controllerClass_found_again_iff (outline : Outline) (key : String) (type : TypeDefinition)
    (found : outline.controllerClass? key = some type) :
    ∃ before after, Chosen outline key type before after ∧
      (outline.find? type.name = some type ↔
        ∀ other ∈ before, other.kind = .interfaceType → other.name ≠ type.name) ∧
      outline.find? type.name = some ((interface? before type.name).getD type) ∧
      ∀ chain, Completion.chainType? outline type.name chain =
        chain.foldlM (Completion.follow? outline) ((interface? before type.name).getD type) := by
  obtain ⟨before, after, chosen⟩ := controllerClass?_eq_some_iff.mp found
  refine ⟨before, after, chosen, chosen.find?_name_eq_iff, chosen.find?_name, fun chain => ?_⟩
  rw [Completion.chainType?, chosen.find?_name]
  rfl

/-- Where an interface and a class of one name are merged, the first declaration is found. -/
theorem merged_class_lost_behind_interface :
    (Outline.mk [⟨"Users", .interfaceType, []⟩, ⟨"Users", .classType, []⟩]).controllerClass? "users" =
      some ⟨"Users", .classType, []⟩ ∧
    (Outline.mk [⟨"Users", .interfaceType, []⟩, ⟨"Users", .classType, []⟩]).find? "Users" =
      some ⟨"Users", .interfaceType, []⟩ ∧
    ∃ before after, Chosen ⟨[⟨"Users", .interfaceType, []⟩, ⟨"Users", .classType, []⟩]⟩ "users"
        ⟨"Users", .classType, []⟩ before after ∧
      ∃ other ∈ before, other.kind = .interfaceType ∧ other.name = "Users" := by
  have found : (Outline.mk [⟨"Users", .interfaceType, []⟩, ⟨"Users", .classType, []⟩]).controllerClass?
      "users" = some ⟨"Users", .classType, []⟩ := by
    decide +kernel
  obtain ⟨before, after, chosen, again, -⟩ := controllerClass_found_again_iff _ _ _ found
  have lost : ¬(Outline.mk [⟨"Users", .interfaceType, []⟩, ⟨"Users", .classType, []⟩]).find? "Users" =
      some ⟨"Users", .classType, []⟩ := by
    decide
  refine ⟨found, by decide, before, after, chosen, ?_⟩
  simpa using mt again.mpr lost

end SeedNavigator.Outline
