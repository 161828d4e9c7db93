import Mathlib
import SeedNavigator.Completion.Suggestions
import SeedNavigator.Proofs.Completion.Context
import SeedNavigator.Proofs.Text.Order

/-! Typing on at the end of an access. The access stays the one it was, with a longer beginning of a name at
its end, so fewer members of the same type are left, and they keep their order. -/
namespace SeedNavigator.Completion

open SeedNavigator.Text

variable {name className text more typed label : String} {outline : Outline} {context : Context}

/-- What the type at the end of the chain declares to the public and begins as typed, in the order of the
declarations. -/
def declared (outline : Outline) (className : String) (context : Context) : List Suggestion :=
  match chainType? outline className context.chain with
  | none => []
  | some type => (type.publicMembers.map Suggestion.ofMember).filter fun suggestion =>
      context.typed.toList <+: suggestion.label.toList

end SeedNavigator.Completion
