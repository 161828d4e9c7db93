import SeedNavigator.Text.Pieces

/-! Where a word stands in a text that is joined from parts. A character that is not in the word divides the
text, and one that is only its first keeps the word from beginning in front of it. -/
namespace SeedNavigator.Text

variable {c : Char} {word front back : List Char}

theorem eq_nil_of_prefix_cons (apart : c ∉ word) (begins : word <+: c :: back) : word = [] := by
  rcases List.prefix_cons_iff.mp begins with rfl | ⟨rest, rfl, -⟩
  · rfl
  · simp at apart

theorem infix_cons_separated (apart : c ∉ word) : word <:+: c :: back ↔ word <:+: back := by
  rw [List.infix_cons_iff]
  constructor
  · rintro (begins | inside)
    · rw [eq_nil_of_prefix_cons apart begins]
      exact List.nil_infix
    · exact inside
  · exact .inr

/-- A word lies on one side of a character that it does not have. -/
theorem infix_separated (apart : c ∉ word) :
    word <:+: front ++ c :: back ↔ word <:+: front ∨ word <:+: back := by
  rw [List.infix_append_iff, infix_cons_separated apart]
  constructor
  · rintro (inside | inside | ⟨left, right, rfl, ends, begins⟩)
    · exact .inl inside
    · exact .inr inside
    · rw [eq_nil_of_prefix_cons (fun inside => apart (List.mem_append_right _ inside)) begins, List.append_nil]
      exact .inl ends.isInfix
  · rintro (inside | inside)
    · exact .inl inside
    · exact .inr (.inl inside)

end SeedNavigator.Text
