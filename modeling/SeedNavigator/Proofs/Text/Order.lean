import SeedNavigator.Proofs.Text.Utf8

/-! Sorting by the bytes of a text. Elements of equal texts stay in the order in which they were given, so
there is one way at most to sort a list, and taking elements out of a sorted list is sorting what is left. -/
namespace SeedNavigator.Text

variable {α : Type} {key : α → String} {given sorted other : List α}

/-- The given elements in the order of their texts, those of one text in the order of the given list. -/
structure Sorts (key : α → String) (given sorted : List α) : Prop where
  ascending : sorted.Pairwise fun a b => (key a).toUTF8.toList ≤ (key b).toUTF8.toList
  stable : ∀ text, sorted.filter (key · = text) = given.filter (key · = text)

theorem toUTF8_le_iff {text other : String} : text.toUTF8.toList ≤ other.toUTF8.toList ↔ text ≤ other :=
  not_congr toUTF8_lt_iff

namespace Sorts

theorem mem_iff (sorts : Sorts key given sorted) {a : α} : a ∈ sorted ↔ a ∈ given := by
  have member (list : List α) : a ∈ list ↔ a ∈ list.filter (key · = key a) := by simp
  rw [member sorted, member given, sorts.stable]

theorem filter (sorts : Sorts key given sorted) (keep : α → Bool) :
    Sorts key (given.filter keep) (sorted.filter keep) where
  ascending := sorts.ascending.filter keep
  stable text := by
    have commuted (list : List α) :
        (list.filter keep).filter (key · = text) = (list.filter (key · = text)).filter keep := by
      rw [List.filter_filter, List.filter_filter]
      exact List.filter_congr fun a _ => Bool.and_comm ..
    rw [commuted, commuted, sorts.stable]

/-- The first element has the least text, and among those of this text it was given first. -/
theorem head_eq {a b : α} {rest rest' : List α} (sorts : Sorts key given (a :: rest))
    (other : Sorts key given (b :: rest')) : a = b := by
  have least : key a ≤ key b := by
    rcases List.mem_cons.mp (sorts.mem_iff.mpr (other.mem_iff.mp List.mem_cons_self)) with rfl | later
    · exact String.le_refl _
    · exact toUTF8_le_iff.mp (List.rel_of_pairwise_cons sorts.ascending later)
  have least' : key b ≤ key a := by
    rcases List.mem_cons.mp (other.mem_iff.mpr (sorts.mem_iff.mp List.mem_cons_self)) with rfl | later
    · exact String.le_refl _
    · exact toUTF8_le_iff.mp (List.rel_of_pairwise_cons other.ascending later)
  have level : key b = key a := String.le_antisymm least' least
  have first := (sorts.stable (key a)).trans (other.stable (key a)).symm
  simpa [level] using congrArg List.head? first

theorem unique (sorts : Sorts key given sorted) (again : Sorts key given other) : sorted = other := by
  induction sorted generalizing given other with
  | nil =>
    apply (List.eq_nil_iff_forall_not_mem.mpr ?_).symm
    intro a member
    exact List.not_mem_nil (sorts.mem_iff.mpr (again.mem_iff.mp member))
  | cons a rest ih =>
    cases other with
    | nil => exact (List.not_mem_nil (again.mem_iff.mpr (sorts.mem_iff.mp List.mem_cons_self))).elim
    | cons b rest' =>
      obtain rfl := sorts.head_eq again
      have same : Sorts key rest' rest := by
        refine ⟨sorts.ascending.of_cons, fun text => ?_⟩
        have whole := (sorts.stable text).trans (again.stable text).symm
        by_cases own : key a = text <;> simpa [own] using whole
      rw [ih same ⟨again.ascending.of_cons, fun text => rfl⟩]

end Sorts

end SeedNavigator.Text
