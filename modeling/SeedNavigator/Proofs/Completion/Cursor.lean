import SeedNavigator.Project.Templates
import SeedNavigator.Proofs.Command.Members
import SeedNavigator.Proofs.Text.Boundary

/-! Cursors in the text of a view. Editors give them in bytes, so they may stand within a character or past
the end. The text is cut at the last place between two characters that is not behind the cursor, and what can
be written there depends on this place alone. -/
namespace SeedNavigator.Completion

open SeedNavigator.Text

variable {text before behind : String} {c : Char} {offset later place next inner : Nat}

theorem boundaryBefore?_eq_some_iff : boundaryBefore? text offset = some place ↔
    IsGreatest {between | IsBetween text between ∧ between ≤ min offset text.utf8ByteSize} place :=
  lastBoundary?_eq_some_iff

theorem exists_boundaryBefore? (text : String) (offset : Nat) :
    ∃ place, boundaryBefore? text offset = some place :=
  exists_lastBoundary? text (min offset text.utf8ByteSize)

theorem textBefore?_of_boundary (split : text = before ++ behind)
    (found : boundaryBefore? text offset = some before.utf8ByteSize) :
    textBefore? text offset = some before := by
  rw [textBefore?, found, Option.bind_some, split, upTo?_append]

/-- A later cursor has at least the places that an earlier one has. -/
theorem boundaryBefore?_mono (order : offset ≤ later) (found : boundaryBefore? text offset = some place)
    (foundLater : boundaryBefore? text later = some next) : place ≤ next := by
  refine (boundaryBefore?_eq_some_iff.mp found).mono (boundaryBefore?_eq_some_iff.mp foundLater) ?_
  rintro between ⟨own, low⟩
  exact ⟨own, by omega⟩

theorem boundaryBefore?_within (before behind : String) (inside : inner < c.utf8Size) :
    boundaryBefore? (before ++ String.singleton c ++ behind) (before.utf8ByteSize + inner) =
      some before.utf8ByteSize := by
  have own : IsBetween (before ++ String.singleton c ++ behind) before.utf8ByteSize :=
    ⟨before, String.singleton c ++ behind, String.append_assoc, rfl⟩
  have size : (before ++ String.singleton c ++ behind).utf8ByteSize =
      before.utf8ByteSize + c.utf8Size + behind.utf8ByteSize := by
    rw [String.utf8ByteSize_append, String.utf8ByteSize_append, String.utf8ByteSize_singleton]
  refine boundaryBefore?_eq_some_iff.mpr ⟨⟨own, by omega⟩, ?_⟩
  rintro other ⟨between, low⟩
  exact between.le_of_lt (by omega)

/-- Within a character the text before the cursor is the one before the character. -/
theorem textBefore_within (before behind : String) (inside : inner < c.utf8Size) :
    textBefore (before ++ String.singleton c ++ behind) (before.utf8ByteSize + inner) = before := by
  have split : before ++ String.singleton c ++ behind = before ++ (String.singleton c ++ behind) :=
    String.append_assoc
  have cut := textBefore?_of_boundary split (boundaryBefore?_within before behind inside)
  exact Option.get_of_eq_some _ cut

/-- A cursor may stand anywhere. The search ends at the last place between two characters up to the cursor and
the end of the text, which can be cut there; a later cursor has no earlier place; and within a character it
makes no difference to what can be written. -/
theorem cursor_anywhere (text : String) :
    (∀ offset, ∃ place before behind,
      boundaryBefore? text offset = some place ∧
      IsGreatest {between | IsBetween text between ∧ between ≤ min offset text.utf8ByteSize} place ∧
      upTo? text place = some before ∧ before.utf8ByteSize = place ∧ text = before ++ behind) ∧
    (∀ {offset later place next}, offset ≤ later → boundaryBefore? text offset = some place →
      boundaryBefore? text later = some next → place ≤ next) ∧
    ∀ {m : Type → Type} [Monad m] (host : Host m) (project : Project) (mapper : Mapper) (view : String)
      {before behind : String} {c : Char} {inner : Nat},
      text = before ++ String.singleton c ++ behind → inner < c.utf8Size →
      Templates.complete host project mapper view text (before.utf8ByteSize + inner) =
        Templates.complete host project mapper view text before.utf8ByteSize := by
  refine ⟨fun offset => ?_, boundaryBefore?_mono, ?_⟩
  · obtain ⟨place, found⟩ := exists_boundaryBefore? text offset
    have greatest := boundaryBefore?_eq_some_iff.mp found
    obtain ⟨before, behind, rfl, rfl⟩ := greatest.1.1
    exact ⟨_, before, behind, found, greatest, upTo?_append before behind, rfl, rfl⟩
  · rintro m _ host project mapper view before behind c inner rfl inside
    have first := textBefore_within before behind (Char.utf8Size_pos c)
    rw [Nat.add_zero] at first
    rw [Templates.complete, Templates.complete, textBefore_within before behind inside, first]

/-- The second byte of an accented letter is no place for a cursor, and neither is the room behind the end. -/
theorem cursor_moved_off_accented_letter :
    boundaryBefore? "é\x7b\x7bvm." 1 = some 0 ∧ boundaryBefore? "é\x7b\x7bvm." 100 = some 7 ∧ 0 ≤ 7 ∧
    1 < 'é'.utf8Size ∧
    Templates.complete Command.usersHost Command.usersProject Command.usersMapper "/v/users.html"
        "é\x7b\x7bvm." 1 =
      Templates.complete Command.usersHost Command.usersProject Command.usersMapper "/v/users.html"
        "é\x7b\x7bvm." 0 := by
  obtain ⟨-, ordered, alike⟩ := cursor_anywhere "é\x7b\x7bvm."
  have first : boundaryBefore? "é\x7b\x7bvm." 1 = some 0 := by decide +kernel
  have last : boundaryBefore? "é\x7b\x7bvm." 100 = some 7 := by decide +kernel
  have split : "é\x7b\x7bvm." = "" ++ String.singleton 'é' ++ "\x7b\x7bvm." := by decide +kernel
  have inside : 1 < 'é'.utf8Size := by decide
  refine ⟨first, last, ordered (by decide) first last, inside, ?_⟩
  simpa using alike Command.usersHost Command.usersProject Command.usersMapper "/v/users.html" split inside

end SeedNavigator.Completion
