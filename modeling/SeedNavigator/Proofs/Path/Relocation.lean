import SeedNavigator.Path.Mapping
import SeedNavigator.Proofs.Path.Search
import Mathlib.Data.List.TakeWhile

/-! When a path is relocated, and to where. A file lies on a side if the search finds the base of the side
in its path and a name is left between the base and the suffix. Relocating keeps all of the path but
these two. -/
namespace SeedNavigator

open SeedNavigator.Text

/-- The path of a file on a side: `below` is the way from the base to the file, without the suffix. -/
def Side.place (side : Side) (before below : List Char) : List Char :=
  before ++ side.base.toList ++ '/' :: (below ++ side.suffix.toList)

/-- The base is found behind `before`, and a file with the suffix of the side lies below it. -/
structure Side.Holds (side : Side) (path before below : List Char) : Prop where
  found : Path.findSegment path side.base.toList =
    some ⟨before, '/' :: (below ++ side.suffix.toList)⟩
  named : below ≠ []
  file : below.getLast? ≠ some '/'

variable {side here there : Side} {path before below normal counterpart : List Char}

theorem Side.Holds.path_eq (h : side.Holds path before below) : path = side.place before below :=
  (Path.findSegment_sound h.found).parts

namespace Mapper

theorem isNameless_slash :
    isNameless ('/' :: below) = false ↔ below ≠ [] ∧ below.getLast? ≠ some '/' := by
  cases below with
  | nil => simp [isNameless]
  | cons c rest =>
    have someName : (c :: rest).getLast? ≠ some '/' → (c :: rest).dropWhile (· = '/') ≠ [] := by
      intro file empty
      have all := List.dropWhile_eq_nil_iff.mp empty _ (List.getLast_mem (List.cons_ne_nil c rest))
      exact file (by rw [List.getLast?_eq_some_getLast (List.cons_ne_nil c rest), of_decide_eq_true all])
    have keep : ('/' :: c :: rest).dropWhile (· = '/') = (c :: rest).dropWhile (· = '/') := rfl
    rw [isNameless, List.getLast?_cons_cons, keep]
    simpa using someName

theorem relocateChars_eq_some_iff : relocateChars here there normal = some counterpart ↔
    ∃ before below, here.Holds normal before below ∧ counterpart = there.place before below := by
  constructor
  · intro h
    unfold relocateChars at h
    split at h
    · rename_i place stem found cut
      dsimp only at h
      split at h
      · contradiction
      rename_i kept
      obtain rfl := Option.some.inj h
      have stands := Path.findSegment_sound found
      have whole := beforeSuffix?_eq_some_iff.mp cut
      generalize taken : stem.drop (place.before.length + here.base.toList.length) = rest at kept ⊢
      have busy : rest ≠ [] := by
        rintro rfl
        exact kept rfl
      -- the suffix does not reach into the base, so the rest of the stem begins where the base ends
      have after : place.after = rest ++ here.suffix.toList := by
        have width : place.before.length + here.base.toList.length ≤ stem.length := by
          have := List.length_pos_iff.mpr busy
          rw [← taken, List.length_drop] at this
          omega
        rw [← taken, ← List.drop_append_of_le_length width, ← whole, stands.parts,
          List.drop_left' (by simp)]
      obtain ⟨c, below, rfl⟩ := List.exists_cons_of_ne_nil busy
      have slash : c = '/' := by simpa [after, Path.endsClean] using stands.finish
      subst slash
      obtain ⟨named, file⟩ := isNameless_slash.mp (Bool.eq_false_iff.mpr kept)
      refine ⟨place.before, below, ⟨?_, named, file⟩, by simp [Side.place]⟩
      rw [found, ← List.cons_append, ← after]
    · contradiction
  · rintro ⟨before, below, holds, rfl⟩
    have cut : beforeSuffix? here.suffix.toList normal =
        some (before ++ here.base.toList ++ '/' :: below) :=
      beforeSuffix?_eq_some_iff.mpr (by simp [holds.path_eq, Side.place])
    have kept := isNameless_slash.mpr ⟨holds.named, holds.file⟩
    simp [relocateChars, holds.found, cut, kept, Side.place]

theorem relocate_eq_mapped_iff {path source target : String} :
    relocate here there path = .mapped source target ↔
      source.toList = Path.normalizeChars path.toList ∧ ∃ before below,
        here.Holds source.toList before below ∧ target.toList = there.place before below := by
  have text (a : String) (b : List Char) : String.ofList b = a ↔ a.toList = b := by
    constructor <;> rintro rfl <;> simp
  have moves : relocate here there path = .mapped source target ↔
      source.toList = Path.normalizeChars path.toList ∧
        relocateChars here there (Path.normalizeChars path.toList) = some target.toList := by
    simp only [relocate]
    cases relocateChars here there (Path.normalizeChars path.toList) with
    | none => simp
    | some counterpart =>
      rw [Mapping.mapped.injEq, text, text, Option.some.injEq, eq_comm (a := counterpart)]
  rw [moves, and_congr_right fun normal => ?_]
  rw [relocateChars_eq_some_iff, normal]

theorem target?_eq_none_iff {path : String} :
    (relocate here there path).target? = none ↔ relocate here there path = .unchanged path := by
  simp only [relocate]
  cases relocateChars here there (Path.normalizeChars path.toList) with
  | none => simp [Mapping.target?]
  | some counterpart => simp [Mapping.target?]

theorem target?_ne_none_iff {path : String} : (relocate here there path).target? ≠ none ↔
    ∃ source target, relocate here there path = .mapped source target := by
  cases outcome : relocate here there path with
  | mapped source target => simp [Mapping.target?]
  | unchanged same => simp [Mapping.target?]

theorem relocate_eq_unchanged_iff {path : String} : relocate here there path = .unchanged path ↔
    ∀ source target, relocate here there path ≠ .mapped source target := by
  rw [← target?_eq_none_iff, ← not_iff_not, ← ne_eq, target?_ne_none_iff]
  simp

end Mapper

end SeedNavigator
