import SeedNavigator.Path.Mapping
import SeedNavigator.Proofs.Path.NormalForm
import SeedNavigator.Proofs.Path.Relocation

/-! The keys of a controller and the place of its view. Both keys and the view are read off the same part of
the path, between the base and the suffix. A file that is named by the suffix alone, in a directory below the
base, has the directory as its route key but no view. Where there is a view, the last name of its path tells
it from its controller. -/
namespace SeedNavigator

open SeedNavigator.Text SeedNavigator.Path

variable {here there : Side} {mapper : Mapper} {path key : String} {before below : List Char}

/-- No separator follows another one in a normal path. -/
theorem Path.IsNormal.dropWhile_slash {front back : List Char} (h : IsNormal (front ++ '/' :: back)) :
    ('/' :: back).dropWhile (· = '/') = back := by
  cases back with
  | nil => rfl
  | cons c rest =>
    have apart : c ≠ '/' := by
      rintro rfl
      have first := h.proper_behind (by simp) [] (by simp [pieces])
      exact first.nonempty rfl
    simp [apart]

/-- What follows a base in a normal path begins with one separator, unless nothing follows. -/
theorem Path.Stands.dropWhile_after_eq_iff {segment normal rest : List Char} {place : Split}
    (stands : Stands segment normal place) (h : IsNormal normal) (nonempty : rest ≠ []) :
    place.after.dropWhile (· = '/') = rest ↔ place.after = '/' :: rest := by
  obtain ⟨before, after⟩ := place
  cases after with
  | nil => simpa using nonempty.symm
  | cons c back =>
    obtain rfl : c = '/' := by simpa [endsClean] using stands.finish
    rw [IsNormal.dropWhile_slash (stands.parts ▸ h), List.cons.injEq, and_iff_right rfl]

/-! ### File names -/

theorem Side.afterLast_place {side : Side} (slash : '/' ∉ side.suffix.toList) (before below : List Char) :
    afterLast '/' (side.place before below) = afterLast '/' below ++ side.suffix.toList := by
  rw [Side.place, afterLast_append_sep, afterLast_append_of_notMem _ slash]

/-- Whatever the bases make up for, the name before the suffix is the same in both places. -/
theorem Side.place_ne_place (distinct : here.suffix ≠ there.suffix) (own : '/' ∉ here.suffix.toList)
    (other : '/' ∉ there.suffix.toList) (before below : List Char) :
    there.place before below ≠ here.place before below := by
  intro same
  have names := congrArg (afterLast '/') same
  rw [Side.afterLast_place other, Side.afterLast_place own, List.append_cancel_left_eq] at names
  exact distinct (String.toList_inj.mp names.symm)

namespace Mapper

theorem relocate_elsewhere (distinct : here.suffix ≠ there.suffix) (own : '/' ∉ here.suffix.toList)
    (other : '/' ∉ there.suffix.toList) {source target : String}
    (mapped : relocate here there path = .mapped source target) :
    source = Path.normalize path ∧ target ≠ source := by
  obtain ⟨normal, before, below, holds, text⟩ := relocate_eq_mapped_iff.mp mapped
  refine ⟨by rw [Path.normalize, ← normal, String.ofList_toList], ?_⟩
  rintro rfl
  exact Side.place_ne_place distinct own other before below (text.symm.trans holds.path_eq)

/-- Whatever the bases are, no file is its own counterpart. -/
theorem mapped_elsewhere (mapper : Mapper) (distinct : mapper.controllers.suffix ≠ mapper.views.suffix)
    (controllers : '/' ∉ mapper.controllers.suffix.toList) (views : '/' ∉ mapper.views.suffix.toList)
    (path source target : String)
    (mapped : mapper.toView path = .mapped source target ∨ mapper.toController path = .mapped source target) :
    source = Path.normalize path ∧ target ≠ source := by
  rcases mapped with viewed | controlled
  · exact relocate_elsewhere distinct controllers views viewed
  · exact relocate_elsewhere distinct.symm views controllers controlled

/-- The base of the controllers goes on where the one of the views ends, and so does the suffix. -/
theorem nested_bases_mapped_elsewhere :
    (Mapper.mk ⟨"app/app", "p"⟩ ⟨"app", "pp"⟩).toView "./app/app/ap" = .mapped "app/app/ap" "app/app" ∧
    "app/app/ap" = Path.normalize "./app/app/ap" ∧ "app/app" ≠ "app/app/ap" := by
  have mapped : (Mapper.mk ⟨"app/app", "p"⟩ ⟨"app", "pp"⟩).toView "./app/app/ap" =
      .mapped "app/app/ap" "app/app" := by decide +kernel
  exact ⟨mapped, mapped_elsewhere _ (by decide) (by decide) (by decide) _ _ _ (.inl mapped)⟩

/-! ### Keys -/

/-- The key is what the search leaves behind the base, up to the suffix. -/
theorem routeKey?_eq_some_iff : mapper.routeKey? path = some key ↔
    key ≠ "" ∧ ∃ before, findSegment (normalizeChars path.toList) mapper.controllers.base.toList =
      some ⟨before, '/' :: (key.toList ++ mapper.controllers.suffix.toList)⟩ := by
  rw [routeKey?]
  cases found : findSegment (normalizeChars path.toList) mapper.controllers.base.toList with
  | none => simp
  | some place =>
    have stands := findSegment_sound found
    have behind : key ≠ "" → (place.after = '/' :: (key.toList ++ mapper.controllers.suffix.toList) ↔
        beforeSuffix? mapper.controllers.suffix.toList (place.after.dropWhile (· = '/')) =
          some key.toList) := fun named => by
      rw [beforeSuffix?_eq_some_iff,
        stands.dropWhile_after_eq_iff (isNormal_normalizeChars path.toList) (by simp [named])]
    have whole : (∃ before, some place =
        some ⟨before, '/' :: (key.toList ++ mapper.controllers.suffix.toList)⟩) ↔
        place.after = '/' :: (key.toList ++ mapper.controllers.suffix.toList) := by
      obtain ⟨before, after⟩ := place
      simp
    rw [whole, and_congr_right behind]
    dsimp only
    cases beforeSuffix? mapper.controllers.suffix.toList (place.after.dropWhile (· = '/')) with
    | none => simp
    | some front =>
      cases front with
      | nil => simp
      | cons c front =>
        rw [Option.some.injEq, Option.some.injEq, ← String.toList_inj, String.toList_ofList]
        refine ⟨fun same => ⟨?_, same⟩, And.right⟩
        rintro rfl
        simp at same

theorem classKey_of_routeKey? (slash : '/' ∉ mapper.controllers.suffix.toList)
    (known : mapper.routeKey? path = some key) :
    mapper.classKey path = String.ofList (afterLast '/' key.toList) := by
  obtain ⟨-, before, found⟩ := routeKey?_eq_some_iff.mp known
  have name : afterLast '/' (normalizeChars path.toList) =
      afterLast '/' key.toList ++ mapper.controllers.suffix.toList := by
    rw [(findSegment_sound found).parts, afterLast_append_sep, afterLast_append_of_notMem _ slash]
  have cut := beforeSuffix?_eq_some_iff.mpr name
  rw [classKey, stem, stemChars, cut]

/-- The key of a file that has a name before its suffix does not end in a separator. -/
theorem classKey_ne_empty_iff (slash : '/' ∉ mapper.controllers.suffix.toList)
    (known : mapper.routeKey? path = some key) :
    mapper.classKey path ≠ "" ↔ key.toList.getLast? ≠ some '/' := by
  obtain ⟨named, -⟩ := routeKey?_eq_some_iff.mp known
  rw [classKey_of_routeKey? slash known, ne_eq, ← String.toList_inj, String.toList_ofList, String.toList_empty,
    afterLast_eq_nil_iff]
  simp [named]

/-- A controller with a view has a route key, and both are read off the same place. -/
theorem holds_controllers_iff :
    mapper.controllers.Holds (normalizeChars path.toList) before below ↔
      mapper.routeKey? path = some (String.ofList below) ∧ below.getLast? ≠ some '/' ∧
        normalizeChars path.toList = mapper.controllers.place before below := by
  rw [routeKey?_eq_some_iff, String.toList_ofList]
  constructor
  · intro holds
    exact ⟨⟨by simpa [← String.toList_inj] using holds.named, before, holds.found⟩, holds.file, holds.path_eq⟩
  · rintro ⟨⟨named, other, found⟩, file, written⟩
    obtain rfl : other = before := by
      have parts := (findSegment_sound found).parts
      rw [written] at parts
      simpa [Side.place] using parts.symm
    exact ⟨found, by simpa [← String.toList_inj] using named, file⟩

theorem exists_routeKey?_of_toView {source target : String}
    (mapped : mapper.toView path = .mapped source target) :
    ∃ key, mapper.routeKey? path = some key ∧ key.toList.getLast? ≠ some '/' := by
  obtain ⟨normal, before, below, holds, -⟩ := relocate_eq_mapped_iff.mp mapped
  obtain ⟨known, file, -⟩ := holds_controllers_iff.mp (normal ▸ holds)
  exact ⟨String.ofList below, known, by simpa using file⟩

/-- The route key decides on the view, but for a file that has nothing before its suffix. -/
theorem toView_by_routeKey (mapper : Mapper) (slash : '/' ∉ mapper.controllers.suffix.toList)
    (path : String) :
    (mapper.routeKey? path = none → mapper.toView path = .unchanged path) ∧
    ∀ key, mapper.routeKey? path = some key →
      mapper.classKey path = String.ofList (afterLast '/' key.toList) ∧
      ∃ before, Path.normalize path =
          before ++ mapper.controllers.base ++ "/" ++ key ++ mapper.controllers.suffix ∧
        mapper.toView path = if mapper.classKey path = "" then .unchanged path
          else .mapped (Path.normalize path)
            (before ++ mapper.views.base ++ "/" ++ key ++ mapper.views.suffix) := by
  refine ⟨fun unknown => relocate_eq_unchanged_iff.mpr fun source target mapped => ?_,
    fun key known => ⟨classKey_of_routeKey? slash known, ?_⟩⟩
  · obtain ⟨key, known, -⟩ := exists_routeKey?_of_toView mapped
    rw [unknown] at known
    contradiction
  · obtain ⟨named, before, found⟩ := routeKey?_eq_some_iff.mp known
    have written : normalizeChars path.toList = mapper.controllers.place before key.toList :=
      (findSegment_sound found).parts
    have file := classKey_ne_empty_iff slash known
    refine ⟨String.ofList before, by simp [Path.normalize, written, Side.place, ← String.toList_inj], ?_⟩
    split
    · rename_i unnamed
      refine relocate_eq_unchanged_iff.mpr fun source target mapped => ?_
      obtain ⟨other, same, ends⟩ := exists_routeKey?_of_toView mapped
      obtain rfl := Option.some.inj (known.symm.trans same)
      exact file.mpr ends unnamed
    · rename_i someName
      have holds := holds_controllers_iff.mpr ⟨by simpa using known, file.mp someName, written⟩
      refine relocate_eq_mapped_iff.mpr ⟨by simp [Path.normalize], before, key.toList, ?_, ?_⟩
      · simpa [Path.normalize] using holds
      · simp [Side.place]

/-- A file that is named by the suffix alone lends its directory's name to a route, and has no view. -/
theorem admin_keyed_without_view : '/' ∉ ".controller.ts".toList ∧
    (Mapper.mk ⟨"src/app/controllers", ".controller.ts"⟩ ⟨"src/app/views", ".html"⟩).routeKey?
        "src/app/controllers/admin/.controller.ts" = some "admin/" ∧
    (Mapper.mk ⟨"src/app/controllers", ".controller.ts"⟩ ⟨"src/app/views", ".html"⟩).toView
        "src/app/controllers/admin/.controller.ts" =
      .unchanged "src/app/controllers/admin/.controller.ts" ∧
    (Mapper.mk ⟨"src/app/controllers", ".controller.ts"⟩ ⟨"src/app/views", ".html"⟩).classKey
        "./src/app/controllers/admin/users.controller.ts" = "users" := by
  have slash : '/' ∉ ".controller.ts".toList := by decide
  have unnamed : (Mapper.mk ⟨"src/app/controllers", ".controller.ts"⟩ ⟨"src/app/views", ".html"⟩).routeKey?
      "src/app/controllers/admin/.controller.ts" = some "admin/" := by decide +kernel
  have users : (Mapper.mk ⟨"src/app/controllers", ".controller.ts"⟩ ⟨"src/app/views", ".html"⟩).routeKey?
      "./src/app/controllers/admin/users.controller.ts" = some "admin/users" := by decide +kernel
  obtain ⟨nothing, _, -, view⟩ := (toView_by_routeKey
    ⟨⟨"src/app/controllers", ".controller.ts"⟩, ⟨"src/app/views", ".html"⟩⟩ slash _).2 _ unnamed
  obtain ⟨name, -⟩ := (toView_by_routeKey
    ⟨⟨"src/app/controllers", ".controller.ts"⟩, ⟨"src/app/views", ".html"⟩⟩ slash _).2 _ users
  exact ⟨slash, unnamed, view.trans (if_pos nothing), name⟩

end Mapper

end SeedNavigator
