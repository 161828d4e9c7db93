import SeedNavigator.Proofs.Path.WholeSegments

/-! From one side to the other and back. The way back searches for the other base anew and takes the place
closest to the file name. It leads to the source if this is the place where that base was put, and to another
file if the base stands again below it. -/
namespace SeedNavigator

open SeedNavigator.Text SeedNavigator.Path

/-- The base lies inside a project: it is relative, has a name and makes no step up. -/
structure Side.IsInner (side : Side) : Prop extends side.IsRegular where
  relative : isAbsolute side.base.toList = false
  named : side.base ≠ "."
  inside : up ∉ names side.base.toList

/-- What becomes of a counterpart on the way back, where the own base was found behind `before`. -/
structure Mapper.Returns (here there : Side) (before : List Char) (source target : String) : Prop where
  normal : there.suffix ≠ "." → Path.normalize target = target
  returns : Path.normalize target = target → Unobstructed there.base.toList target.toList →
    (∃ after, StandsLast there.base.toList target.toList ⟨before, after⟩) →
      Mapper.relocate there here target = .mapped target source
  only : Unobstructed there.base.toList target.toList → Unobstructed here.base.toList source.toList →
    Mapper.relocate there here target = .mapped target source →
      ∃ after, StandsLast there.base.toList target.toList ⟨before, after⟩

variable {here there side : Side} {path before below : List Char}

theorem Side.isInner_iff : side.IsInner ↔ side.IsRegular ∧ isAbsolute side.base.toList = false ∧
    side.base ≠ "." ∧ up ∉ names side.base.toList := by
  constructor
  · rintro ⟨regular, relative, named, inside⟩
    exact ⟨regular, relative, named, inside⟩
  · rintro ⟨regular, relative, named, inside⟩
    exact ⟨regular, relative, named, inside⟩

instance : Decidable side.IsInner := decidable_of_iff _ Side.isInner_iff.symm

namespace Side.IsInner

theorem names_ne_nil (own : side.IsInner) : names side.base.toList ≠ [] := by
  intro empty
  have text := own.normal.of_names_eq_nil empty
  rw [own.relative, if_neg (by simp)] at text
  exact own.named (String.toList_inj.mp text)

theorem searchable (own : side.IsInner) : side.base.toList ≠ [] ∧ side.base.toList ≠ ['.'] :=
  ⟨own.normal.ne_nil, fun point => own.named (String.toList_inj.mp point)⟩

/-- Any base may stand where a relative one stands. -/
theorem stands_place (own : here.IsInner) {after : List Char}
    (stands : Stands here.base.toList path ⟨before, after⟩) (side : Side) (below : List Char) :
    Stands side.base.toList (side.place before below)
      ⟨before, '/' :: (below ++ side.suffix.toList)⟩ := by
  have headless : ¬here.base.toList.head? = some '/' := by
    simpa [isAbsolute] using own.relative
  have start := stands.start
  simp only [startsClean, headless, decide_false, Bool.or_false] at start
  refine ⟨rfl, ?_, rfl⟩
  rw [startsClean, start, Bool.true_or]

end Side.IsInner

/-- Behind a base with a name no step up is left, so another base inside a project fits there. -/
theorem Found.isNormal_place {inner : List Segment} {name : Segment}
    (found : Found here path before below inner name) (own : here.IsInner) (other : there.IsInner)
    (otherPlain : there.suffix ≠ ".") : IsNormal (there.place before below) := by
  have ups := found.normal.shape.1.ups
  rw [found.names_path, upsLead_append_iff, upsLead_append_iff] at ups
  obtain ⟨⟨outer, -, -⟩, -, across⟩ := ups
  have direct : up ∉ inner ++ [name ++ here.suffix.toList] := by
    intro climb
    obtain ⟨segment, rest, base⟩ := List.exists_cons_of_ne_nil own.names_ne_nil
    have member : segment ∈ names here.base.toList := base ▸ List.mem_cons_self
    have same := across climb segment (List.mem_append_right _ member)
    exact own.inside (same ▸ member)
  have directFile : up ∉ inner ++ [name ++ there.suffix.toList] := by
    intro climb
    rcases List.mem_append.mp climb with among | last
    · exact direct (List.mem_append_left _ among)
    · exact file_ne_up found.leads.nonempty other.nonempty otherPlain (List.mem_singleton.mp last).symm
  have same : isAbsolute path = isAbsolute (before ++ there.base.toList) := by
    rw [found.isAbsolute_path, isAbsolute_append, isAbsolute_append, own.relative, other.relative]
  have joins : Mapper.Joins here there before :=
    ⟨other.names_ne_nil, .inr (own.relative.trans other.relative.symm)⟩
  rw [found.isNormal_place_iff other.toIsRegular joins, ← same, upsLead_append_iff, upsLead_append_iff]
  exact ⟨⟨outer, upsLead_of_notMem other.inside, fun climb => absurd climb other.inside⟩,
    upsLead_of_notMem directFile, fun climb => absurd climb directFile⟩

namespace Mapper

variable {source target : String}

/-- The target is found at the place of its base, so the same name is left between base and suffix. -/
theorem relocate_back (own : here.IsInner) (other : there.IsInner)
    (holds : here.Holds source.toList before below) (text : target.toList = there.place before below)
    (normal : Path.normalize target = target)
    (clear : Unobstructed there.base.toList target.toList)
    (last : ∃ after, StandsLast there.base.toList target.toList ⟨before, after⟩) :
    relocate there here target = .mapped target source := by
  obtain ⟨after, last⟩ := last
  have placed : Stands there.base.toList target.toList _ :=
    text ▸ own.stands_place (findSegment_sound holds.found) there below
  have after_eq := Split.ext_of_length last.stands.parts placed.parts rfl
  rw [after_eq] at last
  have found := (findSegment_eq_some_iff other.searchable clear).mpr last
  refine relocate_eq_mapped_iff.mpr ⟨(normalize_eq_iff.mp normal).symm, before, below, ?_, holds.path_eq⟩
  exact ⟨found, holds.named, holds.file⟩

/-- Where the way back finds the other base, the own base stands in the source, so it is no further right
than the place found first. -/
theorem standsLast_of_relocate_back (own : here.IsInner) (other : there.IsInner)
    (holds : here.Holds source.toList before below) (text : target.toList = there.place before below)
    (clear : Unobstructed there.base.toList target.toList)
    (sourceClear : Unobstructed here.base.toList source.toList)
    (back : relocate there here target = .mapped target source) :
    ∃ after, StandsLast there.base.toList target.toList ⟨before, after⟩ := by
  obtain ⟨-, before', below', holds', text'⟩ := relocate_eq_mapped_iff.mp back
  have found := (findSegment_eq_some_iff other.searchable clear).mp holds'.found
  have first := (findSegment_eq_some_iff own.searchable sourceClear).mp holds.found
  have placed : Stands there.base.toList target.toList _ :=
    text ▸ own.stands_place (findSegment_sound holds.found) there below
  have returned : Stands here.base.toList source.toList _ :=
    text' ▸ other.stands_place (findSegment_sound holds'.found) here below'
  have ahead : before'.length ≤ before.length := first.last _ returned
  have behind : before.length ≤ before'.length := found.last _ placed
  have same := Split.ext_of_length placed.parts found.stands.parts (Nat.le_antisymm behind ahead)
  exact ⟨_, same ▸ found⟩

theorem returns_of_mapped (own : here.IsInner) (other : there.IsInner) {path : String}
    (mapped : relocate here there path = .mapped source target) :
    ∃ place, findSegment source.toList here.base.toList = some place ∧
      Returns here there place.before source target := by
  obtain ⟨normal, before, below, holds, text⟩ := relocate_eq_mapped_iff.mp mapped
  obtain ⟨inner, name, leads⟩ := holds.exists_leadsTo
  have found : Found here source.toList before below inner name :=
    ⟨holds, leads, normal ▸ isNormal_normalizeChars path.toList, own.toIsRegular⟩
  refine ⟨_, holds.found, fun plain => ?_, ?_, ?_⟩
  · rw [normalize_eq_iff, text]
    exact found.isNormal_place own other plain
  · exact relocate_back own other holds text
  · exact standsLast_of_relocate_back own other holds text

/-- Mapping there and back leads to the source exactly if no base of the other side stands behind the one
that was put in. -/
theorem there_and_back (mapper : Mapper) (controllers : mapper.controllers.IsInner)
    (views : mapper.views.IsInner) (path source target : String) :
    (mapper.toView path = .mapped source target →
      ∃ place, findSegment source.toList mapper.controllers.base.toList = some place ∧
        Returns mapper.controllers mapper.views place.before source target) ∧
    (mapper.toController path = .mapped source target →
      ∃ place, findSegment source.toList mapper.views.base.toList = some place ∧
        Returns mapper.views mapper.controllers place.before source target) :=
  ⟨returns_of_mapped controllers views, returns_of_mapped views controllers⟩

theorem users_there_and_back :
    (Mapper.mk ⟨"src/app/controllers", ".controller.ts"⟩ ⟨"src/app/views", ".html"⟩).toView
        "./src/app/controllers/users.controller.ts" =
      .mapped "src/app/controllers/users.controller.ts" "src/app/views/users.html" ∧
    (Mapper.mk ⟨"src/app/controllers", ".controller.ts"⟩ ⟨"src/app/views", ".html"⟩).toController
        "src/app/views/users.html" =
      .mapped "src/app/views/users.html" "src/app/controllers/users.controller.ts" := by
  have mapped : (Mapper.mk ⟨"src/app/controllers", ".controller.ts"⟩ ⟨"src/app/views", ".html"⟩).toView
      "./src/app/controllers/users.controller.ts" =
        .mapped "src/app/controllers/users.controller.ts" "src/app/views/users.html" := by
    decide +kernel
  obtain ⟨place, found, returns⟩ := (there_and_back
    ⟨⟨"src/app/controllers", ".controller.ts"⟩, ⟨"src/app/views", ".html"⟩⟩ (by decide) (by decide)
    "./src/app/controllers/users.controller.ts" _ _).1 mapped
  obtain rfl : Split.mk [] "/users.controller.ts".toList = place :=
    Option.some.inj ((by decide +kernel : _ = _).symm.trans found)
  have clear : Unobstructed "src/app/views".toList "src/app/views/users.html".toList :=
    unobstructed_of_ends (by decide)
  have last : StandsLast "src/app/views".toList "src/app/views/users.html".toList
      ⟨[], "/users.html".toList⟩ :=
    (findSegment_eq_some_iff (by decide) clear).mp (by decide +kernel)
  exact ⟨mapped, returns.returns (returns.normal (by decide)) clear ⟨_, last⟩⟩

/-- The directories of the views may stand again below the controllers. The way back takes those. -/
theorem not_forall_there_and_back : ¬∀ (mapper : Mapper) (path source target : String),
    mapper.controllers.IsInner → mapper.views.IsInner →
    mapper.controllers.suffix ≠ mapper.views.suffix → mapper.toView path = .mapped source target →
      mapper.toController target = .mapped target source := by
  intro always
  have back := always ⟨⟨"src/app/controllers", ".controller.ts"⟩, ⟨"src/app/views", ".html"⟩⟩
    "src/app/controllers/src/app/views/home.controller.ts"
    "src/app/controllers/src/app/views/home.controller.ts" "src/app/views/src/app/views/home.html"
    (by decide) (by decide) (by decide) (by decide +kernel)
  exact absurd back (by decide +kernel)

end Mapper

end SeedNavigator
