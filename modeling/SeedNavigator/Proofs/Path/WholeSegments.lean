import SeedNavigator.Proofs.Path.NormalForm
import SeedNavigator.Proofs.Path.Relocation

/-! Relocating exchanges whole segments. The bases are spliced in as texts, so this depends on whether the
other base fits at the place: it has to name a directory, what stands before it has to end as it did before
the own base, and its steps up must not follow a name. -/
namespace SeedNavigator

open SeedNavigator.Text SeedNavigator.Path

/-- The base is a normal path, and the suffix a part of a file name. -/
structure Side.IsRegular (side : Side) : Prop where
  base : ∃ path, side.base = Path.normalize path
  nonempty : side.suffix ≠ ""
  slash : '/' ∉ side.suffix.toList
  backslash : '\\' ∉ side.suffix.toList

namespace Mapper

/-- Two normal paths with the same directories around their bases, and the same name before their
suffixes. -/
structure Exchanged (here there : Side) (source target : String) : Prop where
  sourceNormal : Path.normalize source = source
  targetNormal : Path.normalize target = target
  segments : ∃ outer inner name, name ≠ [] ∧
    names source.toList =
      outer ++ names here.base.toList ++ inner ++ [name ++ here.suffix.toList] ∧
    names target.toList =
      outer ++ names there.base.toList ++ inner ++ [name ++ there.suffix.toList]

/-- The base of the other side goes on from `before` as the own base does. -/
structure Joins (here there : Side) (before : List Char) : Prop where
  named : names there.base.toList ≠ []
  seam : before = [] ∨ isAbsolute here.base.toList = isAbsolute there.base.toList

/-- The base of the other side fits where the own one was found. -/
structure Fits (here there : Side) (place : Path.Split) : Prop extends Joins here there place.before where
  ups : UpsLead (isAbsolute (place.before ++ there.base.toList))
    (names place.before ++ names there.base.toList ++ names place.after)

end Mapper

variable {here there side : Side} {path before below : List Char}

theorem Side.IsRegular.normal (regular : side.IsRegular) : IsNormal side.base.toList :=
  isNormal_of_exists_normalize regular.base

theorem Side.isRegular_iff : side.IsRegular ↔ Path.normalize side.base = side.base ∧ side.suffix ≠ "" ∧
    '/' ∉ side.suffix.toList ∧ '\\' ∉ side.suffix.toList := by
  constructor
  · intro regular
    exact ⟨normalize_eq_iff.mpr regular.normal, regular.nonempty, regular.slash, regular.backslash⟩
  · rintro ⟨normal, nonempty, slash, backslash⟩
    exact ⟨⟨side.base, normal.symm⟩, nonempty, slash, backslash⟩

instance : Decidable side.IsRegular := decidable_of_iff _ Side.isRegular_iff.symm

theorem Side.IsRegular.isAbsolute_place (regular : side.IsRegular) (before below : List Char) :
    isAbsolute (side.place before below) = isAbsolute (before ++ side.base.toList) := by
  rw [Side.place, isAbsolute_append, if_neg (by simp [regular.normal.ne_nil])]

theorem Side.IsRegular.isProper_file (regular : side.IsRegular) {name suffix : Segment}
    (nonempty : name ≠ []) (proper : IsProper (name ++ suffix)) :
    IsProper (name ++ side.suffix.toList) := by
  have nameLength := List.length_pos_iff.mpr nonempty
  have suffixLength := List.length_pos_iff.mpr (mt String.toList_eq_nil_iff.mp regular.nonempty)
  refine ⟨by simp [nonempty], fun point => ?_, fun inside => ?_, fun inside => ?_⟩
  · have total := congrArg List.length point
    simp only [List.length_append, Path.here, List.length_cons, List.length_nil] at total
    omega
  · rcases List.mem_append.mp inside with own | last
    · exact proper.slash (List.mem_append_left _ own)
    · exact regular.slash last
  · rcases List.mem_append.mp inside with own | last
    · exact proper.backslash (List.mem_append_left _ own)
    · exact regular.backslash last

/-- Only a point behind a point is a step up. -/
theorem file_ne_up {name : Segment} {suffix : String} (nonempty : name ≠ []) (some : suffix ≠ "")
    (plain : suffix ≠ ".") : name ++ suffix.toList ≠ up := by
  intro climb
  have nameLength := List.length_pos_iff.mpr nonempty
  have suffixLength := List.length_pos_iff.mpr (mt String.toList_eq_nil_iff.mp some)
  have total := congrArg List.length climb
  have split : name ++ suffix.toList = ['.'] ++ ".".toList := climb
  obtain ⟨-, rest⟩ := List.append_inj split (by simp [up] at total ⊢; omega)
  exact plain (String.toList_inj.mp rest)

/-! ### Segments of a found path -/

theorem names_append_of_startsClean {front back : List Char}
    (h : startsClean back front.reverse = true) : names (front ++ back) = names front ++ names back := by
  simp only [startsClean, List.isEmpty_reverse, List.head?_reverse, Bool.or_eq_true,
    decide_eq_true_eq, List.isEmpty_iff] at h
  rcases h with (rfl | ends) | starts
  · simp
  · obtain ⟨front, rfl⟩ := List.getLast?_eq_some_iff.mp ends
    simp [names_append_slash]
  · obtain ⟨back, rfl⟩ := List.head?_eq_some_iff.mp starts
    simp [names_append_slash]

theorem names_append_of_endsClean {front back : List Char} (h : endsClean back = true) :
    names (front ++ back) = names front ++ names back := by
  simp only [endsClean, Bool.or_eq_true, decide_eq_true_eq, List.isEmpty_iff] at h
  rcases h with rfl | starts
  · simp
  · obtain ⟨back, rfl⟩ := List.head?_eq_some_iff.mp starts
    simp [names_append_slash]

theorem Path.Stands.names_eq {segment : List Char} {place : Path.Split}
    (stands : Stands segment path place) :
    names path = names place.before ++ names segment ++ names place.after := by
  rw [stands.parts, names_append_of_endsClean stands.finish, names_append_of_startsClean stands.start]

/-- The directories between a base and a file, and the name that the file has before its suffix. -/
structure LeadsTo (below : List Char) (inner : List Segment) (name : Segment) : Prop where
  nonempty : name ≠ []
  pieces : ∀ suffix, '/' ∉ suffix → Text.pieces '/' (below ++ suffix) = inner ++ [name ++ suffix]

theorem Side.Holds.exists_leadsTo (holds : side.Holds path before below) :
    ∃ inner name, LeadsTo below inner name := by
  obtain ⟨inner, name, cut⟩ := exists_pieces_append '/' below
  refine ⟨inner, name, ?_, cut⟩
  rintro rfl
  have whole : below = glue '/' (inner ++ [[]]) := by
    simpa [glue_pieces] using (congrArg (glue '/') (cut [] (by simp)))
  by_cases direct : inner = []
  · subst direct
    exact holds.named whole
  · rw [glue_append direct (by simp)] at whole
    exact holds.file (by simp [whole, glue])

theorem LeadsTo.rest {inner : List Segment} {name suffix : Segment} (leads : LeadsTo below inner name)
    (slash : '/' ∉ suffix) : below ++ suffix = glue '/' (inner ++ [name ++ suffix]) := by
  rw [← leads.pieces suffix slash, glue_pieces]

/-- A normal path on a side, with the directories between the base and the file. -/
structure Found (side : Side) (path before below : List Char) (inner : List Segment) (name : Segment) :
    Prop where
  holds : side.Holds path before below
  leads : LeadsTo below inner name
  normal : IsNormal path
  regular : side.IsRegular

namespace Found

variable {inner : List Segment} {name : Segment} (found : Found here path before below inner name)

include found

theorem proper : ∀ segment ∈ inner ++ [name ++ here.suffix.toList], IsProper segment := by
  have split : path = (before ++ here.base.toList) ++ '/' :: (below ++ here.suffix.toList) := by
    simpa [Side.place] using found.holds.path_eq
  rw [← found.leads.pieces _ found.regular.slash]
  exact IsNormal.proper_behind (split ▸ found.normal) (by simp [found.holds.named])

/-- The root has no name and is never found: a file below it would follow two separators. -/
theorem named : names here.base.toList ≠ [] := by
  intro empty
  obtain ⟨-, point⟩ := findSegment_named found.holds.found
  have text := found.regular.normal.of_names_eq_nil empty
  split at text
  · have split : path = before ++ '/' :: ('/' :: (below ++ here.suffix.toList)) := by
      simpa [Side.place, text] using found.holds.path_eq
    have clean := IsNormal.proper_behind (split ▸ found.normal) (by simp)
    exact (clean [] (by simp)).nonempty rfl
  · exact point text

theorem names_path : names path = names before ++ names here.base.toList ++
    (inner ++ [name ++ here.suffix.toList]) := by
  rw [(findSegment_sound found.holds.found).names_eq, names_slash, found.leads.rest found.regular.slash,
    names_glue found.proper]

theorem isAbsolute_path : isAbsolute path = isAbsolute (before ++ here.base.toList) := by
  rw [found.holds.path_eq, found.regular.isAbsolute_place]

theorem before_eq : before ++ opening (isAbsolute here.base.toList) [] =
    opening (isAbsolute path) (names before) := by
  let deeper := names here.base.toList ++ (inner ++ [name ++ here.suffix.toList])
  have written : path = before ++ opening (isAbsolute here.base.toList) [] ++ glue '/' deeper := by
    simpa [Side.place, found.leads.rest found.regular.slash,
      found.regular.normal.append_slash found.named, deeper] using found.holds.path_eq
  have rendered : path = opening (isAbsolute path) (names before) ++ glue '/' deeper := by
    have shape := found.normal.shape.2
    rwa [found.names_path, List.append_assoc, render_append _ _ (by simp)] at shape
  exact List.append_cancel_right (written.symm.trans rendered)

/-! The other base and suffix in the same place. -/

variable (other : there.IsRegular)

include other

theorem proper_there : ∀ segment ∈ inner ++ [name ++ there.suffix.toList], IsProper segment := by
  intro segment member
  rcases List.mem_append.mp member with inside | last
  · exact found.proper segment (List.mem_append_left _ inside)
  · obtain rfl := List.mem_singleton.mp last
    exact other.isProper_file found.leads.nonempty (found.proper (name ++ here.suffix.toList) (by simp))

theorem proper_place : ∀ segment ∈ names before ++ names there.base.toList ++
    (inner ++ [name ++ there.suffix.toList]), IsProper segment := by
  intro segment member
  rcases List.mem_append.mp member with outside | below
  · rcases List.mem_append.mp outside with outer | base
    · refine found.normal.shape.1.proper segment ?_
      rw [found.names_path]
      simp [outer]
    · exact other.normal.shape.1.proper segment base
  · exact found.proper_there other segment below

/-- Where the ends of the bases agree, the counterpart is written from whole segments. -/
theorem place_eq (joins : Mapper.Joins here there before) :
    there.place before below = render (isAbsolute (before ++ there.base.toList))
      (names before ++ names there.base.toList ++ (inner ++ [name ++ there.suffix.toList])) := by
  let deeper := names there.base.toList ++ (inner ++ [name ++ there.suffix.toList])
  have written : there.place before below =
      before ++ opening (isAbsolute there.base.toList) [] ++ glue '/' deeper := by
    simp [Side.place, found.leads.rest other.slash, other.normal.append_slash joins.named, deeper]
  rw [written, List.append_assoc (names before), render_append _ _ (by simp)]
  congr 1
  rcases joins.seam with rfl | same
  · simp
  · rw [← same, found.before_eq, found.isAbsolute_path, isAbsolute_append, isAbsolute_append, same]

theorem names_place (joins : Mapper.Joins here there before) :
    names (there.place before below) =
      names before ++ names there.base.toList ++ (inner ++ [name ++ there.suffix.toList]) := by
  rw [found.place_eq other joins, names_render (found.proper_place other)]

theorem isNormal_place_iff (joins : Mapper.Joins here there before) :
    IsNormal (there.place before below) ↔ UpsLead (isAbsolute (before ++ there.base.toList))
      (names before ++ names there.base.toList ++ (inner ++ [name ++ there.suffix.toList])) := by
  rw [found.place_eq other joins, isNormal_render_iff (found.proper_place other)]

/-- Neither file is a step up, so the directories decide whether the counterpart is normal. -/
theorem isNormal_place_iff_fits (plain : here.suffix ≠ ".") (otherPlain : there.suffix ≠ ".")
    (joins : Mapper.Joins here there before) :
    IsNormal (there.place before below) ↔
      Mapper.Fits here there ⟨before, '/' :: (below ++ here.suffix.toList)⟩ := by
  have leads := found.leads
  have same : UpsLead (isAbsolute (before ++ there.base.toList))
      (names before ++ names there.base.toList ++ (inner ++ [name ++ there.suffix.toList])) ↔
      UpsLead (isAbsolute (before ++ there.base.toList))
        (names before ++ names there.base.toList ++ names ('/' :: (below ++ here.suffix.toList))) := by
    rw [names_slash, leads.rest found.regular.slash, names_glue found.proper, ← List.append_assoc,
      ← List.append_assoc, upsLead_append_singleton_iff (file_ne_up leads.nonempty other.nonempty otherPlain),
      upsLead_append_singleton_iff (file_ne_up leads.nonempty found.regular.nonempty plain)]
  rw [found.isNormal_place_iff other joins, same]
  exact ⟨fun ups => ⟨joins, ups⟩, Mapper.Fits.ups⟩

/-- Exchanged segments fix the lengths of both paths, and so what joins the other base to the rest. -/
theorem joins_of_exchanged {source target : String} (sourceText : source.toList = path)
    (targetText : target.toList = there.place before below)
    (exchanged : Mapper.Exchanged here there source target) :
    Mapper.Joins here there before := by
  -- the exchanged segments need not lie around the place that was found, so only lengths are compared
  obtain ⟨outer, inner, name, -, sourceNames, targetNames⟩ := exchanged.segments
  have sourceNormal := normalize_eq_iff.mp exchanged.sourceNormal
  have targetNormal := normalize_eq_iff.mp exchanged.targetNormal
  have sourceLength := sourceNormal.length_eq (by simp [sourceNames])
  have targetLength := targetNormal.length_eq (by simp [targetNames])
  have baseLength := found.regular.normal.length_eq found.named
  rw [sourceNames, sourceText, found.isAbsolute_path, found.holds.path_eq, isAbsolute_append] at sourceLength
  rw [targetNames, targetText, other.isAbsolute_place, isAbsolute_append] at targetLength
  simp only [Side.place, extent_append, extent_singleton, List.length_append, List.length_cons]
    at sourceLength targetLength
  have named : names there.base.toList ≠ [] := by
    intro empty
    have single := other.normal.length_eq_one empty
    rw [empty, extent_nil] at targetLength
    by_cases direct : before = []
    · simp only [if_pos direct] at sourceLength targetLength
      omega
    · simp only [if_neg direct] at sourceLength targetLength
      omega
  refine ⟨named, ?_⟩
  have otherLength := other.normal.length_eq named
  by_cases direct : before = []
  · exact .inl direct
  · simp only [if_neg direct] at sourceLength targetLength
    exact .inr (lack_inj (by omega))

theorem exchanged_iff_fits (plain : here.suffix ≠ ".") (otherPlain : there.suffix ≠ ".")
    {source target : String} (sourceText : source.toList = path)
    (targetText : target.toList = there.place before below) :
    Mapper.Exchanged here there source target ↔
      Mapper.Fits here there ⟨before, '/' :: (below ++ here.suffix.toList)⟩ := by
  constructor
  · intro exchanged
    have joins := found.joins_of_exchanged other sourceText targetText exchanged
    refine (found.isNormal_place_iff_fits other plain otherPlain joins).mp ?_
    rw [← targetText]
    exact normalize_eq_iff.mp exchanged.targetNormal
  · intro fits
    refine ⟨normalize_eq_iff.mpr (sourceText ▸ found.normal), normalize_eq_iff.mpr ?_,
      names before, inner, name, found.leads.nonempty, ?_, ?_⟩
    · rw [targetText]
      exact (found.isNormal_place_iff_fits other plain otherPlain fits.toJoins).mpr fits
    · rw [sourceText, found.names_path]
      simp
    · rw [targetText, found.names_place other fits.toJoins]
      simp

end Found

namespace Mapper

theorem exchanged_iff_fits_of_relocate (regular : here.IsRegular) (other : there.IsRegular)
    (plain : here.suffix ≠ ".") (otherPlain : there.suffix ≠ ".") {path source target : String}
    (mapped : relocate here there path = .mapped source target) :
    ∃ place, findSegment source.toList here.base.toList = some place ∧
      (Exchanged here there source target ↔ Fits here there place) := by
  obtain ⟨normal, before, below, holds, text⟩ := relocate_eq_mapped_iff.mp mapped
  obtain ⟨inner, name, leads⟩ := holds.exists_leadsTo
  have found : Found here source.toList before below inner name :=
    ⟨holds, leads, normal ▸ isNormal_normalizeChars path.toList, regular⟩
  exact ⟨_, holds.found, found.exchanged_iff_fits other plain otherPlain rfl text⟩

/-- A mapped path has its segments exchanged exactly if the other base fits where the own one was
found. -/
theorem mapped_exchanged_iff_fits (mapper : Mapper) (controllers : mapper.controllers.IsRegular)
    (views : mapper.views.IsRegular) (controllerPlain : mapper.controllers.suffix ≠ ".")
    (viewPlain : mapper.views.suffix ≠ ".") (path source target : String) :
    (mapper.toView path = .mapped source target →
      ∃ place, findSegment source.toList mapper.controllers.base.toList = some place ∧
        (Exchanged mapper.controllers mapper.views source target ↔
          Fits mapper.controllers mapper.views place)) ∧
    (mapper.toController path = .mapped source target →
      ∃ place, findSegment source.toList mapper.views.base.toList = some place ∧
        (Exchanged mapper.views mapper.controllers source target ↔
          Fits mapper.views mapper.controllers place)) :=
  ⟨exchanged_iff_fits_of_relocate controllers views controllerPlain viewPlain,
    exchanged_iff_fits_of_relocate views controllers viewPlain controllerPlain⟩

/-- A relative base fits at the front of a path, but not behind a directory that an absolute one
followed. -/
theorem exchanged_behind_nothing_only :
    Exchanged ⟨"src/app/controllers", ".controller.ts"⟩ ⟨"src/app/views", ".html"⟩
      "src/app/controllers/users.controller.ts" "src/app/views/users.html" ∧
    (Mapper.mk ⟨"/app/controllers", ".controller.ts"⟩ ⟨"app/views", ".html"⟩).toView
        "/home/shop/app/controllers/users.controller.ts" =
      .mapped "/home/shop/app/controllers/users.controller.ts" "/home/shopapp/views/users.html" ∧
    ¬Exchanged ⟨"/app/controllers", ".controller.ts"⟩ ⟨"app/views", ".html"⟩
      "/home/shop/app/controllers/users.controller.ts" "/home/shopapp/views/users.html" := by
  refine ⟨?_, by decide +kernel, fun exchanged => ?_⟩
  · obtain ⟨place, found, fits⟩ := (mapped_exchanged_iff_fits
      ⟨⟨"src/app/controllers", ".controller.ts"⟩, ⟨"src/app/views", ".html"⟩⟩
      (by decide) (by decide) (by decide) (by decide)
      "src/app/controllers/users.controller.ts" "src/app/controllers/users.controller.ts"
      "src/app/views/users.html").1 (by decide +kernel)
    obtain rfl : Split.mk [] "/users.controller.ts".toList = place :=
      Option.some.inj ((by decide +kernel : _ = _).symm.trans found)
    exact fits.mpr ⟨⟨by decide, .inl rfl⟩, upsLead_of_notMem (by decide)⟩
  · obtain ⟨place, found, fits⟩ := (mapped_exchanged_iff_fits
      ⟨⟨"/app/controllers", ".controller.ts"⟩, ⟨"app/views", ".html"⟩⟩
      (by decide) (by decide) (by decide) (by decide)
      "/home/shop/app/controllers/users.controller.ts" "/home/shop/app/controllers/users.controller.ts"
      "/home/shopapp/views/users.html").1 (by decide +kernel)
    obtain rfl : Split.mk "/home/shop".toList "/users.controller.ts".toList = place :=
      Option.some.inj ((by decide +kernel : _ = _).symm.trans found)
    exact absurd (fits.mp exchanged).seam (by decide)

end Mapper

end SeedNavigator
