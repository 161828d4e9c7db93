import SeedNavigator.Project.Navigation
import SeedNavigator.Proofs.Path.Enclosing

/-! Whether the counterpart of a file lies in the same project. The search for a base knows nothing of the
project: where the way from the root of the project holds no base, one may be found that begins above it. The
counterpart then lies where the other base leads from there, inside the project or not. -/
namespace SeedNavigator

open SeedNavigator.Text SeedNavigator.Path

namespace Path

/-- A normal path that goes on from a directory without a step up, or stays there. -/
structure IsInward (path : String) : Prop where
  normal : ∃ other, path = normalize other
  relative : isAbsolute path.toList = false
  inside : up ∉ names path.toList

/-- The path is one of those below the directory, as they are written. -/
def Inside (directory path : String) : Prop :=
  directory.toList ++ ['/'] <+: path.toList

theorem IsInward.eq_here_or_isWithin {path : String} (inward : IsInward path) :
    path = "." ∨ IsWithin path := by
  by_cases named : path = "."
  · exact .inl named
  · exact .inr ⟨inward.normal, inward.relative, named, inward.inside⟩

theorem isInward_iff {path : String} : IsInward path ↔
    normalize path = path ∧ isAbsolute path.toList = false ∧ ∀ name ∈ names path.toList, name ≠ up := by
  rw [List.forall_mem_ne']
  constructor
  · intro inward
    exact ⟨normalize_eq_iff.mpr (isNormal_of_exists_normalize inward.normal), inward.relative, inward.inside⟩
  · rintro ⟨normal, relative, inside⟩
    exact ⟨⟨path, normal.symm⟩, relative, inside⟩

instance {path : String} : Decidable (IsInward path) := decidable_of_iff _ isInward_iff.symm

theorem normalizeChars_here {directory : String} (outer : IsOuter directory) :
    normalizeChars (directory ++ "/" ++ ".").toList = directory.toList := by
  have normal := isNormal_of_exists_normalize outer.normal
  have clean : '\\' ∉ directory.toList ++ '/' :: here := by
    have own : '\\' ∉ directory.toList := by
      rw [normal.shape.2]
      exact notMem_backslash_render normal.shape.1.proper
    simp [own, here]
  have opened : isAbsolute (directory.toList ++ '/' :: here) = isAbsolute directory.toList := by
    rw [isAbsolute_append, if_neg normal.ne_nil]
  have stays : names (directory.toList ++ '/' :: here) = names directory.toList := by
    rw [names_append_slash]
    simp [names, here, pieces, isIdle]
  have whole : normalizeChars directory.toList = directory.toList := normal
  have same : normalizeChars (directory.toList ++ '/' :: here) = normalizeChars directory.toList := by
    have own : '\\' ∉ directory.toList := fun inside => clean (by simp [inside])
    simp only [normalizeChars, unifySeparators_eq_self clean, unifySeparators_eq_self own, resolved,
      foldl_enter_names, opened, stays]
  simpa [here] using same.trans whole

end Path

variable {here there : Side} {directory path source target : String} {before below : List Char}

/-- A name that is written out before the next separator is one of the names. -/
theorem mem_names_of_prefix {left rest : List Char} {first : Segment} (proper : IsProper first)
    (begins : first ++ ['/'] <+: left ++ '/' :: rest) : first ∈ names left := by
  obtain ⟨more, text⟩ := begins
  have cut : pieces '/' left ++ pieces '/' rest = first :: pieces '/' more := by
    rw [← pieces_append_sep, ← text, List.append_assoc, List.singleton_append, pieces_append_sep,
      pieces_of_notMem proper.slash, List.singleton_append]
  obtain ⟨piece, others, parts⟩ := List.exists_cons_of_ne_nil (pieces_ne_nil '/' left)
  rw [parts] at cut
  obtain ⟨rfl, -⟩ := List.cons.inj cut
  refine List.mem_filter.mpr ⟨by simp [parts], ?_⟩
  simp [proper.not_isIdle]

/-- The first name of a base is a name of any directory in which the base begins. -/
theorem Side.Holds.mem_names {left rest : List Char} {first : Segment} (inward : IsInward here.base)
    (holds : here.Holds (before ++ left ++ rest) before below) (goesOn : rest = [] ∨ rest.head? = some '/')
    (named : (names here.base.toList).head? = some first) : first ∈ names (before ++ left) := by
  have normal := isNormal_of_exists_normalize inward.normal
  obtain ⟨others, all⟩ := List.head?_eq_some_iff.mp named
  have headless : ¬here.base.toList.head? = some '/' := by
    simpa [isAbsolute] using inward.relative
  have start := (findSegment_sound holds.found).start
  simp only [startsClean, headless, decide_false, Bool.or_false] at start
  have clean : startsClean left before.reverse = true := by
    rw [startsClean, start, Bool.true_or]
  have opens : first ++ ['/'] <+: here.base.toList ++ ['/'] := by
    rw [normal.eq_glue inward.relative (by simp [all]), all]
    by_cases last : others = []
    · rw [last]
      exact List.prefix_rfl
    · rw [glue_cons first last]
      exact ⟨glue '/' others ++ ['/'], by simp⟩
  have written : left ++ rest = here.base.toList ++ '/' :: (below ++ here.suffix.toList) := by
    have whole := holds.path_eq
    rw [Side.place, List.append_assoc, List.append_assoc] at whole
    exact List.append_cancel_left whole
  have begins : first ++ ['/'] <+: left ++ rest := by
    rw [written]
    exact opens.trans ⟨below ++ here.suffix.toList, by simp⟩
  have member : first ∈ names left := by
    have proper := normal.shape.1.proper first (by simp [all])
    rcases goesOn with rfl | separated
    · rw [List.append_nil] at begins
      exact mem_names_of_prefix proper (begins.trans (List.prefix_append left ['/']))
    · obtain ⟨rest, rfl⟩ := List.head?_eq_some_iff.mp separated
      exact mem_names_of_prefix proper begins
  rw [names_append_of_startsClean clean]
  exact List.mem_append_right _ member

namespace Mapper

/-- The base was found in the directory, and what is put in its place leads into the directory again. -/
def LeadsBack (there : Side) (directory : String) (before below : List Char) : Prop :=
  ∃ left, directory.toList = before ++ left ∧
    left ++ ['/'] <+: there.base.toList ++ '/' :: (below ++ there.suffix.toList)

/-- The path is mapped by itself, and the counterpart is the one below the directory. -/
def MapsWithin (here there : Side) (directory path target : String) : Prop :=
  ∃ inner, relocate here there path = .mapped path inner ∧ target = directory ++ "/" ++ inner

/-- When the counterpart of a file in a directory stays there. -/
structure Stays (here there : Side) (directory path source target : String) : Prop where
  inside_iff : Inside directory target ↔ MapsWithin here there directory path target ∨
    ∃ before below, here.Holds source.toList before below ∧ LeadsBack there directory before below
  apart : (∀ first, (names here.base.toList).head? = some first → first ∉ names directory.toList) →
    MapsWithin here there directory path target

theorem MapsWithin.inside (within : MapsWithin here there directory path target) :
    Inside directory target := by
  obtain ⟨inner, -, rfl⟩ := within
  exact ⟨inner.toList, by simp⟩

theorem inside_iff_leadsBack {left : List Char} (split : directory.toList = before ++ left)
    (text : target.toList = there.place before below) :
    Inside directory target ↔ LeadsBack there directory before below := by
  have same : Inside directory target ↔
      left ++ ['/'] <+: there.base.toList ++ '/' :: (below ++ there.suffix.toList) := by
    rw [Inside, split, text, Side.place, List.append_assoc, List.append_assoc]
    exact List.prefix_append_right_inj before
  rw [same]
  constructor
  · intro leads
    exact ⟨left, split, leads⟩
  · rintro ⟨other, again, leads⟩
    rw [split] at again
    rwa [List.append_cancel_left again]

/-- The base lies on the way from the directory to the file, or begins in the directory. -/
theorem mapsWithin_or_begins_in (outer : IsOuter directory) (inward : IsInward path)
    (mapped : relocate here there (directory ++ "/" ++ path) = .mapped source target) :
    MapsWithin here there directory path target ∨ ∃ before below left rest,
      here.Holds source.toList before below ∧ target.toList = there.place before below ∧
      directory.toList = before ++ left ∧ source.toList = before ++ left ++ rest ∧
      (rest = [] ∨ rest.head? = some '/') := by
  obtain ⟨normal, before, below, holds, text⟩ := relocate_eq_mapped_iff.mp mapped
  rcases inward.eq_here_or_isWithin with rfl | within
  · rw [normalizeChars_here outer] at normal
    have split : directory.toList = before ++ (here.base.toList ++ '/' :: (below ++ here.suffix.toList)) := by
      rw [← normal, holds.path_eq, Side.place, List.append_assoc]
    exact .inr ⟨before, below, _, [], holds, text, split, by rw [normal, split, List.append_nil], .inl rfl⟩
  · rw [normalizeChars_below outer within] at normal
    have front : before <+: directory.toList ++ '/' :: path.toList := by
      rw [← normal, holds.path_eq, Side.place, List.append_assoc]
      exact List.prefix_append ..
    by_cases short : before.length ≤ directory.toList.length
    · obtain ⟨left, split⟩ := List.prefix_of_prefix_length_le front (List.prefix_append ..) short
      exact .inr ⟨before, below, left, '/' :: path.toList, holds, text, split.symm, by rw [normal, split], .inr rfl⟩
    · have border : directory.toList ++ ['/'] <+: directory.toList ++ '/' :: path.toList :=
        ⟨path.toList, by simp⟩
      obtain ⟨deeper, split⟩ := List.prefix_of_prefix_length_le border front (by simp; omega)
      rw [List.append_assoc, List.singleton_append] at split
      subst split
      have found : here.Holds path.toList deeper below :=
        ⟨findSegment_of_below (normal ▸ holds.found), holds.named, holds.file⟩
      have kept : normalizeChars path.toList = path.toList := isNormal_of_exists_normalize within.normal
      refine .inl ⟨String.ofList (there.place deeper below), ?_, ?_⟩
      · exact relocate_eq_mapped_iff.mpr ⟨kept.symm, deeper, below, found, by simp⟩
      · rw [← String.toList_inj, text]
        simp [Side.place]

theorem relocate_stays (outer : IsOuter directory) (inward : IsInward path) (base : IsInward here.base)
    (mapped : relocate here there (directory ++ "/" ++ path) = .mapped source target) :
    Stays here there directory path source target := by
  rcases mapsWithin_or_begins_in outer inward mapped with within | begins
  · exact ⟨⟨fun _ => .inl within, fun _ => within.inside⟩, fun _ => within⟩
  · obtain ⟨before, below, left, rest, holds, text, split, whole, goesOn⟩ := begins
    have leads := inside_iff_leadsBack split text
    refine ⟨⟨fun inside => .inr ⟨before, below, holds, leads.mp inside⟩, ?_⟩, fun apart => ?_⟩
    · rintro (within | ⟨others, deeper, again, back⟩)
      · exact within.inside
      · have same := holds.found.symm.trans again.found
        simp only [Option.some.injEq, Split.mk.injEq, List.cons.injEq, true_and,
          List.append_cancel_right_eq] at same
        obtain ⟨rfl, rfl⟩ := same
        exact leads.mpr back
    · have named : names here.base.toList ≠ [] := by
        intro empty
        have point := (isNormal_of_exists_normalize base.normal).of_names_eq_nil empty
        rw [base.relative, if_neg (by simp)] at point
        exact (findSegment_named holds.found).2 point
      obtain ⟨first, others, all⟩ := List.exists_cons_of_ne_nil named
      have first_name : (names here.base.toList).head? = some first := by
        rw [all, List.head?_cons]
      refine absurd ?_ (apart first first_name)
      rw [split]
      exact Side.Holds.mem_names base (whole ▸ holds) goesOn first_name

end Mapper

namespace Navigation

/-- The side that a document of this kind is on, and the one it is switched to. -/
def sides (mapper : Mapper) : DocumentKind → Option (Side × Side)
  | .controller => some (mapper.controllers, mapper.views)
  | .view => some (mapper.views, mapper.controllers)
  | .other => none

/-- The counterpart of a file in a directory stays there exactly if the base lies on the way from the directory to
the file, or the other base leads back from where it begins. If the directory has no name in common with the
beginning of the base, the counterpart stays. -/
theorem counterpart_inside_iff (mapper : Mapper) (kind : DocumentKind) {directory path source target : String}
    (controllers : IsInward mapper.controllers.base) (views : IsInward mapper.views.base)
    (outer : IsOuter directory) (inward : IsInward path)
    (mapped : mapping mapper kind (directory ++ "/" ++ path) = .mapped source target) :
    ∃ here there, sides mapper kind = some (here, there) ∧
      Mapper.Stays here there directory path source target := by
  cases kind with
  | controller => exact ⟨_, _, rfl, Mapper.relocate_stays outer inward controllers mapped⟩
  | view => exact ⟨_, _, rfl, Mapper.relocate_stays outer inward views mapped⟩
  | other => contradiction

/-- A base that begins with the last name of the directory leads back if the other base begins so too. -/
theorem users_inside_by_leading_back :
    mapping ⟨⟨"app/controllers", ".controller.ts"⟩, ⟨"app/views", ".html"⟩⟩ .controller
        "/srv/app/controllers/users.controller.ts" =
      .mapped "/srv/app/controllers/users.controller.ts" "/srv/app/views/users.html" ∧
    Inside "/srv/app" "/srv/app/views/users.html" := by
  have outer : IsOuter "/srv/app" := ⟨⟨"/srv/app", by decide⟩, by decide, by decide⟩
  have mapped : mapping ⟨⟨"app/controllers", ".controller.ts"⟩, ⟨"app/views", ".html"⟩⟩ .controller
      ("/srv/app" ++ "/" ++ "controllers/users.controller.ts") =
        .mapped "/srv/app/controllers/users.controller.ts" "/srv/app/views/users.html" := by
    decide +kernel
  obtain ⟨here, there, chosen, stays⟩ := counterpart_inside_iff
    ⟨⟨"app/controllers", ".controller.ts"⟩, ⟨"app/views", ".html"⟩⟩ .controller (by decide) (by decide) outer
    (by decide) mapped
  obtain ⟨rfl, rfl⟩ := Prod.mk.inj (Option.some.inj chosen)
  refine ⟨mapped, stays.inside_iff.mpr (.inr ⟨"/srv/".toList, "users".toList, ?_, "app".toList, by decide, ?_⟩)⟩
  · exact ⟨by decide +kernel, by decide, by decide⟩
  · exact ⟨"views/users.html".toList, by decide⟩

/-- Another project next to this one may lie where the base is found. -/
theorem not_forall_counterpart_inside : ¬∀ (mapper : Mapper) (kind : DocumentKind)
    (directory path source target : String),
    IsInward mapper.controllers.base → IsInward mapper.views.base →
    IsOuter directory → isAbsolute directory.toList = true → IsInward path →
    mapping mapper kind (directory ++ "/" ++ path) = .mapped source target → Inside directory target := by
  intro always
  have outer : IsOuter "/srv/app" := ⟨⟨"/srv/app", by decide⟩, by decide, by decide⟩
  have mapped : mapping ⟨⟨"app/controllers", ".controller.ts"⟩, ⟨"web/views", ".html"⟩⟩ .controller
      ("/srv/app" ++ "/" ++ "controllers/users.controller.ts") =
        .mapped "/srv/app/controllers/users.controller.ts" "/srv/web/views/users.html" := by
    decide +kernel
  obtain ⟨rest, text⟩ := always _ _ _ _ _ _ (by decide) (by decide) outer (by decide) (by decide) mapped
  have front := congrArg (List.take 9) text
  rw [List.take_append_of_le_length (by decide)] at front
  exact absurd front (by decide)

end Navigation

end SeedNavigator
