import SeedNavigator.Proofs.Path.Walk

/-! Normal paths as texts: the current directory, the root, or segments with a slash between them, in which
the steps up come before the names and none follows the root. Normalizing gives such a text for every path,
keeps the root in front of it, and leaves exactly these texts as they are. -/
namespace SeedNavigator.Path

open SeedNavigator.Text

/-- The texts of normal paths. A name is a segment that leads down: it is not empty, neither `.` nor `..`,
and holds no separator of either kind. -/
inductive Tidy : List Char → Prop where
  | here : Tidy here
  | root : Tidy ['/']
  | relative {segments names : List Segment} {height : Nat} (nonempty : segments ≠ [])
      (climbs : Climbs segments height names) : Tidy (glue '/' segments)
  | absolute {names : List Segment} (nonempty : names ≠ [])
      (down : ∀ name ∈ names, IsProper name ∧ name ≠ up) : Tidy ('/' :: glue '/' names)

variable {absolute : Bool} {segments inner : List Segment} {height : Nat} {path : List Char}

theorem normal_of_down (down : ∀ name ∈ segments, IsProper name ∧ name ≠ up) :
    Normal absolute segments :=
  ⟨fun name member => (down name member).1, upsLead_of_notMem fun member => (down up member).2 rfl⟩

theorem Climbs.normal (climbs : Climbs segments height inner) : Normal false segments := by
  have names : Normal false inner := normal_of_down climbs.names
  have steps : ∀ segment ∈ List.replicate height up, segment = up :=
    fun segment member => List.eq_of_mem_replicate member
  rw [climbs.split]
  refine ⟨fun segment member => ?_, upsLead_append_iff.mpr ⟨⟨?_, by simp⟩, names.ups, fun _ => steps⟩⟩
  · rcases List.mem_append.mp member with step | name
    · rw [steps segment step]
      decide
    · exact names.proper segment name
  · exact List.pairwise_of_forall_mem_list fun segment first _ _ _ => steps segment first

theorem Normal.tidy (normal : Normal absolute segments) : Tidy (render absolute segments) := by
  by_cases empty : segments = []
  · subst empty
    cases absolute with
    | false => exact .here
    | true => exact .root
  · obtain ⟨height, inner, climbs⟩ := normal.exists_climbs
    cases absolute with
    | false => simpa [render, empty] using Tidy.relative empty climbs
    | true =>
      -- nothing is above the root, so all segments are names
      obtain rfl := normal.height_eq_zero climbs
      obtain rfl : segments = inner := climbs.split
      exact .absolute empty climbs.names

theorem Tidy.isNormal (tidy : Tidy path) : IsNormal path := by
  cases tidy with
  | here => rfl
  | root => rfl
  | relative nonempty climbs =>
    simpa [IsNormal, render, nonempty] using normalizeChars_render climbs.normal
  | absolute nonempty down =>
    have normal : Normal true _ := normal_of_down down
    exact normalizeChars_render normal

theorem tidy_iff_isNormal : Tidy path ↔ IsNormal path := by
  refine ⟨Tidy.isNormal, fun normal => ?_⟩
  rw [normal.shape.2]
  exact normal.shape.1.tidy

theorem isAbsolute_normalizeChars (path : List Char) :
    isAbsolute (normalizeChars path) = isAbsolute (unifySeparators path) :=
  isAbsolute_render (resolved_normal (notMem_backslash_unifySeparators path)).proper

/-- Normalizing tidies every path, keeps it behind the root or away from it, and does nothing more to a path
that is tidy. The tidy paths are all it gives and all it keeps. -/
theorem normalize_tidies (path : String) :
    Tidy (normalize path).toList ∧
    isAbsolute (normalize path).toList = isAbsolute (withSlashes path).toList ∧
    normalize (normalize path) = normalize path ∧
    (normalize path = path ↔ Tidy path.toList) ∧
    ((∃ other, normalize other = path) ↔ Tidy path.toList) := by
  have tidied (other : String) : Tidy (normalize other).toList :=
    tidy_iff_isNormal.mpr (isNormal_of_exists_normalize ⟨other, rfl⟩)
  have kept {other : String} : normalize other = other ↔ Tidy other.toList :=
    normalize_eq_iff.trans tidy_iff_isNormal.symm
  refine ⟨tidied path, ?_, kept.mpr (tidied path), kept, ?_⟩
  · simpa [normalize, withSlashes] using isAbsolute_normalizeChars path.toList
  · constructor
    · rintro ⟨other, rfl⟩
      exact tidied other
    · exact fun tidy => ⟨path, kept.mpr tidy⟩

end SeedNavigator.Path
