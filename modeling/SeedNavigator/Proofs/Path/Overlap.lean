import Mathlib.Data.List.Basic
import Mathlib.Order.Bounds.Basic
import SeedNavigator.Proofs.Path.Search

/-! Whether the search for a directory finds the last place where it stands. The occurrences that it looks at
do not overlap, so one that is refused hides a place that it reaches into from the right. This happens only to
a directory that ends the way it begins, and with a separator behind that beginning. -/
namespace SeedNavigator.Path

open SeedNavigator.Text

/-- The bytes in front of an occurrence. -/
def Split.offset (place : Split) : Nat :=
  (String.ofList place.before).utf8ByteSize

/-- Of the occurrences that end within the first `reach` characters this is the last one. -/
structure LastWithin (segment path : List Char) (reach : Nat) (place : Split) : Prop where
  parts : path = place.before ++ segment ++ place.after
  within : place.before.length + segment.length ≤ reach
  last : ∀ other : Split, path = other.before ++ segment ++ other.after →
    other.before.length + segment.length ≤ reach → other.before.length ≤ place.before.length

/-- The occurrences that a search from the right looks at. After a refused one it goes on in front of it. -/
inductive Met (segment path : List Char) : (reach : Nat) → Split → Prop
  | first {reach : Nat} {place : Split} (last : LastWithin segment path reach place) :
      Met segment path reach place
  | next {reach : Nat} {refused place : Split} (last : LastWithin segment path reach refused)
      (unfit : ¬Stands segment path refused) (rest : Met segment path refused.before.length place) :
      Met segment path reach place

/-- The search gives the place with the greatest offset, and nothing only if there is no place. -/
structure FindsLast (segment path : List Char) : Prop where
  greatest : ∀ offset, (findSegment path segment).map Split.offset = some offset ↔
    IsGreatest {start | ∃ place, Stands segment path place ∧ place.offset = start} offset
  none : findSegment path segment = none ↔ ∀ place, ¬Stands segment path place

/-- The directory overlaps itself where a separator follows: behind its first `width` characters comes
its own beginning, and then a separator. -/
def OverlapsItself (segment : List Char) : Prop :=
  ∃ width, 0 < width ∧ width < segment.length ∧ segment.drop width ++ ['/'] <+: segment

variable {segment path left after : List Char} {place other : Split} {reach skip : Nat}

/-! ### Offsets -/

theorem offset_lt_of_length_lt (parts : path = place.before ++ segment ++ place.after)
    (otherParts : path = other.before ++ segment ++ other.after)
    (less : place.before.length < other.before.length) : place.offset < other.offset := by
  have front : place.before <+: path := ⟨segment ++ place.after, by simp [parts]⟩
  have otherFront : other.before <+: path := ⟨segment ++ other.after, by simp [otherParts]⟩
  obtain ⟨more, longer⟩ := List.prefix_of_prefix_length_le front otherFront (by omega)
  have some : more ≠ [] := by
    rintro rfl
    simp [← longer] at less
  have positive : (String.ofList more).utf8ByteSize ≠ 0 := by
    simpa [String.utf8ByteSize_eq_zero_iff] using some
  rw [Split.offset, Split.offset, ← longer, String.ofList_append, String.utf8ByteSize_append]
  omega

theorem offset_le_iff (stands : Stands segment path place) (others : Stands segment path other) :
    place.offset ≤ other.offset ↔ place.before.length ≤ other.before.length := by
  constructor
  · intro le
    by_contra more
    have := offset_lt_of_length_lt others.parts stands.parts (by omega)
    omega
  · intro le
    rcases Nat.lt_or_eq_of_le le with less | same
    · exact Nat.le_of_lt (offset_lt_of_length_lt stands.parts others.parts less)
    · rw [Split.ext_of_length stands.parts others.parts same]

theorem isGreatest_offset_iff (stands : Stands segment path place) :
    IsGreatest {start | ∃ other, Stands segment path other ∧ other.offset = start} place.offset ↔
      StandsLast segment path place := by
  constructor
  · intro greatest
    refine ⟨stands, fun other others => ?_⟩
    exact (offset_le_iff others stands).mp (greatest.2 ⟨other, others, rfl⟩)
  · intro last
    refine ⟨⟨place, stands, rfl⟩, ?_⟩
    rintro start ⟨other, others, rfl⟩
    exact (offset_le_iff others stands).mpr (last.last other others)

/-- Among finitely many places one is the last. -/
theorem Stands.exists_last {segment path : List Char} {place : Split} (stands : Stands segment path place) :
    ∃ last, StandsLast segment path last := by
  by_cases final : ∀ other, Stands segment path other → other.before.length ≤ place.before.length
  · exact ⟨place, stands, final⟩
  · obtain ⟨other, others, further⟩ : ∃ other, Stands segment path other ∧
        place.before.length < other.before.length := by
      simpa using final
    have inside : other.before.length ≤ path.length := by
      simp [others.parts]
    exact others.exists_last
termination_by path.length - place.before.length
decreasing_by omega

theorem findsLast_iff : FindsLast segment path ↔
    ∀ place, findSegment path segment = some place ↔ StandsLast segment path place := by
  constructor
  · intro finds place
    constructor
    · intro found
      have stands := findSegment_sound found
      exact (isGreatest_offset_iff stands).mp ((finds.greatest place.offset).mp (by simp [found]))
    · intro last
      have greatest := (isGreatest_offset_iff last.stands).mpr last
      obtain ⟨found, result, same⟩ := Option.map_eq_some_iff.mp ((finds.greatest place.offset).mpr greatest)
      have stands := findSegment_sound result
      have ahead := (offset_le_iff last.stands stands).mp (by omega)
      rw [result, Split.ext_of_length stands.parts last.stands.parts (Nat.le_antisymm (last.last found stands) ahead)]
  · intro finds
    refine ⟨fun offset => ?_, ?_⟩
    · constructor
      · intro found
        obtain ⟨place, result, rfl⟩ := Option.map_eq_some_iff.mp found
        have last := (finds place).mp result
        exact (isGreatest_offset_iff last.stands).mpr last
      · intro greatest
        obtain ⟨place, stands, rfl⟩ := greatest.1
        rw [(finds place).mpr ((isGreatest_offset_iff stands).mp greatest)]
        rfl
    · constructor
      · intro absent place stands
        obtain ⟨last, standsLast⟩ := stands.exists_last
        have found := (finds last).mpr standsLast
        rw [absent] at found
        contradiction
      · intro nowhere
        cases found : findSegment path segment with
        | none => rfl
        | some place => exact absurd (findSegment_sound found) (nowhere place)

/-! ### What the search looks at -/

theorem LastWithin.unique (last : LastWithin segment path reach place)
    (others : LastWithin segment path reach other) : place = other := by
  have ahead := last.last other others.parts others.within
  have behind := others.last place last.parts last.within
  exact Split.ext_of_length last.parts others.parts (Nat.le_antisymm behind ahead)

theorem Met.within (met : Met segment path reach place) :
    place.before.length + segment.length ≤ reach := by
  induction met with
  | first last => exact last.within
  | next last unfit rest ih =>
    have := last.within
    omega

theorem met_iff_of_lastWithin (last : LastWithin segment path reach other) :
    Met segment path reach place ↔
      place = other ∨ ¬Stands segment path other ∧ Met segment path other.before.length place := by
  constructor
  · intro met
    cases met with
    | first own => exact .inl (own.unique last)
    | next own unfit rest =>
      obtain rfl := own.unique last
      exact .inr ⟨unfit, rest⟩
  · rintro (rfl | ⟨unfit, rest⟩)
    · exact .first last
    · exact .next last unfit rest

/-- Where no occurrence ends, one character less is as good. -/
theorem met_succ_iff (absent : ∀ other : Split, path = other.before ++ segment ++ other.after →
    other.before.length + segment.length ≠ reach + 1) :
    Met segment path (reach + 1) place ↔ Met segment path reach place := by
  have same (other : Split) : LastWithin segment path (reach + 1) other ↔
      LastWithin segment path reach other := by
    constructor
    · rintro ⟨parts, within, last⟩
      have := absent other parts
      exact ⟨parts, by omega, fun others written less => last others written (by omega)⟩
    · rintro ⟨parts, within, last⟩
      refine ⟨parts, by omega, fun others written less => last others written ?_⟩
      have := absent others written
      omega
  constructor
  · intro met
    cases met with
    | first last => exact .first ((same _).mp last)
    | next last unfit rest => exact .next ((same _).mp last) unfit rest
  · intro met
    cases met with
    | first last => exact .first ((same _).mpr last)
    | next last unfit rest => exact .next ((same _).mpr last) unfit rest

/-- The occurrence that ends just here, if there is one, is the last within reach. -/
theorem lastWithin_of_parts (parts : path = place.before ++ segment ++ place.after)
    (ends : place.before.length + segment.length = reach) : LastWithin segment path reach place :=
  ⟨parts, by omega, fun other _ within => by omega⟩

/-- An occurrence that is read backwards from an end ends just there. -/
theorem lastWithin_of_afterPrefix? {before : List Char}
    (found : afterPrefix? segment.reverse left = some before) :
    LastWithin segment (left.reverse ++ after) left.length ⟨before.reverse, after⟩ := by
  have extent := congrArg List.length (eq_append_of_afterPrefix? found)
  rw [List.length_append, List.length_reverse, Nat.add_comm] at extent
  refine lastWithin_of_parts (parts_of_afterPrefix? found after) ?_
  rw [extent, List.length_reverse]

/-- The search stops at the first occurrence it looks at that stands between separators. -/
theorem searchBack_eq_some_iff (nonempty : segment ≠ []) (room : skip ≤ left.length) :
    searchBack segment skip left after = some place ↔
      Met segment (left.reverse ++ after) (left.length - skip) place ∧
        Stands segment (left.reverse ++ after) place := by
  have positive := List.length_pos_iff.mpr nonempty
  fun_induction searchBack segment skip left after with
  | case1 skip after =>
    constructor
    · intro found
      contradiction
    · rintro ⟨met, -⟩
      have := met.within
      simp only [List.length_nil] at this
      omega
  | case2 skip c left after ih =>
    have shorter : (c :: left).length - (skip + 1) = left.length - skip := by simp
    refine (ih (by simpa using room)).trans ?_
    rw [shorter]
    simp
  | case3 c left after absent ih =>
    have nowhere (other : Split) (parts : (c :: left).reverse ++ after =
        other.before ++ segment ++ other.after) : other.before.length + segment.length ≠ left.length + 1 := by
      intro ends
      rw [afterPrefix?_of_parts parts ends] at absent
      contradiction
    refine (ih (Nat.zero_le _)).trans ?_
    rw [Nat.sub_zero, Nat.sub_zero, List.length_cons, met_succ_iff nowhere]
    simp
  | case4 c left after before found clean =>
    have last : LastWithin segment ((c :: left).reverse ++ after) ((c :: left).length - 0)
        ⟨before.reverse, after⟩ := lastWithin_of_afterPrefix? found
    have stands := (stands_iff_of_parts last.parts).mpr clean
    rw [met_iff_of_lastWithin last, Option.some.injEq]
    constructor
    · rintro rfl
      exact ⟨.inl rfl, stands⟩
    · rintro ⟨rfl | ⟨unfit, -⟩, -⟩
      · rfl
      · contradiction
  | case5 c left after before found dirty ih =>
    have last : LastWithin segment ((c :: left).reverse ++ after) ((c :: left).length - 0)
        ⟨before.reverse, after⟩ := lastWithin_of_afterPrefix? found
    have unfit := mt (stands_iff_of_parts last.parts).mp dirty
    have extent := congrArg List.length last.parts
    simp only [List.length_append, List.length_reverse, List.length_cons] at extent
    have behind : left.length - (segment.length - 1) = before.reverse.length := by
      rw [List.length_reverse]
      omega
    have same : left.reverse ++ c :: after = (c :: left).reverse ++ after := by simp
    refine (ih (by omega)).trans ?_
    rw [behind, same, met_iff_of_lastWithin last]
    constructor
    · rintro ⟨rest, stands⟩
      exact ⟨.inr ⟨unfit, rest⟩, stands⟩
    · rintro ⟨rfl | ⟨-, rest⟩, stands⟩
      · contradiction
      · exact ⟨rest, stands⟩

theorem findSegment_eq_some_iff_met (named : segment ≠ [] ∧ segment ≠ ['.']) :
    findSegment path segment = some place ↔
      Met segment path path.length place ∧ Stands segment path place := by
  have meaningful : ¬(segment = [] ∨ segment = ['.']) := fun h => h.elim named.1 named.2
  rw [findSegment, if_neg meaningful, searchBack_eq_some_iff named.1 (Nat.zero_le _)]
  simp

/-! ### Directories that overlap themselves -/

/-- A character that is neither a separator nor the last of the directory. -/
def strange (segment : List Char) : Char :=
  if segment.getLast? = some 'x' then 'y' else 'x'

theorem strange_ne (segment : List Char) :
    strange segment ≠ '/' ∧ segment.getLast? ≠ some (strange segment) := by
  unfold strange
  split
  · rename_i last
    rw [last]
    decide
  · rename_i other
    exact ⟨by decide, other⟩

/-- The directory with a longer name behind it that reaches back into the directory. -/
def hidingPath (segment : List Char) (width : Nat) : List Char :=
  segment.take width ++ segment ++ [strange segment]

/-- The directory stands at the start of this path, but is not looked at. -/
theorem not_findsLast_hidingPath {width : Nat} (named : segment ≠ [] ∧ segment ≠ ['.'])
    (inside : width < segment.length) (overlap : segment.drop width ++ ['/'] <+: segment) :
    ¬FindsLast segment (hidingPath segment width) := by
  intro finds
  obtain ⟨plain, other⟩ := strange_ne segment
  obtain ⟨rest, again⟩ := overlap
  have start : Stands segment (hidingPath segment width) ⟨[], '/' :: (rest ++ [strange segment])⟩ := by
    refine ⟨?_, rfl, rfl⟩
    have text : segment.take width ++ (segment.drop width ++ '/' :: (rest ++ [strange segment])) =
        segment ++ '/' :: (rest ++ [strange segment]) := by
      rw [← List.append_assoc, List.take_append_drop]
    calc hidingPath segment width
      _ = segment.take width ++ (segment.drop width ++ ['/'] ++ rest) ++ [strange segment] := by
        rw [again, hidingPath]
      _ = segment ++ '/' :: (rest ++ [strange segment]) := by simpa using text
  have hides : LastWithin segment (hidingPath segment width) (hidingPath segment width).length
      ⟨segment.take width, [strange segment]⟩ := by
    refine ⟨rfl, by simp [hidingPath], fun place parts _ => ?_⟩
    have total := congrArg List.length parts
    simp only [hidingPath, List.length_append, List.length_singleton] at total
    -- an occurrence further right would end with the path
    by_contra further
    have ends : place.after = [] := by
      rw [← List.length_eq_zero_iff]
      simp only at further
      omega
    have final := congrArg List.getLast? parts
    rw [ends, List.append_nil, List.getLast?_append_of_ne_nil _ named.1, hidingPath, List.getLast?_concat] at final
    exact other final.symm
  cases found : findSegment (hidingPath segment width) segment with
  | none => exact finds.none.mp found _ start
  | some place =>
    obtain ⟨met, stands⟩ := (findSegment_eq_some_iff_met named).mp found
    rcases (met_iff_of_lastWithin hides).mp met with rfl | ⟨-, rest⟩
    · simpa [endsClean, plain] using stands.finish
    · have := rest.within
      simp only [List.length_take] at this
      omega

theorem findsLast_of_not_overlapsItself (named : segment ≠ [] ∧ segment ≠ ['.'])
    (apart : ¬OverlapsItself segment) (path : List Char) : FindsLast segment path := by
  have ends (width : Nat) (inside : width < segment.length) (positive : 0 < width) :
      ¬segment.drop width ++ ['/'] <+: segment :=
    fun overlap => apart ⟨width, positive, inside, overlap⟩
  exact findsLast_iff.mpr fun _ => findSegment_eq_some_iff named (unobstructed_of_ends ends)

/-- The search finds the first occurrence that stands between separators, of those that it looks at. This is
the last of all exactly if that one is looked at, and in all paths exactly if the directory does not overlap
itself. -/
theorem last_found_iff (segment : List Char) (named : segment ≠ [] ∧ segment ≠ ['.']) :
    (∀ path place, findSegment path segment = some place ↔
      Met segment path path.length place ∧ Stands segment path place) ∧
    (∀ path, FindsLast segment path ↔
      ∀ place, StandsLast segment path place → Met segment path path.length place) ∧
    ((∀ path, FindsLast segment path) ↔ ¬OverlapsItself segment) := by
  have met (path : List Char) (place : Split) : findSegment path segment = some place ↔
      Met segment path path.length place ∧ Stands segment path place := findSegment_eq_some_iff_met named
  refine ⟨met, fun path => ?_, ?_⟩
  · rw [findsLast_iff]
    constructor
    · intro finds place last
      exact ((met path place).mp ((finds place).mpr last)).1
    · intro reached place
      constructor
      · intro found
        obtain ⟨last, standsLast⟩ := (findSegment_sound found).exists_last
        have result := (met path last).mpr ⟨reached last standsLast, standsLast.stands⟩
        rw [found] at result
        exact Option.some.inj result ▸ standsLast
      · intro last
        exact (met path place).mpr ⟨reached place last, last.stands⟩
  · constructor
    · rintro finds ⟨width, -, inside, overlap⟩
      exact not_findsLast_hidingPath named inside overlap (finds _)
    · intro apart path
      exact findsLast_of_not_overlapsItself named apart path

/-- A file below the directory is lost if another directory goes on like the end of this one. -/
theorem app_hidden_by_apple :
    ("app/src/app".toList ≠ [] ∧ "app/src/app".toList ≠ ['.']) ∧
    Stands "app/src/app".toList "app/src/app/src/apple/users.controller.ts".toList
      ⟨[], "/src/apple/users.controller.ts".toList⟩ ∧
    findSegment "app/src/app/src/apple/users.controller.ts".toList "app/src/app".toList = none ∧
    ∃ place, StandsLast "app/src/app".toList "app/src/app/src/apple/users.controller.ts".toList place ∧
      ¬Met "app/src/app".toList "app/src/app/src/apple/users.controller.ts".toList
        "app/src/app/src/apple/users.controller.ts".toList.length place := by
  have named : "app/src/app".toList ≠ [] ∧ "app/src/app".toList ≠ ['.'] := by decide
  have stands : Stands "app/src/app".toList "app/src/app/src/apple/users.controller.ts".toList
      ⟨[], "/src/apple/users.controller.ts".toList⟩ := ⟨by decide, by decide, by decide⟩
  have absent : findSegment "app/src/app/src/apple/users.controller.ts".toList "app/src/app".toList = none := by
    decide +kernel
  obtain ⟨-, reached, -⟩ := last_found_iff "app/src/app".toList named
  refine ⟨named, stands, absent, ?_⟩
  by_contra all
  have finds := (reached "app/src/app/src/apple/users.controller.ts".toList).mpr fun place last => by
    by_contra passed
    exact all ⟨place, last, passed⟩
  exact finds.none.mp absent _ stands

end SeedNavigator.Path
