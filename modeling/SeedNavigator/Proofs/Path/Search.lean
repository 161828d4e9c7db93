import SeedNavigator.Path.Occurrence

/-! What the search for a directory finds. It gives a place where the directory stands between
separators. Refused occurrences hide what overlaps them on their left; where nothing is hidden, the place
is the last of all. -/
namespace SeedNavigator.Path

open SeedNavigator.Text

variable {segment path left before after : List Char} {place : Split} {skip : Nat}

/-- `segment` stands in `path` at a place between separators. -/
structure Stands (segment path : List Char) (place : Split) : Prop where
  parts : path = place.before ++ segment ++ place.after
  start : startsClean segment place.before.reverse = true
  finish : endsClean place.after = true

/-- `segment` stands at this place and at none that is closer to the end. -/
structure StandsLast (segment path : List Char) (place : Split) : Prop where
  stands : Stands segment path place
  last : ∀ other, Stands segment path other → other.before.length ≤ place.before.length

/-- No occurrence within a longer name overlaps the directory itself from the right. -/
def Unobstructed (segment path : List Char) : Prop :=
  ∀ whole refused, Stands segment path whole → ¬Stands segment path refused →
    path = refused.before ++ segment ++ refused.after →
    whole.before.length < refused.before.length →
    whole.before.length + segment.length ≤ refused.before.length

theorem Split.ext_of_length {a b : Split} (pathA : path = a.before ++ segment ++ a.after)
    (pathB : path = b.before ++ segment ++ b.after) (same : a.before.length = b.before.length) :
    a = b := by
  rw [pathA, List.append_assoc, List.append_assoc] at pathB
  obtain ⟨before, rest⟩ := List.append_inj pathB same
  cases a; cases b
  simp_all

theorem parts_of_afterPrefix? (found : afterPrefix? segment.reverse left = some before)
    (after : List Char) : left.reverse ++ after = before.reverse ++ segment ++ after := by
  rw [eq_append_of_afterPrefix? found, List.reverse_append, List.reverse_reverse]

/-- Whether an occurrence stands is decided by what is on both sides of it. -/
theorem stands_iff_of_parts (parts : path = before.reverse ++ segment ++ after) :
    Stands segment path ⟨before.reverse, after⟩ ↔
      (startsClean segment before && endsClean after) = true := by
  rw [Bool.and_eq_true]
  constructor
  · rintro ⟨-, start, finish⟩
    rw [List.reverse_reverse] at start
    exact ⟨start, finish⟩
  · rintro ⟨start, finish⟩
    rw [← List.reverse_reverse before] at start
    exact ⟨parts, start, finish⟩

theorem searchBack_sound (h : searchBack segment skip left after = some place) :
    Stands segment (left.reverse ++ after) place := by
  fun_induction searchBack segment skip left after with
  | case1 => simp at h
  | case2 skip c left after ih => simpa using ih h
  | case3 c left after absent ih => simpa using ih h
  | case4 c left after before found clean =>
    obtain rfl := Option.some.inj h
    exact (stands_iff_of_parts (parts_of_afterPrefix? found after)).mpr clean
  | case5 c left after before found dirty ih => simpa using ih h

theorem afterPrefix?_of_parts (parts : left.reverse ++ after = place.before ++ segment ++ place.after)
    (here : place.before.length + segment.length = left.length) :
    afterPrefix? segment.reverse left = some place.before.reverse := by
  obtain ⟨front, -⟩ := List.append_inj parts (by simp [here])
  have turned : left = segment.reverse ++ place.before.reverse := by
    simpa using congrArg List.reverse front
  rw [turned]
  exact afterPrefix?_append ..

/-- A directory that nothing hides is found, or another one further right. -/
theorem searchBack_complete (nonempty : segment ≠ [])
    (clear : Unobstructed segment (left.reverse ++ after))
    (stands : Stands segment (left.reverse ++ after) place)
    (ahead : place.before.length + segment.length + skip ≤ left.length) :
    ∃ found, searchBack segment skip left after = some found ∧
      place.before.length ≤ found.before.length := by
  have positive := List.length_pos_iff.mpr nonempty
  fun_induction searchBack segment skip left after with
  | case1 skip after =>
    simp only [List.length_nil] at ahead
    omega
  | case2 skip c left after ih =>
    exact ih (by simpa using clear) (by simpa using stands) (by simp at ahead; omega)
  | case3 c left after absent ih =>
    refine ih (by simpa using clear) (by simpa using stands) ?_
    by_cases last : place.before.length + segment.length = (c :: left).length
    · rw [afterPrefix?_of_parts stands.parts last] at absent
      contradiction
    · simp only [List.length_cons] at ahead last
      omega
  | case4 c left after before found clean =>
    have split := congrArg List.length (eq_append_of_afterPrefix? found)
    refine ⟨_, rfl, ?_⟩
    simp at ahead split ⊢
    omega
  | case5 c left after before found dirty ih =>
    let refused : Split := ⟨before.reverse, after⟩
    have parts : (c :: left).reverse ++ after = refused.before ++ segment ++ refused.after :=
      parts_of_afterPrefix? found after
    have unfit : ¬Stands segment ((c :: left).reverse ++ after) refused :=
      mt (stands_iff_of_parts parts).mp dirty
    have split := congrArg List.length (eq_append_of_afterPrefix? found)
    have apart : place.before.length ≠ refused.before.length := by
      intro same
      exact unfit (Split.ext_of_length stands.parts parts same ▸ stands)
    have before : place.before.length < refused.before.length := by
      simp [refused] at ahead split apart ⊢
      omega
    have room := clear place refused stands unfit parts before
    refine ih (by simpa using clear) (by simpa using stands) ?_
    simp [refused] at split room ⊢
    omega

theorem findSegment_sound (h : findSegment path segment = some place) : Stands segment path place := by
  unfold findSegment at h
  split at h
  · contradiction
  · simpa using searchBack_sound h

theorem findSegment_named (h : findSegment path segment = some place) :
    segment ≠ [] ∧ segment ≠ ['.'] := by
  unfold findSegment at h
  split at h
  · contradiction
  · rename_i meaningful
    exact not_or.mp meaningful

theorem findSegment_complete (named : segment ≠ [] ∧ segment ≠ ['.'])
    (clear : Unobstructed segment path) (stands : Stands segment path place) :
    ∃ found, findSegment path segment = some found ∧ place.before.length ≤ found.before.length := by
  have meaningful : ¬(segment = [] ∨ segment = ['.']) := fun h => h.elim named.1 named.2
  rw [findSegment, if_neg meaningful]
  have extent := congrArg List.length stands.parts
  exact searchBack_complete named.1 (by simpa using clear) (by simpa using stands)
    (by simp at extent ⊢; omega)

/-- Where nothing is hidden, the search gives the last place between separators. -/
theorem findSegment_eq_some_iff (named : segment ≠ [] ∧ segment ≠ ['.'])
    (clear : Unobstructed segment path) :
    findSegment path segment = some place ↔ StandsLast segment path place := by
  constructor
  · intro h
    refine ⟨findSegment_sound h, fun other stands => ?_⟩
    obtain ⟨found, result, later⟩ := findSegment_complete named clear stands
    rw [h] at result
    exact Option.some.inj result ▸ later
  · rintro ⟨stands, last⟩
    obtain ⟨found, result, later⟩ := findSegment_complete named clear stands
    have sound := findSegment_sound result
    have same := Nat.le_antisymm later (last found sound)
    rw [result, Split.ext_of_length stands.parts sound.parts same]

/-- A directory that does not end the way it begins overlaps none of its occurrences. -/
theorem Stands.apart {other : Split}
    (ends : ∀ width < segment.length, 0 < width → ¬segment.drop width ++ ['/'] <+: segment)
    (stands : Stands segment path place) (parts : path = other.before ++ segment ++ other.after)
    (later : place.before.length < other.before.length) :
    place.before.length + segment.length ≤ other.before.length := by
  refine Nat.not_lt.mp fun overlap => ?_
  have extent := congrArg List.length (stands.parts.symm.trans parts)
  simp only [List.length_append] at extent
  -- the whole directory is followed by a separator, as the other occurrence goes on behind it
  obtain ⟨after, follows⟩ : ∃ after, place.after = '/' :: after := by
    have finish := stands.finish
    simp only [endsClean, Bool.or_eq_true, List.isEmpty_iff, decide_eq_true_eq] at finish
    rcases finish with none | separator
    · rw [none, List.length_nil] at extent
      omega
    · exact List.head?_eq_some_iff.mp separator
  let width := other.before.length - place.before.length
  have cut : (place.before ++ segment.take width) ++ (segment.drop width ++ '/' :: after) =
      other.before ++ (segment ++ other.after) := by
    rw [← List.append_assoc other.before, ← parts, stands.parts, follows, List.append_assoc,
      ← List.append_assoc (segment.take width), List.take_append_drop, List.append_assoc]
  obtain ⟨-, rest⟩ := List.append_inj cut (by simp [width]; omega)
  have reach : segment.drop width ++ ['/'] <+: segment ++ other.after := by
    rw [← rest]
    simp
  refine ends width (by omega) (by omega) (List.prefix_of_prefix_length_le reach (List.prefix_append ..) ?_)
  simp [width]
  omega

/-- Such a directory is never hidden. -/
theorem unobstructed_of_ends
    (ends : ∀ width < segment.length, 0 < width → ¬segment.drop width ++ ['/'] <+: segment) :
    Unobstructed segment path :=
  fun _ _ stands _ parts later => stands.apart ends parts later

end SeedNavigator.Path
