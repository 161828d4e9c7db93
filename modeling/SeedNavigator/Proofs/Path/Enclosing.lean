import SeedNavigator.Proofs.Path.WholeSegments

/-! The same file named from the root of a project and from a directory that encloses it. The search for a
base goes from right to left, so what is put in front of a path is not looked at once the base is found. An
occurrence across the joint would lie left of that one, and the names in front may hold the bases as well. -/
namespace SeedNavigator

open SeedNavigator.Text SeedNavigator.Path

namespace Text

variable {head text rest : List Char}

theorem afterPrefix?_append_of_some (more : List Char) (found : afterPrefix? head text = some rest) :
    afterPrefix? head (text ++ more) = some (rest ++ more) := by
  rw [eq_append_of_afterPrefix? found, List.append_assoc]
  exact afterPrefix?_append head (rest ++ more)

/-- A text that is long enough is refused for one of its own characters. -/
theorem afterPrefix?_append_of_none (more : List Char) (wide : head.length ≤ text.length)
    (absent : afterPrefix? head text = none) : afterPrefix? head (text ++ more) = none := by
  cases found : afterPrefix? head (text ++ more) with
  | none => rfl
  | some rest =>
    have whole : head <+: text ++ more := ⟨rest, (eq_append_of_afterPrefix? found).symm⟩
    obtain ⟨rest, rfl⟩ := List.prefix_of_prefix_length_le whole (List.prefix_append text more) wide
    rw [afterPrefix?_append] at absent
    contradiction

end Text

namespace Path

variable {segment path left after : List Char} {place : Split} {skip : Nat}

/-! ### Searching a longer path -/

/-- What is found lies in front of what is skipped. -/
theorem extent_le_of_searchBack (found : searchBack segment skip left after = some place) :
    place.before.length + segment.length + skip ≤ left.length := by
  fun_induction searchBack segment skip left after with
  | case1 => contradiction
  | case2 skip c left after ih =>
    have := ih found
    simp only [List.length_cons]
    omega
  | case3 c left after absent ih =>
    have := ih found
    simp only [List.length_cons]
    omega
  | case4 c left after before here clean =>
    obtain rfl := Option.some.inj found
    have extent := congrArg List.length (eq_append_of_afterPrefix? here)
    simp only [List.length_append, List.length_reverse] at extent ⊢
    omega
  | case5 c left after before here dirty ih =>
    have := ih found
    simp only [List.length_cons]
    omega

/-- Behind a separator an occurrence begins as cleanly as at the start of a path. -/
theorem startsClean_append {before more : List Char} (separated : more.head? = some '/') :
    startsClean segment (before ++ more) = startsClean segment before := by
  cases before with
  | nil => simp [startsClean, separated]
  | cons c before => rfl

theorem searchBack_append {more : List Char} (separated : more.head? = some '/')
    (found : searchBack segment skip left after = some place) :
    searchBack segment skip (left ++ more) after =
      some ⟨more.reverse ++ place.before, place.after⟩ := by
  fun_induction searchBack segment skip left after with
  | case1 => contradiction
  | case2 skip c left after ih =>
    rw [List.cons_append, searchBack]
    exact ih found
  | case3 c left after absent ih =>
    have wide := extent_le_of_searchBack found
    have still : afterPrefix? segment.reverse (c :: left ++ more) = none :=
      afterPrefix?_append_of_none more (by simp; omega) absent
    rw [List.cons_append] at still ⊢
    rw [searchBack, still]
    exact ih found
  | case4 c left after before here clean =>
    obtain rfl := Option.some.inj found
    have again := afterPrefix?_append_of_some more here
    rw [List.cons_append] at again ⊢
    rw [searchBack, again]
    simp [startsClean_append separated, clean]
  | case5 c left after before here dirty ih =>
    have again := afterPrefix?_append_of_some more here
    rw [List.cons_append] at again ⊢
    rw [searchBack, again]
    simp only [startsClean_append separated, dirty]
    exact ih found

/-- A directory that is found in a path is found at the same place below another directory. -/
theorem findSegment_below (directory : List Char) (found : findSegment path segment = some place) :
    findSegment (directory ++ '/' :: path) segment =
      some ⟨directory ++ '/' :: place.before, place.after⟩ := by
  have meaningful : ¬(segment = [] ∨ segment = ['.']) := by
    have named := findSegment_named found
    rintro (empty | point)
    · exact named.1 empty
    · exact named.2 point
  rw [findSegment, if_neg meaningful] at found ⊢
  have turned : (directory ++ '/' :: path).reverse = path.reverse ++ '/' :: directory.reverse := by simp
  rw [turned, searchBack_append rfl found]
  simp

/-- What is not found in a path is found in front of the path, if at all. -/
theorem length_lt_of_searchBack_append {more : List Char} (nonempty : segment ≠ []) (separated : more.head? = some '/')
    (absent : searchBack segment skip left after = none)
    (found : searchBack segment skip (left ++ more) after = some place) :
    place.before.length < more.length := by
  have positive := List.length_pos_iff.mpr nonempty
  fun_induction searchBack segment skip left after with
  | case1 skip after =>
    have := extent_le_of_searchBack found
    simp only [List.nil_append] at this
    omega
  | case2 skip c left after ih =>
    rw [List.cons_append, searchBack] at found
    exact ih absent found
  | case3 c left after unlike ih =>
    by_cases wide : segment.length ≤ (c :: left).length
    · have still := afterPrefix?_append_of_none more (by simpa using wide) unlike
      rw [List.cons_append] at still found
      rw [searchBack, still] at found
      exact ih absent found
    · -- an occurrence that ends here reaches across the joint, and the search goes on in front of it
      rw [List.cons_append, searchBack] at found
      simp only [List.length_cons] at wide
      split at found
      · exact ih absent found
      · rename_i before across
        have extent := congrArg List.length (eq_append_of_afterPrefix? across)
        simp only [List.length_cons, List.length_append, List.length_reverse] at extent
        split at found
        · obtain rfl := Option.some.inj found
          simp only [List.length_reverse]
          omega
        · have := extent_le_of_searchBack found
          simp only [List.length_append] at this
          omega
  | case4 c left after before here clean => contradiction
  | case5 c left after before here dirty ih =>
    have again := afterPrefix?_append_of_some more here
    rw [List.cons_append] at again found
    rw [searchBack, again] at found
    simp only [startsClean_append separated, dirty] at found
    exact ih absent found

/-- A place that is found below a directory is found from there on. -/
theorem findSegment_of_below {directory before : List Char}
    (found : findSegment (directory ++ '/' :: path) segment = some ⟨directory ++ '/' :: before, after⟩) :
    findSegment path segment = some ⟨before, after⟩ := by
  have named := findSegment_named found
  cases inner : findSegment path segment with
  | some place =>
    rw [findSegment_below directory inner] at found
    obtain ⟨front, back⟩ := Split.mk.inj (Option.some.inj found)
    have same := (List.cons.inj (List.append_cancel_left front)).2
    cases place
    simp_all
  | none =>
    have meaningful : ¬(segment = [] ∨ segment = ['.']) := fun h => h.elim named.1 named.2
    rw [findSegment, if_neg meaningful] at inner found
    have turned : (directory ++ '/' :: path).reverse = path.reverse ++ '/' :: directory.reverse := by simp
    rw [turned] at found
    have outside := length_lt_of_searchBack_append named.1 rfl inner found
    simp at outside

end Path

/-! ### Directories and what lies in them -/

namespace Path

variable {directory path : String}

/-- A normal path with a name, below which other paths can be written. -/
structure IsOuter (directory : String) : Prop where
  normal : ∃ path, directory = normalize path
  named : directory ≠ "."
  belowRoot : directory ≠ "/"

/-- A normal path from a directory to something inside it. -/
structure IsWithin (path : String) : Prop where
  normal : ∃ other, path = normalize other
  relative : isAbsolute path.toList = false
  named : path ≠ "."
  inside : up ∉ names path.toList

theorem IsOuter.names_ne_nil (outer : IsOuter directory) : names directory.toList ≠ [] := by
  intro empty
  have text := (isNormal_of_exists_normalize outer.normal).of_names_eq_nil empty
  split at text
  · exact outer.belowRoot (String.toList_inj.mp text)
  · exact outer.named (String.toList_inj.mp text)

theorem IsWithin.names_ne_nil (within : IsWithin path) : names path.toList ≠ [] := by
  intro empty
  have text := (isNormal_of_exists_normalize within.normal).of_names_eq_nil empty
  rw [within.relative, if_neg (by simp)] at text
  exact within.named (String.toList_inj.mp text)

/-- Nothing is resolved at the joint, since the path makes no step up. -/
theorem IsWithin.isNormal_below (within : IsWithin path) (outer : IsOuter directory) :
    IsNormal (directory.toList ++ '/' :: path.toList) := by
  have front := isNormal_of_exists_normalize outer.normal
  have back := isNormal_of_exists_normalize within.normal
  have whole : directory.toList ++ '/' :: path.toList =
      render (isAbsolute directory.toList) (names directory.toList ++ names path.toList) :=
    calc directory.toList ++ '/' :: path.toList
      _ = directory.toList ++ '/' :: glue '/' (names path.toList) :=
        congrArg (_ ++ '/' :: ·) (back.eq_glue within.relative within.names_ne_nil)
      _ = opening (isAbsolute directory.toList) [] ++ glue '/' (names directory.toList ++ names path.toList) :=
        front.append_slash outer.names_ne_nil within.names_ne_nil
      _ = render (isAbsolute directory.toList) (names directory.toList ++ names path.toList) :=
        (render_append _ [] (by simp [within.names_ne_nil])).symm
  have proper : ∀ segment ∈ names directory.toList ++ names path.toList, IsProper segment := by
    intro segment member
    rcases List.mem_append.mp member with above | below
    · exact front.shape.1.proper segment above
    · exact back.shape.1.proper segment below
  rw [whole, isNormal_render_iff proper, upsLead_append_iff]
  refine ⟨front.shape.1.ups, upsLead_of_notMem within.inside, ?_⟩
  intro climb
  exact absurd climb within.inside

end Path

theorem Side.Holds.below {side : Side} {path before below : List Char} (directory : List Char)
    (holds : side.Holds path before below) :
    side.Holds (directory ++ '/' :: path) (directory ++ '/' :: before) below :=
  ⟨findSegment_below directory holds.found, holds.named, holds.file⟩

namespace Mapper

variable {here there : Side} {directory path target : String}

theorem normalizeChars_below (outer : IsOuter directory) (within : IsWithin path) :
    normalizeChars (directory ++ "/" ++ path).toList = directory.toList ++ '/' :: path.toList := by
  have normal : normalizeChars (directory.toList ++ '/' :: path.toList) = _ :=
    within.isNormal_below outer
  simpa using normal

theorem relocate_below (outer : IsOuter directory) (within : IsWithin path)
    (mapped : relocate here there path = .mapped path target) :
    relocate here there (directory ++ "/" ++ path) =
      .mapped (directory ++ "/" ++ path) (directory ++ "/" ++ target) := by
  obtain ⟨-, before, below, holds, text⟩ := relocate_eq_mapped_iff.mp mapped
  refine relocate_eq_mapped_iff.mpr ⟨?_, directory.toList ++ '/' :: before, below, ?_, ?_⟩
  · rw [normalizeChars_below outer within]
    simp
  · simpa using holds.below directory.toList
  · simp [text, Side.place]

theorem classKey_below (mapper : Mapper) (outer : IsOuter directory) (within : IsWithin path) :
    mapper.classKey (directory ++ "/" ++ path) = mapper.classKey path := by
  have normal : normalizeChars path.toList = path.toList := isNormal_of_exists_normalize within.normal
  rw [classKey, classKey, stem, stem, stemChars, stemChars, normalizeChars_below outer within, normal,
    afterLast_append_sep]

theorem routeKey?_below (mapper : Mapper) (outer : IsOuter directory) (within : IsWithin path)
    (known : (mapper.routeKey? path).isSome) :
    mapper.routeKey? (directory ++ "/" ++ path) = mapper.routeKey? path := by
  have normal : normalizeChars path.toList = path.toList := isNormal_of_exists_normalize within.normal
  rw [routeKey?, normal] at known
  rw [routeKey?, routeKey?, normalizeChars_below outer within, normal]
  cases found : findSegment path.toList mapper.controllers.base.toList with
  | none => simp [found] at known
  | some place => rw [findSegment_below _ found]

/-- A path that is mapped from the root of a project is mapped in the same way below any directory around
it, and a controller keeps its keys and its alias there. -/
theorem mapped_alike_below (mapper : Mapper) {directory path : String} (outer : IsOuter directory)
    (within : IsWithin path) :
    (∀ target, mapper.toView path = .mapped path target →
      mapper.toView (directory ++ "/" ++ path) =
        .mapped (directory ++ "/" ++ path) (directory ++ "/" ++ target)) ∧
    (∀ target, mapper.toController path = .mapped path target →
      mapper.toController (directory ++ "/" ++ path) =
        .mapped (directory ++ "/" ++ path) (directory ++ "/" ++ target)) ∧
    mapper.classKey (directory ++ "/" ++ path) = mapper.classKey path ∧
    ((mapper.routeKey? path).isSome →
      mapper.routeKey? (directory ++ "/" ++ path) = mapper.routeKey? path ∧
      ∀ env, mapper.routeAlias? env (directory ++ "/" ++ path) = mapper.routeAlias? env path) := by
  refine ⟨fun _ => relocate_below outer within, fun _ => relocate_below outer within,
    mapper.classKey_below outer within, fun known => ?_⟩
  have key := mapper.routeKey?_below outer within known
  refine ⟨key, fun env => ?_⟩
  rw [routeAlias?, routeAlias?, key, mapper.classKey_below outer within]

/-- The base also stands across the joint, in the last name of the directory and the first of the path. -/
theorem users_mapped_alike_below_part_of_base :
    IsOuter "/home/src" ∧ IsWithin "src/src/admin/users.controller.ts" ∧
    (Mapper.mk ⟨"src/src", ".controller.ts"⟩ ⟨"src/views", ".html"⟩).toView
        "/home/src/src/src/admin/users.controller.ts" =
      .mapped "/home/src/src/src/admin/users.controller.ts" "/home/src/src/views/admin/users.html" ∧
    (Mapper.mk ⟨"src/src", ".controller.ts"⟩ ⟨"src/views", ".html"⟩).routeAlias?
        { root := ".", aliases := ⟨[("admin/users", "list")]⟩ }
        "/home/src/src/src/admin/users.controller.ts" = some "list" := by
  have outer : IsOuter "/home/src" := ⟨⟨"/home/src", by decide⟩, by decide, by decide⟩
  have within : IsWithin "src/src/admin/users.controller.ts" :=
    ⟨⟨"src/src/admin/users.controller.ts", by decide⟩, by decide, by decide, by decide⟩
  obtain ⟨viewed, -, -, keyed⟩ := mapped_alike_below
    ⟨⟨"src/src", ".controller.ts"⟩, ⟨"src/views", ".html"⟩⟩ outer within
  obtain ⟨-, aliased⟩ := keyed (by decide +kernel)
  exact ⟨outer, within, viewed "src/views/admin/users.html" (by decide +kernel),
    (aliased _).trans (by decide +kernel)⟩

end Mapper

end SeedNavigator
