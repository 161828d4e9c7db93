import SeedNavigator.Proofs.Path.RoundTrip

/-! Switching back and forth. The way back from a counterpart may lead to another file than the one that was
left, but no further: from then on two files lead to each other. What the second step keeps below the base it
found was kept by the first one too, so the third step finds nothing there that the first one did not. -/
namespace SeedNavigator

open SeedNavigator.Text SeedNavigator.Path

/-- No later segment ends with the first one. -/
def Path.StartsOnce (segments : List Segment) : Prop :=
  ∀ segment ∈ segments.tail, ¬segments.headD [] <:+ segment

instance {segments : List Segment} : Decidable (StartsOnce segments) :=
  inferInstanceAs (Decidable (∀ segment ∈ segments.tail, ¬segments.headD [] <:+ segment))

/-- The base lies inside a project and does not begin again within itself. -/
structure Side.IsDistinct (side : Side) : Prop extends side.IsInner where
  plain : side.suffix ≠ "."
  once : StartsOnce (names side.base.toList)

variable {here there side : Side} {path before below : List Char}

theorem Side.isDistinct_iff : side.IsDistinct ↔
    side.IsInner ∧ side.suffix ≠ "." ∧ StartsOnce (names side.base.toList) := by
  constructor
  · rintro ⟨inner, plain, once⟩
    exact ⟨inner, plain, once⟩
  · rintro ⟨inner, plain, once⟩
    exact ⟨inner, plain, once⟩

instance : Decidable side.IsDistinct := decidable_of_iff _ Side.isDistinct_iff.symm

namespace Side.IsDistinct

/-- If the base went on behind its own end, one of its later segments would end with the first one. -/
theorem ends (own : side.IsDistinct) : ∀ width < side.base.toList.length, 0 < width →
    ¬side.base.toList.drop width ++ ['/'] <+: side.base.toList := by
  rintro width short positive ⟨rest, again⟩
  have cut : pieces '/' side.base.toList = names side.base.toList := by
    simpa [own.relative] using own.normal.pieces_eq own.names_ne_nil
  obtain ⟨first, others, found⟩ := List.exists_cons_of_ne_nil own.names_ne_nil
  -- the part behind `width` begins with the first segment, since the base goes on with it
  obtain ⟨after, cutBack⟩ : ∃ after, pieces '/' (side.base.toList.drop width) = first :: after := by
    obtain ⟨head, after, cutBack⟩ :=
      List.exists_cons_of_ne_nil (pieces_ne_nil '/' (side.base.toList.drop width))
    have joined := congrArg (pieces '/') again
    rw [List.append_assoc, List.singleton_append, pieces_append_sep, cutBack, cut, found] at joined
    exact ⟨after, (List.cons.inj joined).1 ▸ cutBack⟩
  obtain ⟨before, last, cutFront⟩ :=
    (List.eq_nil_or_concat (pieces '/' (side.base.toList.take width))).resolve_left (pieces_ne_nil _ _)
  rw [List.concat_eq_append] at cutFront
  have whole := pieces_append cutFront cutBack
  rw [List.take_append_drop, cut, found] at whole
  cases before with
  | nil =>
    have empty : last = [] := by simpa using (List.cons.inj whole).1
    have text := glue_pieces '/' (side.base.toList.take width)
    rw [cutFront, empty] at text
    have length := congrArg List.length text
    simp [glue] at length
    omega
  | cons piece before =>
    have member : last ++ first ∈ others := by simp [(List.cons.inj whole).2]
    exact own.once (last ++ first) (by simpa [found] using member) (by simp [found])

theorem unobstructed (own : side.IsDistinct) : Unobstructed side.base.toList path :=
  unobstructed_of_ends own.ends

/-- Two places of the base have a separator between them. -/
theorem apart (own : side.IsDistinct) {place other : Split} (stands : Stands side.base.toList path place)
    (again : Stands side.base.toList path other) (later : place.before.length < other.before.length) :
    place.before.length + side.base.toList.length < other.before.length := by
  refine Nat.lt_of_le_of_ne (stands.apart own.ends again.parts later) fun adjacent => ?_
  have parts := stands.parts.symm.trans again.parts
  rw [List.append_assoc other.before] at parts
  obtain ⟨-, rest⟩ := List.append_inj parts (by simpa using adjacent)
  obtain ⟨c, base, text⟩ := List.exists_cons_of_ne_nil own.searchable.1
  have slash : c = '/' := by simpa [rest, text, endsClean] using stands.finish
  have relative := own.relative
  simp [isAbsolute, text, slash] at relative

end Side.IsDistinct

/-- What stands behind a base can stand behind another front as well. -/
theorem Path.Stands.exists_behind {segment front tail : List Char} {place : Split}
    (stands : Stands segment (front ++ tail) place) (behind : front.length < place.before.length)
    (other : List Char) :
    ∃ moved, Stands segment (other ++ tail) moved ∧ other.length < moved.before.length := by
  obtain ⟨parts, start, finish⟩ := stands
  obtain ⟨gap, split⟩ : front <+: place.before :=
    List.prefix_of_prefix_length_le (List.prefix_append front tail)
      (parts ▸ by simp [List.append_assoc]) (Nat.le_of_lt behind)
  have wide : gap ≠ [] := by
    rintro rfl
    simp [← split] at behind
  have rest : tail = gap ++ segment ++ place.after := by
    rw [← split, List.append_assoc, List.append_assoc] at parts
    simpa using List.append_cancel_left parts
  refine ⟨⟨other ++ gap, place.after⟩, ⟨by simp [rest], ?_, finish⟩, ?_⟩
  · obtain ⟨init, c, rfl⟩ := (List.eq_nil_or_concat gap).resolve_left wide
    simpa [startsClean, ← split] using start
  · simpa using List.length_pos_iff.mpr wide

namespace Mapper

/-- The base that the second step put in is found again by the third one. -/
theorem holds_of_second_step (own : here.IsDistinct) (other : there.IsDistinct)
    {before' below' : List Char} (holds : here.Holds path before below)
    (holds' : there.Holds (there.place before below) before' below') :
    here.Holds (here.place before' below') before' below' := by
  have first := (findSegment_eq_some_iff own.searchable own.unobstructed).mp holds.found
  have second := (findSegment_eq_some_iff other.searchable other.unobstructed).mp holds'.found
  have placed := own.stands_place first.stands there below
  have returned := other.stands_place second.stands here below'
  refine ⟨(findSegment_eq_some_iff own.searchable own.unobstructed).mpr ⟨returned, fun again stands => ?_⟩,
    holds'.named, holds'.file⟩
  refine Nat.not_lt.mp fun later => ?_
  rcases Nat.eq_or_lt_of_le (second.last _ placed) with same | further
  · -- the second step went back to where the first one came from
    have place_eq := Split.ext_of_length placed.parts second.stands.parts same
    simp only [Split.mk.injEq, List.cons.injEq, true_and, List.append_cancel_right_eq] at place_eq
    obtain ⟨rfl, rfl⟩ := place_eq
    exact Nat.not_lt.mpr (first.last again (holds.path_eq ▸ stands)) later
  · -- the second step found a base below the one that the first step put in
    have room := other.apart placed second.stands further
    obtain ⟨gap, deeper⟩ : ∃ gap, '/' :: below = gap ++ '/' :: below' := by
      have parts := second.stands.parts
      obtain ⟨gap, split⟩ : before ++ there.base.toList <+: before' :=
        List.prefix_of_prefix_length_le (placed.parts ▸ List.prefix_append ..)
          (parts ▸ by simp [List.append_assoc]) (by simpa using Nat.le_of_lt room)
      rw [← split, Side.place, List.append_assoc _ gap, List.append_assoc _ (gap ++ _)] at parts
      have rest : '/' :: below ++ there.suffix.toList =
          (gap ++ there.base.toList ++ '/' :: below') ++ there.suffix.toList := by
        simpa using List.append_cancel_left parts
      exact ⟨gap ++ there.base.toList, List.append_cancel_right rest⟩
    have source : path = (before ++ here.base.toList ++ gap) ++ '/' :: (below' ++ here.suffix.toList) := by
      have text := holds.path_eq
      rw [Side.place, ← List.cons_append, deeper] at text
      simpa using text
    obtain ⟨moved, found, behind⟩ := Stands.exists_behind stands
      (by simpa using own.apart returned stands later) (before ++ here.base.toList ++ gap)
    have ahead := first.last moved (source ▸ found)
    simp only [List.length_append] at behind ahead
    omega

/-- Both counterparts are normal, so nothing is lost between the steps. -/
theorem relocate_settles (own : here.IsDistinct) (other : there.IsDistinct)
    {path source source' target back : String} (mapped : relocate here there path = .mapped source target)
    (returned : relocate there here target = .mapped source' back) :
    relocate here there back = .mapped back target := by
  obtain ⟨_, -, leaving⟩ := returns_of_mapped own.toIsInner other.toIsInner mapped
  obtain ⟨_, -, returning⟩ := returns_of_mapped other.toIsInner own.toIsInner returned
  have targetNormal : IsNormal target.toList := normalize_eq_iff.mp (leaving.normal other.plain)
  have backNormal : IsNormal back.toList := normalize_eq_iff.mp (returning.normal own.plain)
  obtain ⟨-, before, below, holds, text⟩ := relocate_eq_mapped_iff.mp mapped
  obtain ⟨normal, before', below', holds', text'⟩ := relocate_eq_mapped_iff.mp returned
  rw [normal, targetNormal, text] at holds'
  have third := holds_of_second_step own other holds holds'
  rw [← text'] at third
  exact relocate_eq_mapped_iff.mpr ⟨backNormal.symm, before', below', third, text.trans holds'.path_eq⟩

/-- From the second step on, two files lead to each other. -/
theorem switching_settles (mapper : Mapper) (controllers : mapper.controllers.IsDistinct)
    (views : mapper.views.IsDistinct) (path source source' target back : String) :
    (mapper.toView path = .mapped source target → mapper.toController target = .mapped source' back →
      mapper.toView back = .mapped back target) ∧
    (mapper.toController path = .mapped source target → mapper.toView target = .mapped source' back →
      mapper.toController back = .mapped back target) :=
  ⟨relocate_settles controllers views, relocate_settles views controllers⟩

/-- The way back takes the views base below the controllers, and stays there. -/
theorem home_settles_below_both_bases :
    (Mapper.mk ⟨"src/app/controllers", ".controller.ts"⟩ ⟨"src/app/views", ".html"⟩).toView
        "src/app/controllers/src/app/views/home.controller.ts" =
      .mapped "src/app/controllers/src/app/views/home.controller.ts" "src/app/views/src/app/views/home.html" ∧
    (Mapper.mk ⟨"src/app/controllers", ".controller.ts"⟩ ⟨"src/app/views", ".html"⟩).toController
        "src/app/views/src/app/views/home.html" =
      .mapped "src/app/views/src/app/views/home.html"
        "src/app/views/src/app/controllers/home.controller.ts" ∧
    (Mapper.mk ⟨"src/app/controllers", ".controller.ts"⟩ ⟨"src/app/views", ".html"⟩).toView
        "src/app/views/src/app/controllers/home.controller.ts" =
      .mapped "src/app/views/src/app/controllers/home.controller.ts"
        "src/app/views/src/app/views/home.html" := by
  have mapped : (Mapper.mk ⟨"src/app/controllers", ".controller.ts"⟩ ⟨"src/app/views", ".html"⟩).toView
      "src/app/controllers/src/app/views/home.controller.ts" =
        .mapped "src/app/controllers/src/app/views/home.controller.ts"
          "src/app/views/src/app/views/home.html" := by
    decide +kernel
  have returned : (Mapper.mk ⟨"src/app/controllers", ".controller.ts"⟩ ⟨"src/app/views", ".html"⟩).toController
      "src/app/views/src/app/views/home.html" =
        .mapped "src/app/views/src/app/views/home.html"
          "src/app/views/src/app/controllers/home.controller.ts" := by
    decide +kernel
  exact ⟨mapped, returned, (switching_settles _ (by decide) (by decide) _ _ _ _ _).1 mapped returned⟩

end Mapper

end SeedNavigator
