import SeedNavigator.Proofs.Path.NormalForm

/-! Paths as walks from directory to directory. A path and its normal form lead to the same place from
every start, since the stack of the segments that remain is kept in step with the walk. A normal form is
some steps up and then names, which can be read off the places it leads to: what differs in form leads
apart from some start. -/
namespace SeedNavigator.Path

open SeedNavigator.Text

/-- One step from a place, which is given by its directories with the deepest one first. Nothing is
above the root. -/
def step (place : List Segment) (segment : Segment) : List Segment :=
  if segment = [] ∨ segment = here then place
  else if segment = up then place.tail
  else segment :: place

/-- Where a path leads from a place. An absolute path does not care where it starts. -/
def walk (path : List Char) (start : List Segment) : List Segment :=
  let unified := unifySeparators path
  (pieces '/' unified).foldl step (if isAbsolute unified then [] else start)

/-- Two spellings of one way: they lead to the same place, wherever one starts. -/
def LeadAlike (path other : String) : Prop :=
  ∀ start, walk path.toList start = walk other.toList start

variable {absolute : Bool} {segments inner stack start place : List Segment} {segment : Segment}
  {path : List Char}

/-! ### Single steps -/

theorem step_of_isIdle (h : isIdle segment = true) : step place segment = place := by
  rw [step, if_pos (isIdle_iff.mp h)]

@[simp] theorem step_up (place : List Segment) : step place up = place.tail := by
  simp [step, up, here]

theorem step_name (proper : IsProper segment) (h : segment ≠ up) :
    step place segment = segment :: place := by
  simp [step, proper.nonempty, proper.leads, h]

theorem foldl_step_names (path : List Char) (place : List Segment) :
    (pieces '/' path).foldl step place = (names path).foldl step place :=
  foldl_names (fun _ _ => step_of_isIdle) path place

/-- The stack of remaining segments leads where the segments so far have led. -/
theorem foldl_step_enter (normal : Normal absolute stack.reverse) (proper : IsProper segment)
    (rooted : absolute = true → start = []) :
    (enter absolute stack segment).reverse.foldl step start =
      step (stack.reverse.foldl step start) segment := by
  by_cases climb : segment = up
  · subst climb
    -- a step up stays on the stack unless it meets the root or a name, and takes the name with it
    cases stack with
    | nil =>
      cases absolute with
      | true => simp [rooted rfl]
      | false => simp
    | cons last before =>
      by_cases same : last = up
      · subst same
        simp [List.foldl_append]
      · have own : IsProper last := normal.proper last (by simp)
        rw [enter_up_name same, List.reverse_cons, List.foldl_append, List.foldl_cons, List.foldl_nil,
          step_name own same, step_up, List.tail_cons]
  · rw [enter_name proper climb, List.reverse_cons, List.foldl_append, List.foldl_cons, List.foldl_nil]

theorem foldl_step_foldl_enter (proper : ∀ segment ∈ segments, IsProper segment)
    (normal : Normal absolute stack.reverse) (rooted : absolute = true → start = []) :
    (segments.foldl (enter absolute) stack).reverse.foldl step start =
      segments.foldl step (stack.reverse.foldl step start) := by
  induction segments generalizing stack with
  | nil => rfl
  | cons segment rest ih =>
    have own := proper segment List.mem_cons_self
    have later : ∀ other ∈ rest, IsProper other := fun other member =>
      proper other (List.mem_cons_of_mem _ member)
    rw [List.foldl_cons, ih later (enter_normal normal own), foldl_step_enter normal own rooted,
      List.foldl_cons]

/-! ### Walks along normal paths -/

theorem walk_render (proper : ∀ segment ∈ segments, IsProper segment) (start : List Segment) :
    walk (render absolute segments) start =
      segments.foldl step (if absolute then [] else start) := by
  rw [walk, unifySeparators_eq_self (notMem_backslash_render proper), isAbsolute_render proper,
    foldl_step_names, names_render proper]

/-- The normal form leads where the path leads. -/
theorem walk_normalizeChars (path : List Char) (start : List Segment) :
    walk (normalizeChars path) start = walk path start := by
  have clean := notMem_backslash_unifySeparators path
  have rooted : isAbsolute (unifySeparators path) = true →
      (if isAbsolute (unifySeparators path) then [] else start) = [] := by
    intro absolute
    rw [if_pos absolute]
  rw [normalizeChars, walk_render (resolved_normal clean).proper, walk, resolved, foldl_enter_names,
    foldl_step_foldl_enter (fun _ => isProper_of_mem_names clean) ⟨by simp, by simp, by simp⟩ rooted,
    foldl_step_names]
  rfl

/-- Steps up in front, names behind them. -/
structure Climbs (segments : List Segment) (height : Nat) (inner : List Segment) : Prop where
  split : segments = List.replicate height up ++ inner
  names : ∀ segment ∈ inner, IsProper segment ∧ segment ≠ up

theorem Normal.exists_climbs (normal : Normal absolute segments) :
    ∃ height inner, Climbs segments height inner := by
  obtain ⟨proper, first, -⟩ := normal
  induction segments with
  | nil => exact ⟨0, [], rfl, by simp⟩
  | cons segment rest ih =>
    obtain ⟨ahead, later⟩ := List.pairwise_cons.mp first
    by_cases climb : segment = up
    · obtain ⟨height, inner, split, names⟩ :=
        ih (fun other member => proper other (List.mem_cons_of_mem _ member)) later
      exact ⟨height + 1, inner, by rw [climb, split, List.replicate_succ, List.cons_append], names⟩
    · refine ⟨0, segment :: rest, rfl, fun other member => ⟨proper other member, ?_⟩⟩
      rcases List.mem_cons.mp member with rfl | behind
      · exact climb
      · exact mt (ahead other behind) climb

theorem Normal.height_eq_zero (normal : Normal true segments) {height : Nat}
    (climbs : Climbs segments height inner) : height = 0 := by
  have absent := normal.ups.below rfl
  rw [climbs.split, List.mem_append, List.mem_replicate] at absent
  rcases Nat.eq_zero_or_pos height with none | positive
  · exact none
  · exact absurd (.inl ⟨Nat.ne_of_gt positive, rfl⟩) absent

theorem foldl_step_replicate (height : Nat) (place : List Segment) :
    (List.replicate height up).foldl step place = place.drop height := by
  induction height generalizing place with
  | zero => rfl
  | succ height ih => rw [List.replicate_succ, List.foldl_cons, step_up, ih, List.drop_tail]

theorem foldl_step_inner (names : ∀ segment ∈ inner, IsProper segment ∧ segment ≠ up)
    (place : List Segment) : inner.foldl step place = inner.reverse ++ place := by
  induction inner generalizing place with
  | nil => rfl
  | cons segment rest ih =>
    obtain ⟨proper, leads⟩ := names segment List.mem_cons_self
    rw [List.foldl_cons, step_name proper leads,
      ih fun other member => names other (List.mem_cons_of_mem _ member)]
    simp

theorem Climbs.foldl_step {height : Nat} (climbs : Climbs segments height inner)
    (place : List Segment) : segments.foldl step place = inner.reverse ++ place.drop height := by
  rw [climbs.split, List.foldl_append, foldl_step_replicate, foldl_step_inner climbs.names]

/-- From the root only the names are seen, and from a deep enough place the steps up and whether the path
starts over at the root. -/
theorem Normal.eq_of_walk {other : Bool} {others : List Segment} (normal : Normal absolute segments)
    (otherNormal : Normal other others)
    (alike : ∀ start, segments.foldl step (if absolute then [] else start) =
      others.foldl step (if other then [] else start)) :
    absolute = other ∧ segments = others := by
  obtain ⟨height, inner, climbs⟩ := normal.exists_climbs
  obtain ⟨otherHeight, otherInner, otherClimbs⟩ := otherNormal.exists_climbs
  -- all steps up stay at the root, so the names alone are left
  have same : inner = otherInner := by
    have fromRoot := alike []
    simpa [climbs.foldl_step, otherClimbs.foldl_step] using fromRoot
  subst same
  -- neither path climbs out of this place, and an absolute one leaves it at once
  let start := List.replicate (height + otherHeight + 1) ['d']
  have depth := congrArg List.length (alike start)
  rw [climbs.foldl_step, otherClimbs.foldl_step, List.length_append, List.length_append,
    List.length_drop, List.length_drop] at depth
  have equal : absolute = other ∧ height = otherHeight := by
    cases absolute <;> cases other <;> simp [start] at depth ⊢
    · omega
    · omega
    · omega
    · rw [normal.height_eq_zero climbs, otherNormal.height_eq_zero otherClimbs]
  refine ⟨equal.1, ?_⟩
  rw [climbs.split, otherClimbs.split, equal.2]

theorem normalizeChars_eq_iff {other : List Char} :
    normalizeChars path = normalizeChars other ↔ ∀ start, walk path start = walk other start := by
  constructor
  · intro same start
    rw [← walk_normalizeChars path, same, walk_normalizeChars]
  · intro alike
    have normal := resolved_normal (notMem_backslash_unifySeparators path)
    have otherNormal := resolved_normal (notMem_backslash_unifySeparators other)
    obtain ⟨rooted, remaining⟩ := normal.eq_of_walk otherNormal fun start => by
      rw [← walk_render normal.proper, ← walk_render otherNormal.proper]
      exact (walk_normalizeChars path start).trans
        ((alike start).trans (walk_normalizeChars other start).symm)
    rw [normalizeChars, normalizeChars, rooted, remaining]

theorem normalize_eq_normalize_iff {path other : String} :
    normalize path = normalize other ↔ LeadAlike path other := by
  rw [normalize, normalize, String.ofList_inj, normalizeChars_eq_iff]
  rfl

/-- Two paths have one normal form exactly if they spell one way, and the normal form spells it too. -/
theorem normalize_eq_iff_leadAlike (path other : String) :
    (normalize path = normalize other ↔ LeadAlike path other) ∧ LeadAlike (normalize path) path := by
  refine ⟨normalize_eq_normalize_iff, fun start => ?_⟩
  rw [normalize, String.toList_ofList]
  exact walk_normalizeChars path.toList start

example : LeadAlike "src\\app/../lib/" ".//src/lib" := normalize_eq_normalize_iff.mp (by decide)

end SeedNavigator.Path
