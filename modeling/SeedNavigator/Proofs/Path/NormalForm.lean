import SeedNavigator.Path.Join
import SeedNavigator.Proofs.Text.Pieces

/-! The shape of normal paths: an optional root and proper segments, with the steps up in front and
none of them behind a root. Normalizing gives a path of this shape and changes none that has it. -/
namespace SeedNavigator.Path

open SeedNavigator.Text

/-- A segment that is kept: it leads somewhere and holds no separator of either kind. -/
structure IsProper (segment : Segment) : Prop where
  nonempty : segment ≠ []
  leads : segment ≠ here
  slash : '/' ∉ segment
  backslash : '\\' ∉ segment

/-- Steps up come first, and nothing is above a root. -/
structure UpsLead (absolute : Bool) (segments : List Segment) : Prop where
  first : segments.Pairwise fun a b => b = up → a = up
  below : absolute = true → up ∉ segments

structure Normal (absolute : Bool) (segments : List Segment) : Prop where
  proper : ∀ segment ∈ segments, IsProper segment
  ups : UpsLead absolute segments

def IsNormal (path : List Char) : Prop := normalizeChars path = path

variable {absolute : Bool} {segments stack : List Segment} {segment : Segment} {path : List Char}

theorem upsLead_append_iff {outer inner : List Segment} :
    UpsLead absolute (outer ++ inner) ↔ UpsLead absolute outer ∧ UpsLead absolute inner ∧
      (up ∈ inner → ∀ segment ∈ outer, segment = up) := by
  constructor
  · rintro ⟨first, below⟩
    obtain ⟨outerFirst, innerFirst, across⟩ := List.pairwise_append.mp first
    refine ⟨⟨outerFirst, fun h member => below h (List.mem_append_left _ member)⟩,
      ⟨innerFirst, fun h member => below h (List.mem_append_right _ member)⟩, ?_⟩
    exact fun member segment inOuter => across segment inOuter up member rfl
  · rintro ⟨⟨outerFirst, outerBelow⟩, ⟨innerFirst, innerBelow⟩, across⟩
    refine ⟨List.pairwise_append.mpr ⟨outerFirst, innerFirst, ?_⟩, fun h member => ?_⟩
    · rintro a inOuter b inInner rfl
      exact across inInner a inOuter
    · rcases List.mem_append.mp member with member | member
      · exact outerBelow h member
      · exact innerBelow h member

theorem upsLead_of_notMem (h : up ∉ segments) : UpsLead absolute segments :=
  ⟨List.pairwise_of_forall_mem_list fun _ _ _ member eq => absurd (eq ▸ member) h, fun _ => h⟩

theorem isAbsolute_append (front back : List Char) :
    isAbsolute (front ++ back) = if front = [] then isAbsolute back else isAbsolute front := by
  cases front <;> simp [isAbsolute]

theorem upsLead_append_singleton_iff (h : segment ≠ up) :
    UpsLead absolute (segments ++ [segment]) ↔ UpsLead absolute segments := by
  rw [upsLead_append_iff]
  refine ⟨And.left, fun ups => ⟨ups, upsLead_of_notMem (by simp [h.symm]), fun member => ?_⟩⟩
  exact absurd (List.mem_singleton.mp member).symm h

/-! ### Names -/

theorem isProper_iff : IsProper segment ↔
    segment ≠ [] ∧ segment ≠ here ∧ '/' ∉ segment ∧ '\\' ∉ segment := by
  constructor
  · intro proper
    exact ⟨proper.nonempty, proper.leads, proper.slash, proper.backslash⟩
  · rintro ⟨nonempty, leads, slash, backslash⟩
    exact ⟨nonempty, leads, slash, backslash⟩

instance : Decidable (IsProper segment) := decidable_of_iff _ isProper_iff.symm

theorem isIdle_iff : isIdle segment = true ↔ segment = [] ∨ segment = here := by
  simp [isIdle, here]

theorem IsProper.not_isIdle (proper : IsProper segment) : isIdle segment = false := by
  rw [Bool.eq_false_iff, ne_eq, isIdle_iff]
  exact fun h => h.elim proper.nonempty proper.leads

theorem filter_proper (proper : ∀ segment ∈ segments, IsProper segment) :
    segments.filter (fun segment => !isIdle segment) = segments :=
  List.filter_eq_self.mpr fun segment member => by simp [(proper segment member).not_isIdle]

@[simp] theorem names_nil : names [] = [] := rfl

theorem names_append_slash (front back : List Char) :
    names (front ++ '/' :: back) = names front ++ names back := by
  simp [names, pieces_append_sep]

@[simp] theorem names_slash (path : List Char) : names ('/' :: path) = names path := by
  simpa using names_append_slash [] path

theorem isProper_of_mem_names (clean : '\\' ∉ path) (member : segment ∈ names path) :
    IsProper segment := by
  obtain ⟨piece, kept⟩ := List.mem_filter.mp member
  have busy : ¬(segment = [] ∨ segment = here) := by
    intro idle
    simp [isIdle_iff.mpr idle] at kept
  exact ⟨fun h => busy (.inl h), fun h => busy (.inr h), notMem_of_mem_pieces piece,
    fun inside => clean (mem_of_mem_pieces piece inside)⟩

/-! ### Entering segments -/

theorem enter_of_isIdle (h : isIdle segment = true) : enter absolute stack segment = stack := by
  simp [enter, isIdle_iff.mp h]

/-- What idle segments do not change is reached by the names alone. -/
theorem foldl_names {α : Type} {next : α → Segment → α}
    (idle : ∀ state segment, isIdle segment = true → next state segment = state) (path : List Char)
    (state : α) : (pieces '/' path).foldl next state = (names path).foldl next state := by
  rw [names]
  induction pieces '/' path generalizing state with
  | nil => rfl
  | cons piece rest ih =>
    cases known : isIdle piece with
    | true => simp [known, idle state piece known, ih]
    | false => simp [known, ih]

theorem foldl_enter_names (path : List Char) (stack : List Segment) :
    (pieces '/' path).foldl (enter absolute) stack = (names path).foldl (enter absolute) stack :=
  foldl_names (fun _ _ => enter_of_isIdle) path stack

theorem enter_name (proper : IsProper segment) (h : segment ≠ up) :
    enter absolute stack segment = segment :: stack := by
  simp [enter, proper.nonempty, proper.leads, h]

@[simp] theorem enter_up_nil : enter absolute [] up = if absolute then [] else [up] := by
  cases absolute <;> rfl

@[simp] theorem enter_up_up : enter absolute (up :: stack) up = up :: up :: stack := by
  simp [enter, up, here]

theorem enter_up_name {last : Segment} (h : last ≠ up) : enter absolute (last :: stack) up = stack := by
  have busy : ¬(up = [] ∨ up = here) := by decide
  simp [enter, busy, h]

theorem normal_append_singleton (normal : Normal absolute segments) (proper : IsProper segment)
    (h : segment = up → absolute = false ∧ ∀ other ∈ segments, other = up) :
    Normal absolute (segments ++ [segment]) := by
  refine ⟨fun other member => ?_, upsLead_append_iff.mpr ⟨normal.ups, ⟨by simp, ?_⟩, ?_⟩⟩
  · rcases List.mem_append.mp member with member | member
    · exact normal.proper other member
    · exact List.mem_singleton.mp member ▸ proper
  · intro rooted member
    have climb := h (List.mem_singleton.mp member).symm
    simp [climb.1] at rooted
  · exact fun member => (h (List.mem_singleton.mp member).symm).2

theorem enter_normal (normal : Normal absolute stack.reverse) (proper : IsProper segment) :
    Normal absolute (enter absolute stack segment).reverse := by
  by_cases climb : segment = up
  · subst climb
    cases stack with
    | nil =>
      cases absolute with
      | true => exact normal
      | false => exact normal_append_singleton normal proper (by simp)
    | cons last before =>
      rw [List.reverse_cons] at normal
      obtain ⟨outer, inner, across⟩ := upsLead_append_iff.mp normal.ups
      by_cases same : last = up
      · subst same
        have relative : absolute = false :=
          Bool.eq_false_iff.mpr fun rooted => inner.below rooted List.mem_cons_self
        rw [enter_up_up, List.reverse_cons, List.reverse_cons]
        refine normal_append_singleton normal proper fun _ => ⟨relative, fun other member => ?_⟩
        rcases List.mem_append.mp member with member | member
        · exact across List.mem_cons_self other member
        · exact List.mem_singleton.mp member
      · rw [enter_up_name same]
        exact ⟨fun other member => normal.proper other (List.mem_append_left _ member), outer⟩
  · rw [enter_name proper climb, List.reverse_cons]
    exact normal_append_singleton normal proper fun h => absurd h climb

theorem foldl_enter_normal (proper : ∀ segment ∈ segments, IsProper segment)
    (normal : Normal absolute stack.reverse) :
    Normal absolute (segments.foldl (enter absolute) stack).reverse := by
  induction segments generalizing stack with
  | nil => exact normal
  | cons segment rest ih =>
    exact ih (fun other member => proper other (List.mem_cons_of_mem _ member))
      (enter_normal normal (proper segment List.mem_cons_self))

theorem resolved_normal (clean : '\\' ∉ path) : Normal (isAbsolute path) (resolved path) := by
  rw [resolved, foldl_enter_names]
  exact foldl_enter_normal (fun _ => isProper_of_mem_names clean) ⟨by simp, ⟨by simp, by simp⟩⟩

/-- Segments in normal order pile up: none of them is dropped or takes another away. -/
theorem foldl_enter_eq (normal : Normal absolute (stack.reverse ++ segments)) :
    segments.foldl (enter absolute) stack = segments.reverse ++ stack := by
  induction segments generalizing stack with
  | nil => simp
  | cons segment rest ih =>
    have proper := normal.proper segment (by simp)
    obtain ⟨-, later, across⟩ := upsLead_append_iff.mp normal.ups
    have push : enter absolute stack segment = segment :: stack := by
      by_cases climb : segment = up
      · subst climb
        have relative : absolute = false :=
          Bool.eq_false_iff.mpr fun rooted => later.below rooted List.mem_cons_self
        subst relative
        cases stack with
        | nil => rfl
        | cons last before =>
          obtain rfl : last = up := across List.mem_cons_self last (by simp)
          exact enter_up_up
      · exact enter_name proper climb
    rw [List.foldl_cons, push, ih (by simpa using normal)]
    simp

/-! ### Rendering -/

theorem notMem_backslash_render (proper : ∀ segment ∈ segments, IsProper segment) :
    '\\' ∉ render absolute segments := by
  have inGlue : '\\' ∉ glue '/' segments := by
    intro member
    rcases mem_glue member with h | ⟨segment, among, inside⟩
    · simp at h
    · exact (proper segment among).backslash inside
  simp only [render]
  split
  · simpa using inGlue
  · split
    · decide
    · exact inGlue

theorem dropDeviceMark_eq_self (clean : '\\' ∉ path) : dropDeviceMark path = path := by
  unfold dropDeviceMark
  split <;> simp_all

/-- The mark of a device ends with a backslash, so it does not go on into a text without one. -/
theorem dropDeviceMark_append (front : List Char) {tail : List Char} (clean : '\\' ∉ tail) :
    dropDeviceMark (front ++ tail) = dropDeviceMark front ++ tail := by
  fun_cases dropDeviceMark front with
  | case1 rest => rfl
  | case2 rest => rfl
  | case3 question point =>
    unfold dropDeviceMark
    split
    · rcases front with _ | ⟨a, _ | ⟨b, _ | ⟨c, _ | ⟨d, more⟩⟩⟩⟩ <;> simp_all
    · rcases front with _ | ⟨a, _ | ⟨b, _ | ⟨c, _ | ⟨d, more⟩⟩⟩⟩ <;> simp_all
    · rfl

theorem unifySeparators_eq_self (clean : '\\' ∉ path) : unifySeparators path = path := by
  have fixed : ∀ c ∈ path, (if c = '\\' then '/' else c) = id c := by
    intro c member
    have other : c ≠ '\\' := fun same => clean (same ▸ member)
    rw [if_neg other, id]
  rw [unifySeparators, dropDeviceMark_eq_self clean, List.map_congr_left fixed, List.map_id]

theorem unifySeparators_append (front : List Char) {tail : List Char} (clean : '\\' ∉ tail) :
    unifySeparators (front ++ tail) = unifySeparators front ++ tail := by
  have kept := unifySeparators_eq_self clean
  rw [unifySeparators, dropDeviceMark_eq_self clean] at kept
  rw [unifySeparators, dropDeviceMark_append front clean, List.map_append, kept, unifySeparators]

theorem notMem_backslash_unifySeparators (path : List Char) : '\\' ∉ unifySeparators path := by
  intro member
  obtain ⟨c, -, turned⟩ := List.mem_map.mp member
  split at turned
  · simp at turned
  · contradiction

theorem isAbsolute_glue (proper : ∀ segment ∈ segments, IsProper segment) :
    isAbsolute (glue '/' segments) = false := by
  cases segments with
  | nil => rfl
  | cons segment rest =>
    have own := proper segment List.mem_cons_self
    obtain ⟨c, tail, rfl⟩ := List.exists_cons_of_ne_nil own.nonempty
    have slash : c ≠ '/' := fun h => own.slash (h ▸ List.mem_cons_self)
    by_cases last : rest = []
    · subst last
      simp [glue, isAbsolute, slash]
    · rw [glue_cons _ last]
      simp [isAbsolute, slash]

theorem isAbsolute_render (proper : ∀ segment ∈ segments, IsProper segment) :
    isAbsolute (render absolute segments) = absolute := by
  cases absolute with
  | true => rfl
  | false =>
    by_cases h : segments = []
    · subst h
      rfl
    · simpa [render, h] using isAbsolute_glue proper

theorem names_glue (proper : ∀ segment ∈ segments, IsProper segment) :
    names (glue '/' segments) = segments := by
  by_cases h : segments = []
  · subst h
    rfl
  · rw [names, pieces_glue h fun segment member => (proper segment member).slash, filter_proper proper]

theorem names_render (proper : ∀ segment ∈ segments, IsProper segment) :
    names (render absolute segments) = segments := by
  cases absolute with
  | true => simpa [render] using names_glue proper
  | false =>
    by_cases h : segments = []
    · subst h
      rfl
    · simpa [render, h] using names_glue proper

theorem normalizeChars_render (normal : Normal absolute segments) :
    normalizeChars (render absolute segments) = render absolute segments := by
  have kept : resolved (render absolute segments) = segments := by
    rw [resolved, foldl_enter_names, names_render normal.proper, isAbsolute_render normal.proper,
      foldl_enter_eq (by simpa using normal)]
    simp
  rw [normalizeChars, unifySeparators_eq_self (notMem_backslash_render normal.proper)]
  simp only [isAbsolute_render normal.proper, kept]

/-! ### Normal paths -/

theorem isNormal_normalizeChars (path : List Char) : IsNormal (normalizeChars path) :=
  normalizeChars_render (resolved_normal (notMem_backslash_unifySeparators path))

theorem normalize_eq_iff {path : String} : normalize path = path ↔ IsNormal path.toList := by
  rw [normalize, IsNormal]
  constructor
  · intro h
    simpa using congrArg String.toList h
  · intro h
    rw [h, String.ofList_toList]

theorem isNormal_of_exists_normalize {path : String} (normal : ∃ other, path = normalize other) :
    IsNormal path.toList := by
  obtain ⟨other, rfl⟩ := normal
  simpa [normalize] using isNormal_normalizeChars other.toList

/-- A name at the end of a path is the last name of the normal form. -/
theorem exists_names_normalizeChars_append {front : List Char} {name : Segment}
    (proper : IsProper name) (ahead : name ≠ up) (start : front = [] ∨ front.getLast? = some '/') :
    ∃ outer, names (normalizeChars (front ++ name)) = outer ++ [name] := by
  have alone : names name = [name] := by
    rw [names, pieces_of_notMem proper.slash]
    exact filter_proper (by simpa using proper)
  have written : names (unifySeparators (front ++ name)) = names (unifySeparators front) ++ [name] := by
    rw [unifySeparators_append front proper.backslash]
    rcases start with rfl | separated
    · exact alone
    · obtain ⟨init, rfl⟩ := List.getLast?_eq_some_iff.mp separated
      rw [unifySeparators_append init (by decide), List.append_assoc, List.singleton_append,
        names_append_slash, alone, names_append_slash, names_nil, List.append_nil]
  have clean := notMem_backslash_unifySeparators (front ++ name)
  rw [normalizeChars, names_render (resolved_normal clean).proper, resolved, foldl_enter_names, written,
    List.foldl_append, List.foldl_cons, List.foldl_nil, enter_name proper ahead, List.reverse_cons]
  exact ⟨_, rfl⟩

theorem IsNormal.shape (h : IsNormal path) :
    Normal (isAbsolute path) (names path) ∧ path = render (isAbsolute path) (names path) := by
  obtain ⟨absolute, segments, normal, rfl⟩ :
      ∃ absolute segments, Normal absolute segments ∧ path = render absolute segments :=
    ⟨_, _, resolved_normal (notMem_backslash_unifySeparators path), h.symm⟩
  rw [isAbsolute_render normal.proper, names_render normal.proper]
  exact ⟨normal, rfl⟩

theorem isNormal_render_iff (proper : ∀ segment ∈ segments, IsProper segment) :
    IsNormal (render absolute segments) ↔ UpsLead absolute segments := by
  constructor
  · intro h
    have ups := h.shape.1.ups
    rwa [isAbsolute_render proper, names_render proper] at ups
  · exact fun ups => normalizeChars_render ⟨proper, ups⟩

/-- A normal path without segments is the root or the current directory. -/
theorem IsNormal.of_names_eq_nil (h : IsNormal path) (empty : names path = []) :
    path = if isAbsolute path then ['/'] else here := by
  have shape := h.shape.2
  rw [empty] at shape
  exact shape

theorem IsNormal.length_eq_one (h : IsNormal path) (empty : names path = []) : path.length = 1 := by
  have text := congrArg List.length (h.of_names_eq_nil empty)
  split at text <;> exact text

theorem IsNormal.ne_nil (h : IsNormal path) : path ≠ [] := by
  rintro rfl
  exact absurd (h.of_names_eq_nil rfl) (by decide)

theorem IsNormal.eq_glue (h : IsNormal path) (relative : isAbsolute path = false)
    (named : names path ≠ []) : path = glue '/' (names path) := by
  simpa [render, relative, named] using h.shape.2

theorem IsNormal.eq_slash_glue (h : IsNormal path) (rooted : isAbsolute path = true) :
    path = '/' :: glue '/' (names path) := by
  simpa [render, rooted] using h.shape.2

/-! ### What is below a directory -/

/-- The text in front of everything below the directory with these segments. -/
def opening (absolute : Bool) (outer : List Segment) : List Char :=
  (if absolute then ['/'] else []) ++ outer.flatMap (· ++ ['/'])

theorem render_append (absolute : Bool) (outer : List Segment) {inner : List Segment}
    (h : inner ≠ []) :
    render absolute (outer ++ inner) = opening absolute outer ++ glue '/' inner := by
  cases absolute <;> simp [render, opening, glue_append_eq outer h, h]

/-- A normal directory is its own root and the glued names, unless it has no name. -/
theorem IsNormal.eq_opening_append (h : IsNormal path) (named : names path ≠ []) :
    path = opening (isAbsolute path) [] ++ glue '/' (names path) := by
  rw [← render_append _ [] named]
  exact h.shape.2

theorem IsNormal.append_slash (h : IsNormal path) (named : names path ≠ []) {rest : List Segment}
    (below : rest ≠ []) :
    path ++ '/' :: glue '/' rest = opening (isAbsolute path) [] ++ glue '/' (names path ++ rest) := by
  have whole := congrArg (· ++ '/' :: glue '/' rest) (h.eq_opening_append named)
  simpa [glue_append named below] using whole

theorem IsNormal.pieces_eq (h : IsNormal path) (named : names path ≠ []) :
    pieces '/' path = (if isAbsolute path then [[]] else []) ++ names path := by
  have cut := pieces_glue named fun segment member => (h.shape.1.proper segment member).slash
  cases rooted : isAbsolute path with
  | false => simpa [← h.eq_glue rooted named] using cut
  | true => simpa [← h.eq_slash_glue rooted, cut] using @pieces_sep '/' (glue '/' (names path))

/-- The length of an absolute path with these segments, each behind its separator. -/
def extent (segments : List Segment) : Nat :=
  (segments.flatMap ('/' :: ·)).length

/-- A relative path has one separator less. -/
def lack (absolute : Bool) : Nat := if absolute then 0 else 1

theorem lack_inj {a b : Bool} (h : lack a = lack b) : a = b := by
  revert a b
  decide

@[simp] theorem extent_nil : extent [] = 0 := rfl

@[simp] theorem extent_append (outer inner : List Segment) :
    extent (outer ++ inner) = extent outer + extent inner := by
  simp [extent]

@[simp] theorem extent_singleton (segment : Segment) : extent [segment] = segment.length + 1 := by
  simp [extent]

theorem length_glue (h : segments ≠ []) : (glue '/' segments).length + 1 = extent segments := by
  induction segments with
  | nil => contradiction
  | cons segment rest ih =>
    by_cases last : rest = []
    · subst last
      exact (extent_singleton segment).symm
    · rw [glue_cons segment last, List.length_append, List.length_cons, ih last]
      simp [extent]

theorem IsNormal.length_eq (h : IsNormal path) (named : names path ≠ []) :
    path.length + lack (isAbsolute path) = extent (names path) := by
  rw [← length_glue named]
  cases rooted : isAbsolute path with
  | false => rw [← h.eq_glue rooted named, lack, if_neg (by simp)]
  | true => simpa [lack] using congrArg List.length (h.eq_slash_glue rooted)

/-- Behind a separator a normal path has proper segments only. -/
theorem IsNormal.proper_behind {front back : List Char} (h : IsNormal (front ++ '/' :: back))
    (nonempty : back ≠ []) : ∀ piece ∈ pieces '/' back, IsProper piece := by
  have named : names (front ++ '/' :: back) ≠ [] := by
    intro empty
    have text := congrArg List.length (h.of_names_eq_nil empty)
    have := List.length_pos_iff.mpr nonempty
    split at text <;> simp [here] at text <;> omega
  have cut := h.pieces_eq named
  rw [pieces_append_sep] at cut
  obtain ⟨first, others, front⟩ := List.exists_cons_of_ne_nil (pieces_ne_nil '/' front)
  rw [front] at cut
  intro piece member
  refine h.shape.1.proper piece ?_
  split at cut
  · have rest : others ++ pieces '/' back = names _ := (List.cons.inj cut).2
    exact rest ▸ List.mem_append_right _ member
  · have all : first :: others ++ pieces '/' back = names _ := cut
    exact all ▸ List.mem_append_right _ member

end SeedNavigator.Path
