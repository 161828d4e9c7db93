import SeedNavigator.Proofs.Descriptor.Bindings

/-! Routes read from a tree. Each object is judged by its own pairs alone, and of several pairs with one key by
the last, even if its value is no literal. The routes come in the order of the walk, so that an object stands
before those inside it. The program breaks down over a quoted key, or over a value under one of the two keys,
that it cannot take the quotes off. -/
namespace SeedNavigator.Descriptor.Structural

open Script

variable {name pair value object node tree : Node} {key text : String} {route : Route} {entry : Entry} {way : Way}
  {crash : Crash}

/-- A key is written bare or between quotes. -/
def Spells (name : Node) (key : String) : Prop :=
  name.Quotes key ∨ name.kind ≠ .string ∧ name.text = key

/-- A pair with its key and its value. -/
structure Pairs (pair name value : Node) : Prop where
  kind : pair.kind = .pair
  key : pair.child? .key = some name
  value : pair.child? .value = some value

/-- A pair that gives this value to a key. -/
def Enters (pair : Node) (key : String) (value : Node) : Prop :=
  ∃ name, Pairs pair name value ∧ Spells name key

/-- The last pair of the object itself with this key has a literal as its value. -/
def GivesLast (object : Node) (key text : String) : Prop :=
  ∃ before pair after value, object.children = before ++ pair :: after ∧ Enters pair key value ∧
    value.Quotes text ∧ ∀ later ∈ after, ∀ other, ¬Enters later key other

/-- An object whose last path and last alias are literals. -/
structure IsRoute (object : Node) (route : Route) : Prop where
  kind : object.kind = .object
  path : GivesLast object pathKey route.path
  as : GivesLast object aliasKey route.as

/-- The program breaks down over the key of a pair, or over its value if the key is one of a route. -/
inductive BreaksPair (pair : Node) : Prop
  | key {name value : Node} (pairs : Pairs pair name value) (breaks : name.Breaks)
  | value {key : String} {value : Node} (enters : Enters pair key value)
      (own : key = pathKey ∨ key = aliasKey) (breaks : value.Breaks)

/-- The program breaks down over a pair of the object itself. -/
structure BreaksObject (object : Node) : Prop where
  kind : object.kind = .object
  pair : ∃ pair ∈ object.children, BreaksPair pair

/-- The program breaks down over an object at any depth. -/
def BreaksRoutes (tree : Node) : Prop :=
  ∃ way object, tree.at? way = some object ∧ BreaksObject object

/-! ### One pair -/

theorem keyText?_eq_some_iff : keyText? name = .ok (some key) ↔ Spells name key := by
  rw [keyText?, Spells]
  split
  · rename_i quoted
    simp [Node.literal?_eq_some_iff, quoted]
  · rename_i bare
    have unquoted : ¬name.Quotes key := fun quotes => bare quotes.kind
    simp [bare, unquoted]

theorem keyText?_eq_error_iff : keyText? name = .error crash ↔ name.Breaks := by
  rw [keyText?]
  split
  · exact Node.literal?_eq_error_iff
  · rename_i bare
    simp only [reduceCtorEq, false_iff]
    exact fun breaks => bare breaks.kind

theorem entryOf?_eq_some_iff {key : Option String} : entryOf? value key = .ok (some entry) ↔
    key = some entry.key ∧ (entry.key = pathKey ∨ entry.key = aliasKey) ∧
      value.literal? = .ok entry.value := by
  obtain ⟨own, literal⟩ := entry
  cases key with
  | none => simp [entryOf?]
  | some key =>
    by_cases known : key = pathKey ∨ key = aliasKey
    · rw [entryOf?, if_pos known]
      cases value.literal? with
      | error crash => simp [Except.map]
      | ok found =>
        simp only [Except.map, Except.ok.injEq, Option.some.injEq, Entry.mk.injEq]
        constructor
        · rintro ⟨rfl, rfl⟩
          exact ⟨rfl, known, rfl⟩
        · rintro ⟨rfl, -, rfl⟩
          exact ⟨rfl, rfl⟩
    · rw [entryOf?, if_neg known]
      simp only [Except.ok.injEq, reduceCtorEq, Option.some.injEq, false_iff]
      rintro ⟨rfl, own, -⟩
      exact known own

theorem entryOf?_eq_error_iff {key : Option String} : entryOf? value key = .error crash ↔
    ∃ own, key = some own ∧ (own = pathKey ∨ own = aliasKey) ∧ value.Breaks := by
  have broken : value.literal? = .error crash ↔ value.Breaks := Node.literal?_eq_error_iff
  rw [← broken]
  cases key with
  | none => simp [entryOf?]
  | some key =>
    by_cases known : key = pathKey ∨ key = aliasKey
    · rw [entryOf?, if_pos known]
      cases value.literal? with
      | error other => simpa [Except.map] using known
      | ok found => simp [Except.map]
    · rw [entryOf?, if_neg known]
      simp only [reduceCtorEq, Option.some.injEq, exists_eq_left', false_iff]
      rintro ⟨own, -⟩
      exact known own

/-- What is read of a pair is read of its key and its value. -/
theorem entered?_of_pairs (pairs : Pairs pair name value) : entered? pair = keyText? name >>= entryOf? value := by
  simp only [entered?, pairs.kind, pairs.key, pairs.value, if_true]

theorem entered?_of_not_pairs (other : ∀ name value, ¬Pairs pair name value) : entered? pair = .ok none := by
  rw [entered?]
  split
  · rename_i kind
    split
    · rename_i name value named valued
      exact absurd ⟨kind, named, valued⟩ (other name value)
    · rfl
  · rfl

theorem Pairs.unique {otherName other : Node} (pairs : Pairs pair name value)
    (others : Pairs pair otherName other) : name = otherName ∧ value = other :=
  ⟨Option.some.inj (pairs.key.symm.trans others.key), Option.some.inj (pairs.value.symm.trans others.value)⟩

theorem entered?_eq_some_iff : entered? pair = .ok (some entry) ↔ ∃ value, Enters pair entry.key value ∧
    (entry.key = pathKey ∨ entry.key = aliasKey) ∧ value.literal? = .ok entry.value := by
  constructor
  · intro read
    by_cases found : ∃ name value, Pairs pair name value
    · obtain ⟨name, value, pairs⟩ := found
      rw [entered?_of_pairs pairs] at read
      cases spelled : keyText? name with
      | error crash => simp [spelled, bind, Except.bind] at read
      | ok key =>
        rw [spelled] at read
        obtain ⟨rfl, own, literal⟩ := entryOf?_eq_some_iff.mp read
        exact ⟨value, ⟨name, pairs, keyText?_eq_some_iff.mp spelled⟩, own, literal⟩
    · rw [entered?_of_not_pairs fun name value pairs => found ⟨name, value, pairs⟩] at read
      simp at read
  · rintro ⟨value, ⟨name, pairs, spells⟩, own, literal⟩
    rw [entered?_of_pairs pairs, keyText?_eq_some_iff.mpr spells]
    exact entryOf?_eq_some_iff.mpr ⟨rfl, own, literal⟩

theorem entered?_eq_error_iff : entered? pair = .error crash ↔ BreaksPair pair := by
  constructor
  · intro broken
    by_cases found : ∃ name value, Pairs pair name value
    · obtain ⟨name, value, pairs⟩ := found
      rw [entered?_of_pairs pairs] at broken
      cases spelled : keyText? name with
      | error crash => exact .key pairs (keyText?_eq_error_iff.mp spelled)
      | ok key =>
        rw [spelled] at broken
        obtain ⟨key, rfl, own, breaks⟩ := entryOf?_eq_error_iff.mp broken
        exact .value ⟨name, pairs, keyText?_eq_some_iff.mp spelled⟩ own breaks
    · rw [entered?_of_not_pairs fun name value pairs => found ⟨name, value, pairs⟩] at broken
      contradiction
  · rintro (⟨pairs, breaks⟩ | ⟨⟨name, pairs, spells⟩, own, breaks⟩)
    · have broken : keyText? _ = .error crash := keyText?_eq_error_iff.mpr breaks
      rw [entered?_of_pairs pairs, broken]
      rfl
    · rw [entered?_of_pairs pairs, keyText?_eq_some_iff.mpr spells]
      exact entryOf?_eq_error_iff.mpr ⟨_, rfl, own, breaks⟩

/-! ### One object -/

/-- What the pairs of an object say about the keys of a route. -/
def entries (object : Node) : List Entry :=
  object.children.filterMap (kept entered?)

/-- Unless the program breaks down over it, a pair with a key of a route is taken down. -/
theorem any_kept_iff (own : key = pathKey ∨ key = aliasKey) (whole : ¬BreaksPair pair) :
    (kept entered? pair).any (·.key = key) = true ↔ ∃ value, Enters pair key value := by
  rw [Option.any_eq_true]
  constructor
  · rintro ⟨entry, read, same⟩
    obtain rfl : entry.key = key := of_decide_eq_true same
    obtain ⟨value, enters, -⟩ := entered?_eq_some_iff.mp (kept_eq_some_iff.mp read)
    exact ⟨value, enters⟩
  · rintro ⟨value, enters⟩
    cases literal : value.literal? with
    | error crash => exact absurd (.value enters own (Node.literal?_eq_error_iff.mp literal)) whole
    | ok found =>
      exact ⟨⟨key, found⟩, kept_eq_some_iff.mpr (entered?_eq_some_iff.mpr ⟨value, enters, own, literal⟩), by simp⟩

theorem Enters.unique {other : Node} (enters : Enters pair key value) (others : Enters pair key other) :
    value = other := by
  obtain ⟨name, pairs, -⟩ := enters
  obtain ⟨otherName, otherPairs, -⟩ := others
  exact (pairs.unique otherPairs).2

theorem lastEntered?_eq_some_iff (own : key = pathKey ∨ key = aliasKey)
    (whole : ∀ pair ∈ object.children, ¬BreaksPair pair) :
    lastEntered? key (entries object) = some text ↔ GivesLast object key text := by
  rw [lastEntered?, entries, ← List.filterMap_reverse, List.find?_filterMap]
  simp only [Option.bind_eq_some_iff, find?_reverse_eq_some_iff, ← Bool.not_eq_true]
  constructor
  · rintro ⟨entry, ⟨pair, ⟨named, before, after, list, last⟩, read⟩, literal⟩
    rw [read] at named
    obtain rfl : entry.key = key := by simpa using named
    obtain ⟨value, enters, -, given⟩ := entered?_eq_some_iff.mp (kept_eq_some_iff.mp read)
    rw [literal] at given
    refine ⟨before, pair, after, value, list, enters, Node.literal?_eq_some_iff.mp given, ?_⟩
    intro later member other others
    exact last later member ((any_kept_iff own (whole later (by simp [list, member]))).mpr ⟨other, others⟩)
  · rintro ⟨before, pair, after, value, list, enters, quotes, last⟩
    have literal := Node.literal?_eq_some_iff.mpr quotes
    refine ⟨⟨key, some text⟩, ⟨pair, ⟨(any_kept_iff own (whole pair (by simp [list]))).mpr ⟨value, enters⟩,
      before, after, list, fun later member named => ?_⟩,
      kept_eq_some_iff.mpr (entered?_eq_some_iff.mpr ⟨value, enters, own, literal⟩)⟩, rfl⟩
    obtain ⟨other, others⟩ := (any_kept_iff own (whole later (by simp [list, member]))).mp named
    exact last later member other others

theorem route?_eq_error_iff : route? node = .error crash ↔ BreaksObject node := by
  have broken : collect entered? node.children = .error crash ↔ ∃ pair ∈ node.children, BreaksPair pair := by
    simp only [collect_eq_error_iff, entered?_eq_error_iff]
  rw [route?]
  split
  · rename_i kind
    have own : BreaksObject node ↔ ∃ pair ∈ node.children, BreaksPair pair :=
      ⟨fun breaks => breaks.pair, fun pair => ⟨kind, pair⟩⟩
    rw [own, ← broken]
    cases collect entered? node.children <;> simp [Except.map]
  · rename_i other
    simp only [reduceCtorEq, false_iff]
    exact fun breaks => other breaks.kind

theorem routeOf?_eq_some_iff {entries : List Entry} : routeOf? entries = some route ↔
    lastEntered? pathKey entries = some route.path ∧ lastEntered? aliasKey entries = some route.as := by
  obtain ⟨path, as⟩ := route
  simp [routeOf?, Option.bind_eq_some_iff]

theorem kept_route?_eq_some_iff (whole : ¬BreaksObject node) :
    kept route? node = some route ↔ IsRoute node route := by
  rw [kept_eq_some_iff, route?]
  split
  · rename_i kind
    have clean : ∀ pair ∈ node.children, ¬BreaksPair pair :=
      fun pair member breaks => whole ⟨kind, pair, member, breaks⟩
    have read : collect entered? node.children = .ok (entries node) :=
      collect_of_ok fun pair member crash broken => clean pair member (entered?_eq_error_iff.mp broken)
    rw [read, Except.map, Except.ok.injEq, routeOf?_eq_some_iff, lastEntered?_eq_some_iff (.inl rfl) clean,
      lastEntered?_eq_some_iff (.inr rfl) clean]
    exact ⟨fun ⟨path, as⟩ => ⟨kind, path, as⟩, fun isRoute => ⟨isRoute.path, isRoute.as⟩⟩
  · rename_i other
    simp only [Except.ok.injEq, reduceCtorEq, false_iff]
    exact fun isRoute => other isRoute.kind

/-! ### All routes of a tree -/

/-- The routes with the ways to their objects. -/
def placedRoutes (tree : Node) : List (Way × Route) :=
  tree.places.filterMap fun place => (kept route? place.2).map (place.1, ·)

theorem map_placedRoutes (tree : Node) : (placedRoutes tree).map (·.2) = tree.visit.filterMap (kept route?) := by
  rw [placedRoutes, Node.visit_eq_places, List.map_filterMap, List.filterMap_map]
  simp only [Option.map_map, Function.comp_def, Option.map_id']

theorem placedRoutes_ordered (tree : Node) :
    (placedRoutes tree).Pairwise fun earlier later => earlier.1 < later.1 := by
  rw [placedRoutes, List.pairwise_filterMap]
  refine (Node.places_ordered tree).imp fun before _ first _ second => ?_
  obtain ⟨route, -, rfl⟩ := Option.map_eq_some_iff.mp first
  obtain ⟨other, -, rfl⟩ := Option.map_eq_some_iff.mp second
  exact before

theorem mem_placedRoutes_iff (whole : ¬BreaksRoutes tree) : (way, route) ∈ placedRoutes tree ↔
    ∃ object, tree.at? way = some object ∧ IsRoute object route := by
  rw [placedRoutes, List.mem_filterMap]
  constructor
  · rintro ⟨⟨_, object⟩, there, read⟩
    obtain ⟨_, found, same⟩ := Option.map_eq_some_iff.mp read
    obtain ⟨rfl, rfl⟩ := Prod.mk.inj same
    have reached := Node.mem_places_iff.mp there
    exact ⟨object, reached, (kept_route?_eq_some_iff fun breaks => whole ⟨_, object, reached, breaks⟩).mp found⟩
  · rintro ⟨object, there, isRoute⟩
    exact ⟨(way, object), Node.mem_places_iff.mpr there, Option.map_eq_some_iff.mpr
      ⟨route, (kept_route?_eq_some_iff fun breaks => whole ⟨way, object, there, breaks⟩).mpr isRoute, rfl⟩⟩

theorem routes_eq_error_iff : routes tree = .error crash ↔ BreaksRoutes tree := by
  simp only [routes, collect_eq_error_iff, Node.mem_visit_iff, route?_eq_error_iff, BreaksRoutes]
  constructor
  · rintro ⟨object, ⟨way, there⟩, breaks⟩
    exact ⟨way, object, there, breaks⟩
  · rintro ⟨way, object, there, breaks⟩
    exact ⟨object, ⟨way, there⟩, breaks⟩

theorem routes_of_whole (whole : ¬BreaksRoutes tree) : routes tree = .ok ((placedRoutes tree).map (·.2)) := by
  rw [map_placedRoutes]
  refine collect_of_ok fun object member crash broken => whole ?_
  obtain ⟨way, there⟩ := Node.mem_visit_iff.mp member
  exact ⟨way, object, there, route?_eq_error_iff.mp broken⟩

/-- The program breaks down over a tree, or it looks through all of it. Then the routes are those of the objects
in the order of the ways to them, one for each object that is a route. -/
theorem routes_by_way (tree : Node) :
    BreaksRoutes tree ∧ routes tree = .error .withinCharacter ∨
    ¬BreaksRoutes tree ∧ ∃ placed : List (Way × Route),
      routes tree = .ok (placed.map (·.2)) ∧
      (placed.Pairwise fun earlier later => earlier.1 < later.1) ∧
      ∀ way route, (way, route) ∈ placed ↔ ∃ object, tree.at? way = some object ∧ IsRoute object route := by
  by_cases breaks : BreaksRoutes tree
  · exact .inl ⟨breaks, routes_eq_error_iff.mpr breaks⟩
  · exact .inr ⟨breaks, placedRoutes tree, routes_of_whole breaks, placedRoutes_ordered tree,
      fun _ _ => mem_placedRoutes_iff breaks⟩

-- A value is only read under the keys of a route.
example : routes (program "[\x7b path: \"é\n\x7d]") = .error .withinCharacter ∧
    routes (program "[\x7b title: \"é\n, path: 'a', controllerAs: 'b' \x7d]") = .ok [⟨"a", "b"⟩] := by
  decide +kernel

end SeedNavigator.Descriptor.Structural
