import SeedNavigator.Environment.Scan

/-! What the table of aliases holds after routes have been added: for each key the alias of the first
route that has it, whatever was there before them taking precedence. -/
namespace SeedNavigator.Aliases

variable {table : Aliases} {key : String}

theorem get?_mk_cons (entry : String × String) (rest : List (String × String)) (key : String) :
    get? ⟨entry :: rest⟩ key = if entry.1 = key then some entry.2 else get? ⟨rest⟩ key := by
  by_cases h : entry.1 = key <;> simp [get?, h]

theorem get?_insert (table : Aliases) (route as key : String) :
    (table.insert route as).get? key = if route = key then some as else table.get? key := by
  obtain ⟨entries⟩ := table
  rw [insert]
  induction entries with
  | nil => rw [insertEntry, get?_mk_cons]
  | cons entry rest ih =>
    unfold insertEntry
    by_cases before : route < entry.1
    · rw [if_pos before, get?_mk_cons]
    · by_cases same : route = entry.1
      · rw [if_neg before, if_pos same, get?_mk_cons, get?_mk_cons, ← same]
        by_cases h : route = key <;> simp [h]
      · rw [if_neg before, if_neg same, get?_mk_cons, get?_mk_cons, ih]
        by_cases h : route = key
        · subst h
          simp [Ne.symm same]
        · simp [h]

/-- The alias that routes give to a key, the first of them deciding. -/
def firstAlias? (routes : List Route) (key : String) : Option String :=
  (routes.find? fun route => Path.normalize route.path = key).map (·.as)

theorem get?_addRoute (table : Aliases) (route : Route) (key : String) :
    (table.addRoute route).get? key = (table.get? key).or (firstAlias? [route] key) := by
  simp only [addRoute]
  by_cases same : Path.normalize route.path = key
  · subst same
    cases known : table.get? (Path.normalize route.path) with
    | some as => simp [known]
    | none => simp [get?_insert, firstAlias?]
  · have other : firstAlias? [route] key = none := by simp [firstAlias?, same]
    rw [other, Option.or_none]
    split
    · rfl
    · rw [get?_insert, if_neg same]

theorem firstAlias?_append (front back : List Route) (key : String) :
    firstAlias? (front ++ back) key = (firstAlias? front key).or (firstAlias? back key) := by
  rw [firstAlias?, List.find?_append, Option.map_or]
  rfl

theorem get?_addRoutes (routes : List Route) (table : Aliases) (key : String) :
    (routes.foldl addRoute table).get? key = (table.get? key).or (firstAlias? routes key) := by
  induction routes generalizing table with
  | nil => simp [firstAlias?]
  | cons route rest ih =>
    rw [List.foldl_cons, ih, get?_addRoute, Option.or_assoc, ← firstAlias?_append]
    rfl

theorem firstAlias?_isSome_iff (routes : List Route) :
    (∃ key, (firstAlias? routes key).isSome) ↔ routes ≠ [] := by
  constructor
  · rintro ⟨key, some⟩ rfl
    simp [firstAlias?] at some
  · intro nonempty
    obtain ⟨route, rest, rfl⟩ := List.exists_cons_of_ne_nil nonempty
    exact ⟨Path.normalize route.path, by simp [firstAlias?]⟩

theorem size_ne_zero_iff : table.size ≠ 0 ↔ ∃ key, (table.get? key).isSome := by
  obtain ⟨entries⟩ := table
  cases entries with
  | nil => simp [size, get?]
  | cons entry rest =>
    have known : (get? ⟨entry :: rest⟩ entry.1).isSome := by simp [get?_mk_cons]
    simp only [size, List.length_cons, ne_eq, Nat.add_eq_zero_iff, Nat.one_ne_zero, and_false,
      not_false_eq_true, true_iff]
    exact ⟨_, known⟩

end SeedNavigator.Aliases
