import SeedNavigator.Proofs.Descriptor.Values

/-! Which routes the bare text of a source gives. A route is spelled by a span of the text with its two
properties, in either order and with no line break between them. Spans are taken one after another, and none
that begins behind the one before is passed over. -/
namespace SeedNavigator.Descriptor.Textual

open SeedNavigator.Text

/-- The properties of a route. -/
inductive Key where
  | path
  | as
  deriving DecidableEq

namespace Key

def name : Key → List Char
  | path => pathName
  | as => aliasName

def other : Key → Key
  | path => as
  | as => path

def value (route : Route) : Key → List Char
  | path => route.path.toList
  | as => route.as.toList

/-- The route with the value of this property, and that of the other one. -/
def route (one two : List Char) : Key → Route
  | path => ⟨String.ofList one, String.ofList two⟩
  | as => ⟨String.ofList two, String.ofList one⟩

end Key

/-- Each quote in the text directly follows a backslash. -/
def IsEscaped (text : List Char) : Prop :=
  ∀ before after, text = before ++ '"' :: after → before.getLast? = some '\\'

/-- A property with its value in quotes, and blanks around the colon. -/
structure IsProperty (key : Key) (value text : List Char) : Prop where
  escaped : IsEscaped value
  form : ∃ left right, IsBlanks left ∧ IsBlanks right ∧
    text = key.name ++ (left ++ ':' :: (right ++ '"' :: (value ++ ['"'])))

/-- The property and the other one behind it, without a line break between them. -/
def IsPair (key : Key) (one two span : List Char) : Prop :=
  ∃ front gap back, IsProperty key one front ∧ '\n' ∉ gap ∧ IsProperty key.other two back ∧
    span = front ++ gap ++ back

/-- The span gives both properties of the route, whichever comes first. -/
def Spells (span : List Char) (route : Route) : Prop :=
  ∃ key : Key, IsPair key (key.value route) (key.other.value route) span

/-- Some route is spelled from the front of the text on. -/
def Begins (text : List Char) : Prop :=
  ∃ span rest route, Spells span route ∧ text = span ++ rest

/-- The routes are spelled by spans of the text, in order and apart from one another. No span begins in what
is passed over in front of them, between them or behind them. -/
inductive Finds : List Char → List Route → Prop
  | done (passed : List Char) (free : ∀ back, back <:+ passed → ¬Begins back) : Finds passed []
  | next (passed span rest : List Char) (route : Route) (routes : List Route) (spells : Spells span route)
      (free : ∀ back, back <:+ passed → back ≠ [] → ¬Begins (back ++ (span ++ rest)))
      (finds : Finds rest routes) : Finds (passed ++ (span ++ rest)) (route :: routes)

/-! ### Quoted texts -/

variable {text value rest seen : List Char}

/-- Each quote in the text directly follows a backslash; `seen` is what stands in front, in reverse. -/
def EscapedBehind (seen text : List Char) : Prop :=
  ∀ before after, text = before ++ '"' :: after → (before.reverse ++ seen).head? = some '\\'

theorem escapedBehind_nil_iff : EscapedBehind [] text ↔ IsEscaped text := by
  simp [EscapedBehind, IsEscaped]

theorem escapedBehind_nil (seen : List Char) : EscapedBehind seen [] := by
  simp [EscapedBehind]

theorem escapedBehind_cons_iff {c : Char} : EscapedBehind seen (c :: text) ↔
    (c = '"' → seen.head? = some '\\') ∧ EscapedBehind (c :: seen) text := by
  constructor
  · intro escaped
    refine ⟨fun quote => ?_, fun before after parts => ?_⟩
    · simpa using escaped [] text (by rw [quote]; rfl)
    · simpa using escaped (c :: before) after (by rw [parts]; rfl)
  · rintro ⟨here, later⟩ before after parts
    cases before with
    | nil => simpa using here (List.cons.inj parts).1
    | cons d before =>
      obtain ⟨rfl, tail⟩ := List.cons.inj parts
      simpa using later before after tail

/-- The quoted text that goes on here ends with `value`, and `rest` stands behind its quote. -/
def EndsWith (seen text value rest : List Char) : Prop :=
  ∃ more, value = seen.reverse ++ more ∧ text = more ++ '"' :: rest ∧ EscapedBehind seen more

theorem endsWith_nil : ¬EndsWith seen [] value rest := by
  rintro ⟨more, -, text, -⟩
  simp at text

theorem endsWith_cons_iff {c : Char} : EndsWith seen (c :: text) value rest ↔
    (c = '"' ∧ value = seen.reverse ∧ rest = text) ∨
      (c = '"' → seen.head? = some '\\') ∧ EndsWith (c :: seen) text value rest := by
  constructor
  · rintro ⟨more, rfl, parts, escaped⟩
    cases more with
    | nil =>
      obtain ⟨rfl, rfl⟩ := List.cons.inj parts
      exact .inl ⟨rfl, List.append_nil _, rfl⟩
    | cons d more =>
      obtain ⟨rfl, rfl⟩ := List.cons.inj parts
      obtain ⟨here, later⟩ := escapedBehind_cons_iff.mp escaped
      exact .inr ⟨here, more, by simp, rfl, later⟩
  · rintro (⟨rfl, rfl, rfl⟩ | ⟨here, more, rfl, rfl, later⟩)
    · exact ⟨[], (List.append_nil _).symm, rfl, escapedBehind_nil seen⟩
    · exact ⟨c :: more, by simp, rfl, escapedBehind_cons_iff.mpr ⟨here, later⟩⟩

theorem mem_closings_iff {found : List (List Char × List Char)} :
    (value, rest) ∈ closings seen text found ↔ (value, rest) ∈ found ∨ EndsWith seen text value rest := by
  fun_induction closings seen text found with
  | case1 seen found => simp [endsWith_nil]
  | case2 seen text found escaped ih =>
    rw [ih, endsWith_cons_iff, List.mem_cons, Prod.mk.injEq]
    simp only [escaped, implies_true, true_and]
    rw [or_assoc, or_left_comm]
  | case3 seen text found bare =>
    rw [endsWith_cons_iff, List.mem_cons, Prod.mk.injEq]
    simp only [bare, imp_false, not_true, false_and, true_and, or_false]
    exact or_comm
  | case4 seen c text found busy ih =>
    rw [ih, endsWith_cons_iff]
    have other : c ≠ '"' := fun same => busy same
    simp only [other, false_imp_iff, false_and, true_and, false_or]

theorem mem_quotedTexts_iff : (value, rest) ∈ quotedTexts text ↔ text = value ++ '"' :: rest ∧ IsEscaped value := by
  rw [quotedTexts, mem_closings_iff]
  simp [EndsWith, escapedBehind_nil_iff]

/-! ### Properties -/

theorem Key.notMem_newline (key : Key) : '\n' ∉ key.name := by
  cases key <;> decide +kernel

theorem Key.name_ne_nil (key : Key) : key.name ≠ [] := by
  cases key <;> decide +kernel

theorem IsProperty.ne_nil {key : Key} (property : IsProperty key value text) : text ≠ [] := by
  obtain ⟨-, left, right, -, -, rfl⟩ := property
  simp

/-- What is read here as a property. -/
theorem isProperty_iff {key : Key} : (∃ behind, valueOf? key.name ':' text = some behind ∧
    (value, rest) ∈ quotedTexts behind) ↔ ∃ front, IsProperty key value front ∧ text = front ++ rest := by
  have colon : isBlank ':' = false := rfl
  simp only [valueOf?_eq_some_iff colon, mem_quotedTexts_iff]
  constructor
  · rintro ⟨_, ⟨left, right, blankLeft, blankRight, rfl⟩, rfl, escaped⟩
    exact ⟨_, ⟨escaped, left, right, blankLeft, blankRight, rfl⟩, by simp⟩
  · rintro ⟨_, ⟨escaped, left, right, blankLeft, blankRight, rfl⟩, rfl⟩
    exact ⟨_, ⟨left, right, blankLeft, blankRight, by simp⟩, rfl, escaped⟩

/-- The property that is taken at one place, if there is any. -/
def property? (key : Key) (text : List Char) : Option (List Char × List Char) :=
  (valueOf? key.name ':' text).bind fun behind => (quotedTexts behind).head?

theorem property?_sound {key : Key} (taken : property? key text = some (value, rest)) :
    ∃ front, IsProperty key value front ∧ text = front ++ rest := by
  obtain ⟨behind, opened, first⟩ := Option.bind_eq_some_iff.mp taken
  exact isProperty_iff.mp ⟨behind, opened, List.mem_of_mem_head? first⟩

theorem property?_complete {key : Key} {front : List Char} (property : IsProperty key value front) (rest : List Char) :
    property? key (front ++ rest) ≠ none := by
  obtain ⟨behind, opened, member⟩ := isProperty_iff.mpr ⟨front, property, rfl⟩
  rw [property?, opened]
  simpa using List.ne_nil_of_mem member

/-- The property begins on this line, and `rest` stands behind it. -/
def OnLine (key : Key) (text value rest : List Char) : Prop :=
  ∃ gap front, '\n' ∉ gap ∧ IsProperty key value front ∧ text = gap ++ (front ++ rest)

theorem onLine_nil {key : Key} : ¬OnLine key [] value rest := by
  rintro ⟨gap, front, -, property, parts⟩
  simp [property.ne_nil] at parts

theorem onLine_newline {key : Key} : ¬OnLine key ('\n' :: text) value rest := by
  rintro ⟨gap, front, line, ⟨-, left, right, -, -, rfl⟩, parts⟩
  cases gap with
  | nil =>
    obtain ⟨c, name, named⟩ := List.exists_cons_of_ne_nil key.name_ne_nil
    have line := key.notMem_newline
    rw [named] at parts line
    obtain ⟨rfl, -⟩ := List.cons.inj parts
    simp at line
  | cons c gap =>
    obtain ⟨rfl, -⟩ := List.cons.inj parts
    simp at line

theorem onLine_cons_iff {key : Key} {c : Char} (line : c ≠ '\n') : OnLine key (c :: text) value rest ↔
    (∃ front, IsProperty key value front ∧ c :: text = front ++ rest) ∨ OnLine key text value rest := by
  constructor
  · rintro ⟨gap, front, own, property, parts⟩
    cases gap with
    | nil => exact .inl ⟨front, property, parts⟩
    | cons d gap =>
      obtain ⟨rfl, rfl⟩ := List.cons.inj parts
      exact .inr ⟨gap, front, fun inside => own (List.mem_cons_of_mem _ inside), property, rfl⟩
  · rintro (⟨front, property, parts⟩ | ⟨gap, front, own, property, rfl⟩)
    · exact ⟨[], front, by simp, property, parts⟩
    · exact ⟨c :: gap, front, by simp [own, line.symm], property, rfl⟩

theorem lastOnLine_cons {key : Key} {c : Char} (line : c ≠ '\n') (text : List Char)
    (best : Option (List Char × List Char)) :
    lastOnLine key.name (c :: text) best = lastOnLine key.name text ((property? key (c :: text)).or best) := by
  rw [lastOnLine, if_neg line, ← property?]
  cases property? key (c :: text) <;> rfl

/-- A property on the line is taken if there is one. -/
theorem lastOnLine_cases (key : Key) (text : List Char) (best : Option (List Char × List Char)) :
    (∃ value rest, lastOnLine key.name text best = some (value, rest) ∧ OnLine key text value rest) ∨
    lastOnLine key.name text best = best ∧ ∀ value rest, ¬OnLine key text value rest := by
  induction text generalizing best with
  | nil => exact .inr ⟨rfl, fun _ _ => onLine_nil⟩
  | cons c text ih =>
    by_cases line : c = '\n'
    · subst line
      exact .inr ⟨by simp [lastOnLine], fun _ _ => onLine_newline⟩
    · rw [lastOnLine_cons line]
      rcases ih ((property? key (c :: text)).or best) with ⟨value, rest, taken, later⟩ | ⟨taken, nowhere⟩
      · exact .inl ⟨value, rest, taken, (onLine_cons_iff line).mpr (.inr later)⟩
      · rw [taken]
        cases here : property? key (c :: text) with
        | some found =>
          obtain ⟨front, property, parts⟩ := property?_sound here
          exact .inl ⟨found.1, found.2, rfl, (onLine_cons_iff line).mpr (.inl ⟨front, property, parts⟩)⟩
        | none =>
          refine .inr ⟨rfl, fun value rest onLine => ?_⟩
          rcases (onLine_cons_iff line).mp onLine with ⟨front, property, parts⟩ | later
          · exact property?_complete property rest (parts ▸ here)
          · exact nowhere value rest later

theorem onLine_of_lastOnLine {key : Key} (taken : lastOnLine key.name text none = some (value, rest)) :
    OnLine key text value rest := by
  rcases lastOnLine_cases key text none with ⟨value', rest', found, onLine⟩ | ⟨found, -⟩
  · obtain ⟨rfl, rfl⟩ : value' = value ∧ rest' = rest := by simpa [found] using taken
    exact onLine
  · simp [found] at taken

theorem not_onLine_of_lastOnLine {key : Key} (absent : lastOnLine key.name text none = none)
    (value rest : List Char) : ¬OnLine key text value rest := by
  rcases lastOnLine_cases key text none with ⟨value', rest', found, -⟩ | ⟨-, nowhere⟩
  · simp [found] at absent
  · exact nowhere value rest

/-! ### Pairs -/

theorem isPair_iff {key : Key} {one two : List Char} : (∃ span, IsPair key one two span ∧ text = span ++ rest) ↔
    ∃ front behind, IsProperty key one front ∧ text = front ++ behind ∧ OnLine key.other behind two rest := by
  constructor
  · rintro ⟨_, ⟨front, gap, back, first, line, second, rfl⟩, rfl⟩
    exact ⟨front, gap ++ (back ++ rest), first, by simp, gap, back, line, second, rfl⟩
  · rintro ⟨front, _, first, rfl, gap, back, line, second, rfl⟩
    exact ⟨_, ⟨front, gap, back, first, line, second, rfl⟩, by simp⟩

/-- A pair at the front of the text is taken if there is one. -/
theorem pairAt?_cases (key : Key) (text : List Char) :
    (∃ one two rest span, pairAt? key.name key.other.name text = some (one, two, rest) ∧
      IsPair key one two span ∧ text = span ++ rest) ∨
    pairAt? key.name key.other.name text = none ∧
      ∀ one two span rest, IsPair key one two span → text ≠ span ++ rest := by
  cases found : pairAt? key.name key.other.name text with
  | some pair =>
    obtain ⟨one, two, rest⟩ := pair
    obtain ⟨value, opened, taken⟩ := Option.bind_eq_some_iff.mp found
    obtain ⟨⟨one', behind⟩, member, second⟩ := List.exists_of_findSome?_eq_some taken
    obtain ⟨⟨two', rest'⟩, last, same⟩ := Option.map_eq_some_iff.mp second
    obtain ⟨rfl, rfl, rfl⟩ : one' = one ∧ two' = two ∧ rest' = rest := by simpa using same
    obtain ⟨front, first, parts⟩ := isProperty_iff.mp ⟨value, opened, member⟩
    obtain ⟨span, pair, whole⟩ := isPair_iff.mpr ⟨front, behind, first, parts, onLine_of_lastOnLine last⟩
    exact .inl ⟨_, _, _, span, rfl, pair, whole⟩
  | none =>
    refine .inr ⟨rfl, fun one two span rest pair parts => ?_⟩
    obtain ⟨front, behind, first, whole, onLine⟩ := isPair_iff.mp ⟨span, pair, parts⟩
    obtain ⟨value, opened, member⟩ := isProperty_iff.mpr ⟨front, first, whole⟩
    rw [pairAt?, opened, Option.bind_some, List.findSome?_eq_none_iff] at found
    have absent := found _ member
    rw [Option.map_eq_none_iff] at absent
    exact not_onLine_of_lastOnLine absent _ _ onLine

theorem spells_iff {span : List Char} {route : Route} : Spells span route ↔
    IsPair .as route.as.toList route.path.toList span ∨ IsPair .path route.path.toList route.as.toList span := by
  constructor
  · rintro ⟨key, pair⟩
    cases key with
    | path => exact .inr pair
    | as => exact .inl pair
  · rintro (pair | pair)
    · exact ⟨.as, pair⟩
    · exact ⟨.path, pair⟩

theorem Spells.ne_nil {span : List Char} {route : Route} (spells : Spells span route) : span ≠ [] := by
  obtain ⟨key, front, gap, back, first, -, -, rfl⟩ := spells
  simp [first.ne_nil]

theorem IsPair.spells {key : Key} {one two span : List Char} (pair : IsPair key one two span) :
    Spells span (key.route one two) := by
  refine ⟨key, ?_⟩
  cases key <;> simpa [Key.value, Key.other, Key.route] using pair

/-- The route that begins here with this property. -/
def Key.routeAt? (key : Key) (text : List Char) : Option (Route × Nat) :=
  (pairAt? key.name key.other.name text).map fun (one, two, rest) => (key.route one two, rest.length)

theorem routeAt?_eq (text : List Char) : routeAt? text = (Key.as.routeAt? text).or (Key.path.routeAt? text) := by
  simp only [routeAt?, Key.routeAt?, Key.name, Key.other]
  cases pairAt? aliasName pathName text <;> rfl

theorem Key.routeAt?_cases (key : Key) (text : List Char) :
    (∃ route span rest, key.routeAt? text = some (route, rest.length) ∧ Spells span route ∧ text = span ++ rest) ∨
    key.routeAt? text = none ∧ ∀ one two span rest, IsPair key one two span → text ≠ span ++ rest := by
  rcases pairAt?_cases key text with ⟨one, two, rest, span, taken, pair, parts⟩ | ⟨absent, nowhere⟩
  · exact .inl ⟨_, span, rest, by rw [Key.routeAt?, taken]; rfl, pair.spells, parts⟩
  · exact .inr ⟨by rw [Key.routeAt?, absent]; rfl, nowhere⟩

/-- A route at the front of the text is taken if there is one. -/
theorem routeAt?_cases (text : List Char) :
    (∃ route span rest, routeAt? text = some (route, rest.length) ∧ Spells span route ∧ text = span ++ rest) ∨
    routeAt? text = none ∧ ¬Begins text := by
  rw [routeAt?_eq]
  rcases Key.as.routeAt?_cases text with ⟨route, span, rest, taken, found⟩ | ⟨absentAs, nowhereAs⟩
  · exact .inl ⟨route, span, rest, by rw [taken]; rfl, found⟩
  rw [absentAs, Option.none_or]
  rcases Key.path.routeAt?_cases text with found | ⟨absentPath, nowherePath⟩
  · exact .inl found
  · refine .inr ⟨absentPath, ?_⟩
    rintro ⟨span, rest, route, spells, parts⟩
    rcases spells_iff.mp spells with pair | pair
    · exact nowhereAs _ _ span rest pair parts
    · exact nowherePath _ _ span rest pair parts

/-! ### The search -/

/-- The routes of a text, given by its characters. -/
def routesIn (text : List Char) : List Route :=
  routesFrom text text.length text.length []

theorem routesFrom_found (text : List Char) (left resume : Nat) (found : List Route) :
    routesFrom text left resume found = found.reverse ++ routesFrom text left resume [] := by
  induction text generalizing left resume found with
  | nil => simp [routesFrom]
  | cons c text ih =>
    simp only [routesFrom]
    split
    · exact ih ..
    · split
      · rename_i route resume' _
        rw [ih _ _ (route :: found), ih _ _ [route]]
        simp
      · exact ih ..

/-- Where no route begins before, the search goes on from the end of the last one. -/
theorem routesFrom_resumed (span rest : List Char) (found : List Route) :
    routesFrom (span ++ rest) (span ++ rest).length rest.length found =
      routesFrom rest rest.length rest.length found := by
  induction span with
  | nil => rfl
  | cons c span ih =>
    have waits : rest.length < (c :: (span ++ rest)).length := by
      simp only [List.length_append, List.length_cons]
      omega
    rw [List.cons_append, routesFrom, if_pos waits]
    exact ih

/-- It makes no difference where the last route ended, once this place is reached. -/
theorem routesFrom_of_le {text : List Char} {resume : Nat} (reached : text.length ≤ resume) (found : List Route) :
    routesFrom text text.length resume found = routesFrom text text.length text.length found := by
  induction text generalizing resume found with
  | nil => rfl
  | cons c text ih =>
    rw [routesFrom, if_neg (Nat.not_lt_of_le reached), routesFrom, if_neg (Nat.lt_irrefl _)]
    cases routeAt? (c :: text) with
    | some taken => rfl
    | none =>
      have behind : text.length ≤ resume := Nat.le_of_succ_le reached
      exact (ih behind found).trans (ih (Nat.le_succ _) found).symm

theorem routesIn_of_none {c : Char} {text : List Char} (absent : routeAt? (c :: text) = none) :
    routesIn (c :: text) = routesIn text := by
  rw [routesIn, routesFrom, if_neg (Nat.lt_irrefl _), absent]
  exact routesFrom_of_le (Nat.le_succ _) []

theorem routesIn_of_some {span rest : List Char} {route : Route} (nonempty : span ≠ [])
    (taken : routeAt? (span ++ rest) = some (route, rest.length)) :
    routesIn (span ++ rest) = route :: routesIn rest := by
  obtain ⟨c, span, rfl⟩ := List.exists_cons_of_ne_nil nonempty
  rw [List.cons_append] at taken ⊢
  rw [routesIn, routesFrom, if_neg (Nat.lt_irrefl _), taken]
  exact (routesFrom_resumed span rest [route]).trans (routesFrom_found ..)

theorem Finds.cons {c : Char} {text : List Char} {routes : List Route} (finds : Finds text routes)
    (absent : ¬Begins (c :: text)) : Finds (c :: text) routes := by
  cases finds with
  | done _ free =>
    refine .done (c :: text) fun back suffix => ?_
    rcases List.suffix_cons_iff.mp suffix with rfl | within
    · exact absent
    · exact free back within
  | next passed span rest route routes spells free later =>
    refine .next (c :: passed) span rest route routes spells (fun back suffix nonempty => ?_) later
    rcases List.suffix_cons_iff.mp suffix with rfl | within
    · exact absent
    · exact free back within nonempty

theorem finds_routesIn (text : List Char) : Finds text (routesIn text) := by
  induction length : text.length using Nat.strongRecOn generalizing text with
  | ind _ ih =>
    subst length
    rcases routeAt?_cases text with ⟨route, span, rest, taken, spells, rfl⟩ | ⟨absent, free⟩
    · rw [routesIn_of_some spells.ne_nil taken]
      have shorter : rest.length < (span ++ rest).length := by
        have := List.length_pos_iff.mpr spells.ne_nil
        rw [List.length_append]
        omega
      exact .next [] span rest route _ spells (by simp) (ih _ shorter rest rfl)
    · cases text with
      | nil => exact .done [] fun back suffix => by rwa [List.suffix_nil.mp suffix]
      | cons c text =>
        rw [routesIn_of_none absent]
        exact (ih _ (Nat.lt_succ_self _) text rfl).cons free

/-- The search finds routes in spans of the source that are apart from one another, and passes over no place
where a route begins, unless it lies within the span of another one. -/
theorem finds_routes (source : String) : Finds source.toList (routes source) :=
  finds_routesIn source.toList

/-- A quote behind a backslash belongs to the value. -/
example : routes "path: \"a\\\"b\", controllerAs: \"vm\"" = [⟨"a\\\"b", "vm"⟩] := by
  decide +kernel

end SeedNavigator.Descriptor.Textual
