import Mathlib.Data.List.Nodup
import SeedNavigator.Proofs.Descriptor.Entries

/-! Which routes are found in a table of objects. The first property of an object is joined with the last of the
other kind on its line, which may be that of a later object. -/
namespace SeedNavigator.Descriptor.Textual

open SeedNavigator.Text

variable {key : Key} {tail : List Char}

/-- An object with both properties of a route, in either order. Brackets and commas stand in the gaps. -/
structure Object where
  first : Entry
  second : Entry
  paired : second.key = first.key.other

namespace Object

def entries (object : Object) : List Entry := [object.first, object.second]

def route (object : Object) : Route := object.first.route object.second.value

/-- The second property begins on the line where the first one ends. -/
def isInLine (object : Object) : Bool := '\n' ∉ object.second.gap

/-- The property from which the object's route is looked for last. -/
def start (object : Object) : Entry := if object.isInLine then object.first else object.second

/-- What is left of the object behind this property. -/
def passed (object : Object) : List Entry := if object.isInLine then [object.second] else []

end Object

def spell (entries : List Entry) : List Char := entries.flatMap Entry.text

structure Table where
  objects : List Object
  tail : List Char
  unnamed : Unnamed tail

def Table.source (table : Table) : String :=
  String.ofList (spell (table.objects.flatMap Object.entries) ++ table.tail)

/-- The entry is of the other kind, and begins on the line where the one to start from ends. -/
structure CanJoin (start : Entry) (between : List Entry) (entry : Entry) : Prop where
  key : entry.key = start.key.other
  line : '\n' ∉ spell between ++ entry.gap

/-- The object cannot be joined with any property behind it. -/
def Object.IsApart (object : Object) (later : List Entry) : Prop :=
  ∀ between entry rest, later = between ++ entry :: rest → ¬CanJoin object.start (object.passed ++ between) entry

/-- No object can be joined with a later one. -/
def Apart : List Object → Prop
  | [] => True
  | object :: later => object.IsApart (later.flatMap Object.entries) ∧ Apart later

/-! ### Partners -/

/-- The last entry with the property on this line, and those behind it. -/
def partner? (key : Key) : List Entry → Option (Entry × List Entry)
  | [] => none
  | entry :: later =>
    if '\n' ∈ entry.gap then none
    else (if '\n' ∈ entry.body then none else partner? key later).or
      (if entry.key = key then some (entry, later) else none)

theorem Key.value_route (key : Key) (one two : List Char) : key.value (key.route one two) = one := by
  cases key <;> exact String.toList_ofList

theorem Key.value_other_route (key : Key) (one two : List Char) : key.other.value (key.route one two) = two := by
  cases key <;> exact String.toList_ofList

theorem spell_cons (entry : Entry) (later : List Entry) : spell (entry :: later) = entry.text ++ spell later := rfl

theorem silent_gap (entry : Entry) (rest : List Char) : Silent entry.gap (entry.property ++ rest) := by
  refine silent_of_unnamed entry.unnamed ?_
  rw [Entry.property, List.append_assoc]
  exact stops_name entry.key _

theorem silent_tail (unnamed : Unnamed tail) : Silent tail [] := silent_of_unnamed unnamed stops_nil

theorem lastOnLine_spell (unnamed : Unnamed tail) (key : Key) (entries : List Entry)
    (best : Option (List Char × List Char)) : lastOnLine key.name (spell entries ++ tail) best =
      ((partner? key entries).map fun (entry, later) => (entry.value, spell later ++ tail)).or best := by
  induction entries generalizing best with
  | nil =>
    have ended := lastOnLine_skip (silent_tail unnamed) key best
    rw [List.append_nil] at ended
    simpa [spell, partner?, lastOnLine] using ended
  | cons entry later ih =>
    rw [spell_cons, Entry.text, List.append_assoc, List.append_assoc, lastOnLine_skip (silent_gap entry _),
      entry.lastOnLine_property, ih, partner?]
    split
    · rfl
    · split
      · split <;> rfl
      · rw [Option.map_or, Option.or_assoc]
        split <;> rfl

theorem routesIn_of_unnamed (unnamed : Unnamed tail) : routesIn tail = [] := by
  have ended := routesIn_skip (silent_tail unnamed)
  rwa [List.append_nil] at ended

theorem routesIn_spell_cons (unnamed : Unnamed tail) (entry : Entry) (later : List Entry) :
    routesIn (spell (entry :: later) ++ tail) = match partner? entry.key.other later with
      | some (other, rest) => entry.route other.value :: routesIn (spell rest ++ tail)
      | none => routesIn (spell later ++ tail) := by
  rw [spell_cons, Entry.text, List.append_assoc, List.append_assoc, routesIn_skip (silent_gap entry _)]
  have joined := lastOnLine_spell unnamed entry.key.other later none
  cases found : partner? entry.key.other later with
  | none => exact entry.routesIn_property_of_none (by rw [joined, found]; rfl)
  | some place => exact entry.routesIn_property_of_some (by rw [joined, found]; rfl)

theorem partner?_cons_eq_none_iff {entry : Entry} {later : List Entry} : partner? key (entry :: later) = none ↔
    '\n' ∈ entry.gap ∨ entry.key ≠ key ∧ ('\n' ∈ entry.body ∨ partner? key later = none) := by
  by_cases gap : '\n' ∈ entry.gap
  · simp [partner?, gap]
  · by_cases body : '\n' ∈ entry.body <;> simp [partner?, gap, body, and_comm]

theorem newline_mem_text {entry : Entry} : '\n' ∈ entry.text ↔ '\n' ∈ entry.gap ∨ '\n' ∈ entry.body := by
  simp [Entry.text, Entry.property, entry.key.notMem_newline]

theorem partner?_eq_none_iff {entries : List Entry} : partner? key entries = none ↔ ∀ between entry rest,
    entries = between ++ entry :: rest → entry.key = key → '\n' ∈ spell between ++ entry.gap := by
  induction entries with
  | nil => simp [partner?]
  | cons entry later ih =>
    rw [partner?_cons_eq_none_iff, ih]
    constructor
    · intro broken between other rest parts same
      cases between with
      | nil =>
        obtain ⟨rfl, rfl⟩ := List.cons.inj parts
        rcases broken with gap | ⟨different, -⟩
        · exact gap
        · exact absurd same different
      | cons head between =>
        obtain ⟨rfl, behind⟩ := List.cons.inj parts
        rw [spell_cons, List.append_assoc, List.mem_append, newline_mem_text]
        rcases broken with gap | ⟨-, body | none⟩
        · exact .inl (.inl gap)
        · exact .inl (.inr body)
        · exact .inr (none between other rest behind same)
    · intro all
      by_cases gap : '\n' ∈ entry.gap
      · exact .inl gap
      refine .inr ⟨fun same => gap (all [] entry later rfl same), ?_⟩
      by_cases body : '\n' ∈ entry.body
      · exact .inl body
      refine .inr fun between other rest parts same => ?_
      have broken := all (entry :: between) other rest (by rw [parts, List.cons_append]) same
      rw [spell_cons, List.append_assoc, List.mem_append, newline_mem_text] at broken
      exact broken.resolve_left (not_or.mpr ⟨gap, body⟩)

theorem mem_of_partner? {entries rest : List Entry} {entry : Entry}
    (found : partner? key entries = some (entry, rest)) : entry ∈ entries ∧ entry.key = key := by
  induction entries with
  | nil => simp [partner?] at found
  | cons head later ih =>
    rw [partner?] at found
    split at found
    · contradiction
    · rcases Option.or_eq_some_iff.mp found with later | ⟨-, here⟩
      · split at later
        · contradiction
        · exact ⟨List.mem_cons_of_mem _ (ih later).1, (ih later).2⟩
      · split at here
        · rename_i same
          obtain ⟨rfl, -⟩ : head = entry ∧ _ := by simpa using here
          exact ⟨List.mem_cons_self, same⟩
        · contradiction

/-! ### Objects -/

namespace Object

variable {object : Object} {later : List Entry}

/-- The last property behind the object that it is joined with. -/
def beyond? (object : Object) (later : List Entry) : Option (Entry × List Entry) :=
  if object.isInLine ∧ '\n' ∈ object.second.body then none else partner? object.start.key.other later

theorem isApart_iff : object.IsApart later ↔ object.beyond? later = none := by
  have canJoin (between : List Entry) (entry : Entry) : ¬CanJoin object.start between entry ↔
      (entry.key = object.start.key.other → '\n' ∈ spell between ++ entry.gap) := by
    constructor
    · intro apart same
      by_contra line
      exact apart ⟨same, line⟩
    · rintro broken ⟨same, line⟩
      exact line (broken same)
  simp only [IsApart, canJoin, beyond?, passed]
  by_cases inLine : object.isInLine = true
  · have gap : '\n' ∉ object.second.gap := by simpa [isInLine] using inLine
    by_cases body : '\n' ∈ object.second.body
    · simp [inLine, body, spell_cons, newline_mem_text]
    · simp [inLine, body, spell_cons, newline_mem_text, gap, partner?_eq_none_iff]
  · simp [inLine, partner?_eq_none_iff]

/-- An object that is joined with nothing behind it gives its own route, if it is in one line. -/
theorem routesIn_object (unnamed : Unnamed tail) (object : Object) (later : List Entry) :
    routesIn (spell (object.entries ++ later) ++ tail) = match object.beyond? later with
      | some (entry, rest) => object.start.route entry.value :: routesIn (spell rest ++ tail)
      | none => (if object.isInLine then [object.route] else []) ++ routesIn (spell later ++ tail) := by
  have parts : object.entries ++ later = object.first :: object.second :: later := rfl
  rw [parts, routesIn_spell_cons unnamed, partner?]
  by_cases inLine : object.isInLine = true
  · have gap : '\n' ∉ object.second.gap := by simpa [isInLine] using inLine
    have start : object.start = object.first := if_pos inLine
    have beyond : object.beyond? later =
        if '\n' ∈ object.second.body then none else partner? object.first.key.other later := by
      simp [beyond?, inLine, start]
    rw [if_neg gap, if_pos object.paired, ← beyond, start]
    cases object.beyond? later with
    | some place => rfl
    | none => simp [inLine, route]
  · have gap : '\n' ∈ object.second.gap := by simpa [isInLine] using inLine
    have start : object.start = object.second := if_neg inLine
    have beyond : object.beyond? later = partner? object.second.key.other later := by simp [beyond?, inLine, start]
    rw [if_pos gap, routesIn_spell_cons unnamed, ← beyond, start]
    cases object.beyond? later with
    | some place => rfl
    | none => simp [inLine]

theorem value_of_mem_entries {entry : Entry} (member : entry ∈ object.entries) :
    entry.key.value object.route = entry.value := by
  rcases List.mem_cons.mp member with rfl | second
  · exact Key.value_route ..
  · obtain rfl := List.mem_singleton.mp second
    rw [object.paired]
    exact Key.value_other_route ..

theorem start_mem_entries (object : Object) : object.start ∈ object.entries := by
  unfold start
  split <;> simp [entries]

end Object

/-! ### Tables -/

theorem routesIn_of_apart (unnamed : Unnamed tail) {objects : List Object} (apart : Apart objects) :
    routesIn (spell (objects.flatMap Object.entries) ++ tail) =
      (objects.filter Object.isInLine).map Object.route := by
  induction objects with
  | nil => exact routesIn_of_unnamed unnamed
  | cons object later ih =>
    obtain ⟨here, apart⟩ := apart
    rw [List.flatMap_cons, Object.routesIn_object unnamed, Object.isApart_iff.mp here, ih apart]
    by_cases inLine : object.isInLine = true <;> simp [inLine]

/-- If no value occurs twice, a route that joins two objects is none of the table. -/
theorem apart_of_within (unnamed : Unnamed tail) {all objects : List Object} (before : List Object)
    (part : all = before ++ objects)
    (distinct : ∀ key : Key, (all.map fun object => key.value object.route).Nodup)
    (within : ∀ route ∈ routesIn (spell (objects.flatMap Object.entries) ++ tail), route ∈ all.map Object.route) :
    Apart objects := by
  induction objects generalizing before with
  | nil => trivial
  | cons object later ih =>
    rw [List.flatMap_cons, Object.routesIn_object unnamed] at within
    cases found : object.beyond? (later.flatMap Object.entries) with
    | none =>
      simp only [found] at within
      refine ⟨Object.isApart_iff.mpr found, ih (before ++ [object]) (by simp [part]) fun route member => ?_⟩
      exact within route (List.mem_append_right _ member)
    | some place =>
      simp only [found] at within
      obtain ⟨own, owned, same⟩ := List.mem_map.mp (within _ List.mem_cons_self)
      have member : object ∈ all := by simp [part]
      have joined : partner? object.start.key.other (later.flatMap Object.entries) = some place := by
        rw [Object.beyond?] at found
        split at found
        · contradiction
        · exact found
      obtain ⟨among, key⟩ := mem_of_partner? joined
      obtain ⟨other, behind, entry⟩ := List.mem_flatMap.mp among
      obtain rfl : own = object := by
        refine List.inj_on_of_nodup_map (distinct object.start.key) owned member ?_
        rw [same, Entry.route, Key.value_route, Object.value_of_mem_entries object.start_mem_entries]
      obtain rfl : own = other := by
        refine List.inj_on_of_nodup_map (distinct own.start.key.other) member (by simp [part, behind]) ?_
        rw [same, Entry.route, Key.value_other_route, ← key, Object.value_of_mem_entries entry]
      have once := distinct .path
      rw [part, List.map_append, List.map_cons] at once
      have apart := (List.nodup_cons.mp (List.nodup_append.mp once).2.1).1
      exact absurd (List.mem_map_of_mem behind) apart

/-- Routes are found in each object by itself if no object can be joined with a later one: those of the objects
in one line, in order. Otherwise, in a table without repeated values, a route is found whose values are those of
two different objects. -/
theorem found_within_objects_iff (table : Table) :
    (Apart table.objects → routes table.source = (table.objects.filter Object.isInLine).map Object.route) ∧
    ((∀ key : Key, (table.objects.map fun object => key.value object.route).Nodup) →
      (∀ route ∈ routes table.source, route ∈ table.objects.map Object.route) → Apart table.objects) := by
  have found : routes table.source =
      routesIn (spell (table.objects.flatMap Object.entries) ++ table.tail) := by
    rw [Table.source, routes, String.toList_ofList]
    rfl
  rw [found]
  constructor
  · exact routesIn_of_apart table.unnamed
  · exact fun distinct within => apart_of_within table.unnamed [] rfl distinct within

/-- Two objects with this text between the first one's brace and the brace of the second. -/
def usersAndOrders (between : List Char) (unnamed : Unnamed between) : Table where
  objects := [
    ⟨⟨"[\x7b ".toList, .path, [], [' '], "users".toList, by decide +kernel, by simp [IsBlanks],
        by simp [IsBlanks, isBlank], by decide +kernel⟩,
      ⟨", ".toList, .as, [], [' '], "vm".toList, by decide +kernel, by simp [IsBlanks],
        by simp [IsBlanks, isBlank], by decide +kernel⟩, rfl⟩,
    ⟨⟨between, .path, [], [' '], "orders".toList, unnamed, by simp [IsBlanks],
        by simp [IsBlanks, isBlank], by decide +kernel⟩,
      ⟨", ".toList, .as, [], [' '], "ctrl".toList, by decide +kernel, by simp [IsBlanks],
        by simp [IsBlanks, isBlank], by decide +kernel⟩, rfl⟩]
  tail := " \x7d]".toList
  unnamed := by decide +kernel

/-- On two lines the objects give their own routes. On one line the first path is found with the second alias. -/
theorem alias_of_orders_found_for_users :
    Apart (usersAndOrders " \x7d,\n\x7b ".toList (by decide +kernel)).objects ∧
    routes (usersAndOrders " \x7d,\n\x7b ".toList (by decide +kernel)).source =
      [⟨"users", "vm"⟩, ⟨"orders", "ctrl"⟩] ∧
    (∀ key : Key, ((usersAndOrders " \x7d, \x7b ".toList (by decide +kernel)).objects.map
      fun object => key.value object.route).Nodup) ∧
    routes (usersAndOrders " \x7d, \x7b ".toList (by decide +kernel)).source = [⟨"users", "ctrl"⟩] ∧
    ∃ route ∈ routes (usersAndOrders " \x7d, \x7b ".toList (by decide +kernel)).source,
      route ∉ (usersAndOrders " \x7d, \x7b ".toList (by decide +kernel)).objects.map Object.route := by
  have apart : Apart (usersAndOrders " \x7d,\n\x7b ".toList (by decide +kernel)).objects :=
    ⟨Object.isApart_iff.mpr rfl, Object.isApart_iff.mpr rfl, trivial⟩
  have distinct (key : Key) : ((usersAndOrders " \x7d, \x7b ".toList (by decide +kernel)).objects.map
      fun object => key.value object.route).Nodup := by
    cases key <;> decide +kernel
  have joined : ¬Apart (usersAndOrders " \x7d, \x7b ".toList (by decide +kernel)).objects := by
    rintro ⟨apart, -⟩
    exact apart [_] _ [] rfl ⟨rfl, by decide +kernel⟩
  refine ⟨apart, ?_, distinct, by decide +kernel, ?_⟩
  · rw [(found_within_objects_iff _).1 apart]
    decide +kernel
  · by_contra all
    refine joined ((found_within_objects_iff _).2 distinct fun route found => ?_)
    by_contra strange
    exact all ⟨route, found, strange⟩

end SeedNavigator.Descriptor.Textual
