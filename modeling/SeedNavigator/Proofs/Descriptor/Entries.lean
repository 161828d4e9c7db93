import Mathlib.Data.List.Infix
import SeedNavigator.Proofs.Descriptor.Spans
import SeedNavigator.Proofs.Text.Words

/-! A text that is written as properties one after another. No property begins in the text between them, nor
within one of them, so that the search has to look at their names alone. -/
namespace SeedNavigator.Descriptor.Textual

open SeedNavigator.Text

variable {skip rest : List Char}

namespace Key

/-- The first character of the name, which no name has a second time. -/
def initial : Key → Char
  | path => 'p'
  | as => 'c'

theorem name_eq (key : Key) : key.name = key.initial :: key.name.tail := by
  cases key <;> decide +kernel

theorem initial_notMem_tail (key other : Key) : key.initial ∉ other.name.tail := by
  cases key <;> cases other <;> decide +kernel

theorem isBlank_initial (key : Key) : isBlank key.initial = false := by
  cases key <;> decide

theorem notMem_quote (key : Key) : '"' ∉ key.name := by
  cases key <;> decide +kernel

theorem notMem_colon (key : Key) : ':' ∉ key.name := by
  cases key <;> decide +kernel

end Key

/-- A text in which neither property is named. -/
def Unnamed (text : List Char) : Prop := ∀ key : Key, ¬key.name <:+: text

/-- A value that is neither ended early by a quote nor goes on behind one. -/
structure IsPlain (value : List Char) : Prop where
  unquoted : '"' ∉ value
  unescaped : '\\' ∉ value
  unnamed : Unnamed value

instance (text : List Char) : Decidable (Unnamed text) :=
  decidable_of_iff (¬Key.path.name <:+: text ∧ ¬Key.as.name <:+: text) <| by
    constructor
    · rintro ⟨path, as⟩ (_ | _)
      · exact path
      · exact as
    · intro unnamed
      exact ⟨unnamed .path, unnamed .as⟩

instance (value : List Char) : Decidable (IsPlain value) :=
  decidable_of_iff ('"' ∉ value ∧ '\\' ∉ value ∧ Unnamed value)
    ⟨fun ⟨unquoted, unescaped, unnamed⟩ => ⟨unquoted, unescaped, unnamed⟩,
      fun plain => ⟨plain.unquoted, plain.unescaped, plain.unnamed⟩⟩

/-- A property as it is written, and the text in front of it. -/
structure Entry where
  gap : List Char
  key : Key
  left : List Char
  right : List Char
  value : List Char
  unnamed : Unnamed gap
  blankLeft : IsBlanks left
  blankRight : IsBlanks right
  plain : IsPlain value

namespace Entry

def body (entry : Entry) : List Char :=
  entry.left ++ ':' :: (entry.right ++ '"' :: (entry.value ++ ['"']))

def property (entry : Entry) : List Char :=
  entry.key.name ++ entry.body

def text (entry : Entry) : List Char :=
  entry.gap ++ entry.property

end Entry

/-! ### Texts to be skipped -/

/-- No property is named from within the text on, whatever of its name stands behind. -/
def Silent (skip rest : List Char) : Prop :=
  ∀ back, back <:+ skip → back ≠ [] → ∀ key : Key, ¬key.name <+: back ++ rest

theorem silent_nil (rest : List Char) : Silent [] rest :=
  fun _ suffix nonempty => absurd (List.suffix_nil.mp suffix) nonempty

theorem silent_cons_iff {c : Char} :
    Silent (c :: skip) rest ↔ (∀ key : Key, ¬key.name <+: c :: (skip ++ rest)) ∧ Silent skip rest := by
  constructor
  · intro silent
    exact ⟨silent _ List.suffix_rfl (by simp), fun back suffix => silent back (suffix.trans (List.suffix_cons ..))⟩
  · rintro ⟨here, later⟩ back suffix nonempty
    rcases List.suffix_cons_iff.mp suffix with rfl | within
    · exact here
    · exact later back within nonempty

theorem silent_append_iff {more : List Char} :
    Silent (skip ++ more) rest ↔ Silent skip (more ++ rest) ∧ Silent more rest := by
  induction skip with
  | nil => simp [silent_nil]
  | cons c skip ih => simp only [List.cons_append, silent_cons_iff, ih, List.append_assoc, and_assoc]

/-- What stands here is no later part of a name. -/
def Stops (rest : List Char) : Prop := ∀ c ∈ rest.head?, ∀ key : Key, c ∉ key.name.tail

theorem silent_of_unnamed (unnamed : Unnamed skip) (stops : Stops rest) : Silent skip rest := by
  intro back suffix nonempty key begins
  have inside (named : key.name <+: back) : False := unnamed key (named.isInfix.trans suffix.isInfix)
  rcases List.prefix_or_prefix_of_prefix begins (List.prefix_append back rest) with named | ⟨more, name⟩
  · exact inside named
  · cases more with
    | nil => exact inside ⟨[], by rw [← name, List.append_nil, List.append_nil]⟩
    | cons c more =>
      rw [← name, List.prefix_append_right_inj] at begins
      obtain ⟨behind, rfl⟩ := begins
      obtain ⟨b, back, rfl⟩ := List.exists_cons_of_ne_nil nonempty
      refine stops c rfl key ?_
      rw [← name]
      simp

theorem stops_nil : Stops [] := by
  simp [Stops]

theorem stops_name (key : Key) (rest : List Char) : Stops (key.name ++ rest) := by
  intro c member other
  rw [key.name_eq, List.cons_append, List.head?_cons] at member
  obtain rfl := Option.some.inj member
  exact key.initial_notMem_tail other

theorem stops_quote (rest : List Char) : Stops ('"' :: rest) := by
  intro c member key inside
  obtain rfl := Option.some.inj member
  exact key.notMem_quote (List.mem_of_mem_tail inside)

theorem stops_newline (rest : List Char) : Stops ('\n' :: rest) := by
  intro c member key inside
  obtain rfl := Option.some.inj member
  exact key.notMem_newline (List.mem_of_mem_tail inside)

theorem silent_singleton {c : Char} (absent : ∀ key : Key, c ∉ key.name) (rest : List Char) : Silent [c] rest := by
  refine silent_cons_iff.mpr ⟨fun key begins => ?_, silent_nil rest⟩
  exact key.name_ne_nil (eq_nil_of_prefix_cons (absent key) begins)

theorem unnamed_tail_blanks (key : Key) {blanks : List Char} (blank : IsBlanks blanks) :
    Unnamed (key.name.tail ++ blanks) := by
  intro other inside
  have first : other.initial ∈ other.name := by
    rw [other.name_eq]
    exact List.mem_cons_self
  rcases List.mem_append.mp (inside.subset first) with own | among
  · exact other.initial_notMem_tail key own
  · exact absurd (blank _ among) (by simp [other.isBlank_initial])

/-- Nothing within a property is the name of one. -/
theorem Entry.silent_property (entry : Entry) (rest : List Char) :
    Silent (entry.key.name.tail ++ entry.body) rest := by
  have unnamed : Unnamed (entry.key.name.tail ++ entry.left ++ ':' :: entry.right) := by
    intro key inside
    rcases (infix_separated key.notMem_colon).mp inside with inside | inside
    · exact unnamed_tail_blanks entry.key entry.blankLeft key inside
    · exact unnamed_tail_blanks entry.key entry.blankRight key (inside.trans (List.suffix_append ..).isInfix)
  have quote (rest : List Char) : Silent ['"'] rest := silent_singleton Key.notMem_quote rest
  have parts : entry.key.name.tail ++ entry.body =
      (entry.key.name.tail ++ entry.left ++ ':' :: entry.right) ++ (['"'] ++ (entry.value ++ ['"'])) := by
    simp [Entry.body]
  rw [parts]
  refine silent_append_iff.mpr ⟨silent_of_unnamed unnamed (stops_quote _), ?_⟩
  refine silent_append_iff.mpr ⟨quote _, ?_⟩
  exact silent_append_iff.mpr ⟨silent_of_unnamed entry.plain.unnamed (stops_quote _), quote _⟩

/-! ### Steps of the search -/

theorem valueOf?_of_unnamed {name text : List Char} {mark : Char} (absent : ¬name <+: text) :
    valueOf? name mark text = none := by
  cases found : afterPrefix? name text with
  | none => simp [valueOf?, found]
  | some behind => exact absurd ⟨behind, (eq_append_of_afterPrefix? found).symm⟩ absent

theorem property?_of_unnamed {key : Key} {text : List Char} (absent : ¬key.name <+: text) :
    property? key text = none := by
  rw [property?, valueOf?_of_unnamed absent, Option.bind_none]

theorem pairAt?_of_unnamed {first text : List Char} (absent : ¬first <+: text) (second : List Char) :
    pairAt? first second text = none := by
  rw [pairAt?, valueOf?_of_unnamed absent, Option.bind_none]

theorem routeAt?_of_unnamed {text : List Char} (absent : ∀ key : Key, ¬key.name <+: text) :
    routeAt? text = none := by
  have alone (key : Key) : key.routeAt? text = none := by
    rw [Key.routeAt?, pairAt?_of_unnamed (absent key), Option.map_none]
  rw [routeAt?_eq, alone, alone, Option.none_or]

theorem lastOnLine_skip (silent : Silent skip rest) (key : Key) (best : Option (List Char × List Char)) :
    lastOnLine key.name (skip ++ rest) best = if '\n' ∈ skip then best else lastOnLine key.name rest best := by
  induction skip with
  | nil => simp
  | cons c skip ih =>
    obtain ⟨absent, later⟩ := silent_cons_iff.mp silent
    by_cases line : c = '\n'
    · subst line
      simp [lastOnLine]
    · rw [List.cons_append, lastOnLine_cons line, property?_of_unnamed (absent key), Option.none_or, ih later]
      simp [Ne.symm line]

theorem routesIn_skip (silent : Silent skip rest) : routesIn (skip ++ rest) = routesIn rest := by
  induction skip with
  | nil => rfl
  | cons c skip ih =>
    obtain ⟨absent, later⟩ := silent_cons_iff.mp silent
    rw [List.cons_append, routesIn_of_none (routeAt?_of_unnamed absent), ih later]

theorem closings_of_plain {value seen : List Char} (unquoted : '"' ∉ value) (unescaped : '\\' ∉ value)
    (bare : seen.head? ≠ some '\\') (found : List (List Char × List Char)) :
    closings seen (value ++ '"' :: rest) found = (seen.reverse ++ value, rest) :: found := by
  induction value generalizing seen with
  | nil => simp [closings, bare]
  | cons c value ih =>
    simp only [List.mem_cons, not_or] at unquoted unescaped
    rw [List.cons_append, closings]
    · rw [ih unquoted.2 unescaped.2 (by simpa using Ne.symm unescaped.1)]
      simp
    · exact fun quote => unquoted.1 quote.symm

namespace Entry

theorem quotedTexts_value (entry : Entry) (rest : List Char) :
    quotedTexts (entry.value ++ '"' :: rest) = [(entry.value, rest)] :=
  closings_of_plain entry.plain.unquoted entry.plain.unescaped (by simp) []

theorem valueOf?_property (entry : Entry) (rest : List Char) :
    valueOf? entry.key.name ':' (entry.property ++ rest) = some (entry.value ++ '"' :: rest) :=
  (valueOf?_eq_some_iff rfl).mpr
    ⟨entry.left, entry.right, entry.blankLeft, entry.blankRight, by simp [property, body]⟩

theorem not_prefix_property (entry : Entry) {key : Key} (different : entry.key ≠ key) (rest : List Char) :
    ¬key.name <+: entry.property ++ rest := by
  rintro ⟨behind, parts⟩
  rw [property, key.name_eq, entry.key.name_eq] at parts
  have initials : key.initial = entry.key.initial := (List.cons.inj parts).1
  revert different initials
  cases key <;> cases entry.key <;> decide

theorem property?_property (entry : Entry) (key : Key) (rest : List Char) :
    property? key (entry.property ++ rest) = if entry.key = key then some (entry.value, rest) else none := by
  split
  · rename_i same
    rw [← same, property?, valueOf?_property, Option.bind_some, quotedTexts_value]
    rfl
  · rename_i different
    exact property?_of_unnamed (entry.not_prefix_property different rest)

theorem property_append (entry : Entry) (rest : List Char) : entry.property ++ rest =
    entry.key.initial :: ((entry.key.name.tail ++ entry.body) ++ rest) := by
  rw [property, entry.key.name_eq]
  simp

/-- The property is what is taken so far, if it is the one that is searched for. The line may end within it. -/
theorem lastOnLine_property (entry : Entry) (key : Key) (rest : List Char)
    (best : Option (List Char × List Char)) : lastOnLine key.name (entry.property ++ rest) best =
      if '\n' ∈ entry.body then (if entry.key = key then some (entry.value, rest) else none).or best
      else lastOnLine key.name rest ((if entry.key = key then some (entry.value, rest) else none).or best) := by
  have named : '\n' ∉ entry.key.initial :: entry.key.name.tail := by
    rw [← entry.key.name_eq]
    exact entry.key.notMem_newline
  have line : entry.key.initial ≠ '\n' := fun same => named (by simp [same])
  have inside : '\n' ∈ entry.key.name.tail ++ entry.body ↔ '\n' ∈ entry.body := by
    rw [List.mem_append]
    exact or_iff_right fun own => named (List.mem_cons_of_mem _ own)
  rw [← property?_property, property_append, lastOnLine_cons line, lastOnLine_skip (entry.silent_property rest)]
  simp only [inside]

/-- The route with this value and another one for the other property. -/
def route (entry : Entry) (two : List Char) : Route :=
  entry.key.route entry.value two

theorem pairAt?_property (entry : Entry) (rest : List Char) :
    pairAt? entry.key.name entry.key.other.name (entry.property ++ rest) =
      (lastOnLine entry.key.other.name rest none).map fun (two, behind) => (entry.value, two, behind) := by
  rw [pairAt?, valueOf?_property, Option.bind_some, quotedTexts_value, List.findSome?_cons, List.findSome?_nil]
  dsimp only
  cases lastOnLine entry.key.other.name rest none <;> rfl

/-- A property is paired with the last one of the other kind that begins on its line. -/
theorem routeAt?_property (entry : Entry) (rest : List Char) :
    routeAt? (entry.property ++ rest) = (lastOnLine entry.key.other.name rest none).map
      fun (two, behind) => (entry.route two, behind.length) := by
  have own : entry.key.routeAt? (entry.property ++ rest) = (lastOnLine entry.key.other.name rest none).map
      fun (two, behind) => (entry.route two, behind.length) := by
    rw [Key.routeAt?, pairAt?_property, Option.map_map]
    rfl
  have others (key : Key) (different : entry.key ≠ key) : key.routeAt? (entry.property ++ rest) = none := by
    rw [Key.routeAt?, pairAt?_of_unnamed (entry.not_prefix_property different rest), Option.map_none]
  rw [routeAt?_eq]
  cases same : entry.key with
  | as => rw [others .path (by simp [same]), Option.or_none, ← same, own]
  | path => rw [others .as (by simp [same]), Option.none_or, ← same, own]

theorem routesIn_property_of_none (entry : Entry) (alone : lastOnLine entry.key.other.name rest none = none) :
    routesIn (entry.property ++ rest) = routesIn rest := by
  have absent := entry.routeAt?_property rest
  rw [alone, Option.map_none] at absent
  rw [property_append] at absent ⊢
  rw [routesIn_of_none absent, routesIn_skip (entry.silent_property rest)]

theorem routesIn_property_of_some (entry : Entry) {two behind : List Char}
    (joined : lastOnLine entry.key.other.name rest none = some (two, behind)) :
    routesIn (entry.property ++ rest) = entry.route two :: routesIn behind := by
  have taken := entry.routeAt?_property rest
  rw [joined, Option.map_some] at taken
  obtain ⟨gap, front, -, -, rfl⟩ := onLine_of_lastOnLine joined
  have parts : entry.property ++ (gap ++ (front ++ behind)) = (entry.property ++ gap ++ front) ++ behind := by
    simp
  rw [parts] at taken ⊢
  exact routesIn_of_some (by simp [property, entry.key.name_ne_nil]) taken

end Entry

end SeedNavigator.Descriptor.Textual
