import SeedNavigator.Completion.Context
import SeedNavigator.Proofs.Text.Pieces

/-! The accesses that a text can end in. The search for the leftmost of them finds one if there is one,
and there is never more than one: what follows the alias holds no character that may stand in front of
it, so the number of these characters in the text tells where the alias begins. -/
namespace SeedNavigator.Completion

open SeedNavigator.Text

/-- Letters, digits and signs of a name, the first of them an ASCII letter or a sign. -/
def IsIdentifier (name : String) : Prop :=
  ∃ first rest, name.toList = first :: rest ∧ (first.isAlpha = true ∨ first = '_' ∨ first = '$') ∧
    ∀ c ∈ rest, isWord c = true ∨ c = '$'

/-- The members of a chain are names, and behind them another name has begun or is still to begin. -/
structure Context.IsNamed (context : Context) : Prop where
  chain : ∀ member ∈ context.chain, IsIdentifier member
  typed : context.typed = "" ∨ IsIdentifier context.typed

variable {name text front other rest : List Char} {before : Option Char} {context : Context} {c : Char}

/-! ### Names -/

theorem isName_iff {name : String} : isName name.toList = true ↔ IsIdentifier name := by
  cases text : name.toList with
  | nil => simp [isName, IsIdentifier, text]
  | cons first rest =>
    simp only [isName, startsName, continuesName, IsIdentifier, text, Bool.and_eq_true,
      Bool.or_eq_true, decide_eq_true_eq, List.all_eq_true, or_assoc]
    constructor
    · rintro ⟨starts, continues⟩
      exact ⟨first, rest, rfl, starts, continues⟩
    · rintro ⟨_, _, same, starts, continues⟩
      obtain ⟨rfl, rfl⟩ := List.cons.inj same
      exact ⟨starts, continues⟩

instance {name : String} : Decidable (IsIdentifier name) := decidable_of_iff _ isName_iff

theorem isWord_of_isAlpha (h : c.isAlpha = true) : isWord c = true := by
  have low : c.toNat < 0x80 := by
    rcases (Bool.or_eq_true ..).mp h with upper | lower
    · have last : c.val ≤ 'Z'.val := (of_decide_eq_true upper).2
      exact Nat.lt_of_le_of_lt last (by decide)
    · have last : c.val ≤ 'z'.val := of_decide_eq_true (Bool.and_eq_true_iff.mp lower).2
      exact Nat.lt_of_le_of_lt last (by decide)
  simp [isWord, low, isAsciiWord, Char.isAlphanum, h]

theorem isName_free (h : isName name = true) : ∀ c ∈ name, mayPrecede c = false ∧ c ≠ '.' := by
  cases name with
  | nil => simp
  | cons first rest =>
    simp only [isName, startsName, continuesName, Bool.and_eq_true, Bool.or_eq_true,
      decide_eq_true_eq, List.all_eq_true] at h
    obtain ⟨starts, continues⟩ := h
    have word : isWord first = true ∨ first = '$' := by
      rcases starts with (letter | rfl) | sign
      · exact .inl (isWord_of_isAlpha letter)
      · exact .inl (by decide)
      · exact .inr sign
    intro c member
    have own : isWord c = true ∨ c = '$' := by
      rcases List.mem_cons.mp member with rfl | inside
      · exact word
      · exact continues c inside
    refine ⟨by rcases own with word | sign <;> simp [mayPrecede, *], ?_⟩
    rintro rfl
    exact absurd own (by decide)

/-! ### Behind the alias -/

/-- The names of a context, in the order of the text. -/
def Context.parts (context : Context) : List (List Char) :=
  context.chain.map String.toList ++ [context.typed.toList]

theorem isTyped_iff {typed : String} :
    (typed.toList.isEmpty || isName typed.toList) = true ↔ typed = "" ∨ IsIdentifier typed := by
  rw [Bool.or_eq_true, isName_iff, List.isEmpty_iff, String.toList_eq_nil_iff]

theorem namesOf?_parts (named : context.IsNamed) : namesOf? context.parts = some context := by
  obtain ⟨chain, typed⟩ := context
  obtain ⟨members, last⟩ := named
  induction chain with
  | nil =>
    have fits := isTyped_iff.mpr last
    simp only [Context.parts, List.map_nil, List.nil_append, namesOf?, fits, if_true,
      String.ofList_toList]
  | cons member chain ih =>
    have first := isName_iff.mpr (members member List.mem_cons_self)
    have rest := ih fun other among => members other (List.mem_cons_of_mem _ among)
    simp only [Context.parts, List.map_cons, List.cons_append] at rest ⊢
    rw [namesOf?, if_pos first, rest last, Option.map_some, String.ofList_toList]
    simp

theorem parts_of_namesOf? {parts : List (List Char)} (h : namesOf? parts = some context) :
    parts = context.parts ∧ context.IsNamed := by
  fun_induction namesOf? parts generalizing context with
  | case1 => simp at h
  | case2 last fits =>
    obtain rfl := Option.some.inj h
    refine ⟨by simp [Context.parts], by simp, ?_⟩
    exact isTyped_iff.mp (by simpa using fits)
  | case3 => simp at h
  | case4 first rest _ isFirst ih =>
    obtain ⟨later, found, rfl⟩ := Option.map_eq_some_iff.mp h
    obtain ⟨rfl, named⟩ := ih found
    refine ⟨by simp [Context.parts], fun member among => ?_, named.typed⟩
    rcases List.mem_cons.mp among with rfl | behind
    · exact isName_iff.mp (by simpa using isFirst)
    · exact named.chain member behind
  | case5 => simp at h

theorem namesOf?_eq_some_iff {parts : List (List Char)} :
    namesOf? parts = some context ↔ parts = context.parts ∧ context.IsNamed := by
  constructor
  · exact parts_of_namesOf?
  · rintro ⟨rfl, named⟩
    exact namesOf?_parts named

theorem Context.IsNamed.free (named : context.IsNamed) :
    ∀ part ∈ context.parts, ∀ c ∈ part, mayPrecede c = false ∧ c ≠ '.' := by
  intro part member
  have nameOr : part = [] ∨ isName part = true := by
    rcases List.mem_append.mp member with inChain | last
    · obtain ⟨name, among, rfl⟩ := List.mem_map.mp inChain
      exact .inr (isName_iff.mpr (named.chain name among))
    · obtain rfl := List.mem_singleton.mp last
      simpa using isTyped_iff.mpr named.typed
  rcases nameOr with rfl | isName
  · simp
  · exact isName_free isName

theorem access?_eq_some_iff :
    access? rest = some context ↔ rest = '.' :: glue '.' context.parts ∧ context.IsNamed := by
  constructor
  · intro h
    unfold access? at h
    split at h
    · obtain ⟨cut, named⟩ := namesOf?_eq_some_iff.mp h
      exact ⟨by rw [← cut, glue_pieces], named⟩
    · contradiction
  · rintro ⟨rfl, named⟩
    have clean : ∀ part ∈ context.parts, '.' ∉ part := fun part member point =>
      (named.free part member '.' point).2 rfl
    rw [access?, pieces_glue (by simp [Context.parts]) clean, namesOf?_parts named]

/-- No character behind an alias may stand in front of one. -/
theorem mayPrecede_of_access? (h : access? rest = some context) :
    ∀ c ∈ rest, mayPrecede c = false := by
  obtain ⟨rfl, named⟩ := access?_eq_some_iff.mp h
  intro c member
  rcases List.mem_cons.mp member with rfl | inside
  · decide
  · rcases mem_glue inside with rfl | ⟨part, among, own⟩
    · decide
    · exact (named.free part among c own).1

/-! ### The search for the alias -/

/-- The alias begins behind `front`, which itself stands behind the character `before`, and an access
follows it. -/
structure Begins (name : List Char) (before : Option Char) (text front : List Char)
    (context : Context) : Prop where
  text : ∃ rest, text = front ++ (name ++ rest) ∧ access? rest = some context
  free : ∀ c, front.getLast?.or before = some c → mayPrecede c = true

/-- The characters that may stand in front of an alias are those in front of this one, and its own. -/
theorem Begins.countP_eq (begins : Begins name before text front context) :
    text.countP mayPrecede = front.countP mayPrecede + name.countP mayPrecede := by
  obtain ⟨rest, rfl, access⟩ := begins.text
  have none : rest.countP mayPrecede = 0 := by
    rw [List.countP_eq_zero]
    intro c member
    simp [mayPrecede_of_access? access c member]
  rw [List.countP_append, List.countP_append, none, Nat.add_zero]

/-- A longer front would end in one more such character. -/
theorem Begins.append_eq {more : List Char} {context' : Context}
    (begins : Begins name none text front context)
    (later : Begins name none text (front ++ more) context') : more = [] := by
  have same := begins.countP_eq.symm.trans later.countP_eq
  rw [List.countP_append] at same
  rcases List.eq_nil_or_concat more with none | ⟨init, c, rfl⟩
  · exact none
  · have free : mayPrecede c = true := later.free c (by simp)
    simp [free] at same

theorem Begins.unique {front' : List Char} {context' : Context}
    (begins : Begins name none text front context) (other : Begins name none text front' context') :
    front = front' ∧ context = context' := by
  obtain ⟨rest, split, access⟩ := begins.text
  obtain ⟨rest', split', access'⟩ := other.text
  have same : front = front' := by
    rcases List.append_eq_append_iff.mp (split.symm.trans split') with ⟨more, rfl, -⟩ | ⟨more, rfl, -⟩
    · rw [begins.append_eq other, List.append_nil]
    · rw [other.append_eq begins, List.append_nil]
  subst same
  have behind := List.append_cancel_left (List.append_cancel_left (split.symm.trans split'))
  rw [behind, access'] at access
  exact ⟨rfl, (Option.some.inj access).symm⟩

end SeedNavigator.Completion
