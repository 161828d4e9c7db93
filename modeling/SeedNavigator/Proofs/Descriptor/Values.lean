import SeedNavigator.Descriptor.Textual
import Mathlib.Data.List.TakeWhile

/-! What is read at one place of a bare text, and which of several places is taken. A value is opened by its
name, a mark and a quote, with nothing but blanks between them. Of the literals that can be closed on the line
the longest is taken, and of the places where something can be read the last. -/
namespace SeedNavigator.Descriptor.Textual

open SeedNavigator.Text

variable {mark : Char} {name text value literal rest : List Char} {reserve : Nat}

/-- Nothing but white space. -/
def IsBlanks (text : List Char) : Prop := ∀ c ∈ text, isBlank c = true

/-! ### Opening a value -/

theorem exists_blanks_append (text : List Char) :
    ∃ blanks, IsBlanks blanks ∧ text = blanks ++ text.dropWhile isBlank :=
  ⟨text.takeWhile isBlank, fun _ => List.mem_takeWhile_imp, List.takeWhile_append_dropWhile.symm⟩

theorem dropWhile_blanks {blanks : List Char} {c : Char} (blank : IsBlanks blanks) (busy : isBlank c = false)
    (text : List Char) : (blanks ++ c :: text).dropWhile isBlank = c :: text := by
  rw [List.dropWhile_append_of_pos blank, List.dropWhile_cons_of_neg (by simp [busy])]

theorem openValue?_eq_some_iff (busy : isBlank mark = false) :
    openValue? mark text = some value ↔
      ∃ left right, IsBlanks left ∧ IsBlanks right ∧ text = left ++ mark :: (right ++ '"' :: value) := by
  constructor
  · intro opened
    obtain ⟨left, blankLeft, split⟩ := exists_blanks_append text
    rw [openValue?] at opened
    split at opened
    · contradiction
    · rename_i c behind marked
      split at opened
      · rename_i same
        obtain ⟨right, blankRight, splitRight⟩ := exists_blanks_append behind
        split at opened
        · rename_i quoted
          obtain rfl := Option.some.inj opened
          refine ⟨left, right, blankLeft, blankRight, ?_⟩
          rw [split, marked, same, ← quoted, ← splitRight]
        · contradiction
      · contradiction
  · rintro ⟨left, right, blankLeft, blankRight, rfl⟩
    simp [openValue?, dropWhile_blanks blankLeft busy, dropWhile_blanks (c := '"') blankRight rfl]

theorem valueOf?_eq_some_iff (busy : isBlank mark = false) :
    valueOf? name mark text = some value ↔ ∃ left right, IsBlanks left ∧ IsBlanks right ∧
      text = name ++ (left ++ mark :: (right ++ '"' :: value)) := by
  simp only [valueOf?, Option.bind_eq_some_iff, openValue?_eq_some_iff busy]
  constructor
  · rintro ⟨behind, found, left, right, blankLeft, blankRight, rfl⟩
    exact ⟨left, right, blankLeft, blankRight, eq_append_of_afterPrefix? found⟩
  · rintro ⟨left, right, blankLeft, blankRight, rfl⟩
    exact ⟨_, afterPrefix?_append .., left, right, blankLeft, blankRight, rfl⟩

/-! ### The longest literal -/

/-- Of all texts that fit, the longest is taken, and nothing only if there is none. -/
def TakesLongest (fits : List Char → Prop) : Option (List Char) → Prop
  | some literal => fits literal ∧ ∀ other, fits other → other.length ≤ literal.length
  | none => ∀ literal, ¬fits literal

/-- The value begins with this literal on its line, which leaves at least `reserve` characters. -/
structure Closes (reserve : Nat) (value literal : List Char) : Prop where
  line : '\n' ∉ literal
  rest : ∃ rest, value = literal ++ '"' :: ';' :: rest ∧ reserve ≤ rest.length

theorem TakesLongest.congr {fits others : List Char → Prop} {taken : Option (List Char)}
    (same : ∀ literal, fits literal ↔ others literal) (takes : TakesLongest fits taken) :
    TakesLongest others taken := by
  cases taken with
  | none => exact fun literal other => takes literal ((same literal).mpr other)
  | some literal => exact ⟨(same literal).mp takes.1, fun other fit => takes.2 other ((same other).mpr fit)⟩

theorem closes_nil : ¬Closes reserve [] literal := by
  rintro ⟨-, rest, text, -⟩
  simp at text

theorem closes_newline : ¬Closes reserve ('\n' :: value) literal := by
  rintro ⟨line, rest, text, -⟩
  cases literal with
  | nil => simp at text
  | cons c literal => simp_all

theorem closes_empty_iff {c : Char} : Closes reserve (c :: value) [] ↔
    c = '"' ∧ value.head? = some ';' ∧ reserve + 2 ≤ value.length + 1 := by
  constructor
  · rintro ⟨-, rest, text, room⟩
    obtain ⟨rfl, rfl⟩ := List.cons.inj text
    simp
    omega
  · rintro ⟨rfl, first, room⟩
    obtain ⟨rest, rfl⟩ := List.head?_eq_some_iff.mp first
    exact ⟨by simp, rest, rfl, by simp at room; omega⟩

theorem closes_cons_iff {c : Char} (line : c ≠ '\n') :
    Closes reserve (c :: value) (c :: literal) ↔ Closes reserve value literal := by
  constructor
  · rintro ⟨own, rest, text, room⟩
    exact ⟨fun inside => own (List.mem_cons_of_mem _ inside), rest, (List.cons.inj text).2, room⟩
  · rintro ⟨own, rest, rfl, room⟩
    exact ⟨by simp [own, line.symm], rest, rfl, room⟩

theorem eq_of_closes_cons {c d : Char} (closes : Closes reserve (c :: value) (d :: literal)) : d = c := by
  obtain ⟨-, rest, text, -⟩ := closes
  exact (List.cons.inj text).1.symm

/-- The literals that are closed later are longer than `best`, which was seen before. -/
theorem longestLiteral_cases (reserve : Nat) (seen text : List Char) (best : Option (List Char)) :
    (∃ literal, longestLiteral reserve seen text text.length best = some (seen.reverse ++ literal) ∧
      Closes reserve text literal ∧ ∀ other, Closes reserve text other → other.length ≤ literal.length) ∨
    longestLiteral reserve seen text text.length best = best ∧ ∀ other, ¬Closes reserve text other := by
  induction text generalizing seen best with
  | nil => exact .inr ⟨rfl, fun _ => closes_nil⟩
  | cons c text ih =>
    by_cases line : c = '\n'
    · subst line
      exact .inr ⟨by simp [longestLiteral], fun _ => closes_newline⟩
    · simp only [longestLiteral, if_neg line, List.length_cons, Nat.add_sub_cancel]
      rcases ih (c :: seen) (if c = '"' ∧ text.head? = some ';' ∧ reserve + 2 ≤ text.length + 1
          then some seen.reverse else best) with ⟨literal, found, closes, longest⟩ | ⟨found, nowhere⟩
      · refine .inl ⟨c :: literal, by simpa using found, (closes_cons_iff line).mpr closes, ?_⟩
        intro other others
        cases other with
        | nil => simp
        | cons d other =>
          obtain rfl := eq_of_closes_cons others
          simpa using longest other ((closes_cons_iff line).mp others)
      · have only (other : List Char) (others : Closes reserve (c :: text) other) : other = [] := by
          cases other with
          | nil => rfl
          | cons d other =>
            obtain rfl := eq_of_closes_cons others
            exact absurd ((closes_cons_iff line).mp others) (nowhere other)
        rw [found]
        split
        · rename_i here
          exact .inl ⟨[], by simp, closes_empty_iff.mpr here, fun other others => by rw [only other others]⟩
        · rename_i absent
          refine .inr ⟨rfl, fun other others => absent ?_⟩
          rw [only other others] at others
          exact closes_empty_iff.mp others

theorem literal?_takesLongest (reserve : Nat) (value : List Char) :
    TakesLongest (Closes reserve value) (literal? reserve value) := by
  rcases longestLiteral_cases reserve [] value none with ⟨literal, found, closes⟩ | ⟨found, nowhere⟩
  · rw [literal?, found]
    exact closes
  · rw [literal?, found]
    exact nowhere

/-! ### The last place -/

/-- Of all places where something is read the last is taken, and none only if nothing is read at all. -/
def TakesLast {α : Type} (reads : List Char → Option α) (text : List Char) : Option (Nat × α) → Prop
  | some (left, found) => ∃ back, back <:+ text ∧ back.length = left ∧ reads back = some found ∧
      ∀ later, later <:+ text → later.length < left → reads later = none
  | none => ∀ back, back <:+ text → reads back = none

/-- A place further to the right stays the last one whatever is put in front. -/
theorem TakesLast.cons {α : Type} {reads : List Char → Option α} {place : Nat × α} (c : Char)
    (takes : TakesLast reads text (some place)) : TakesLast reads (c :: text) (some place) := by
  obtain ⟨back, suffix, length, here, last⟩ := takes
  refine ⟨back, suffix.trans (List.suffix_cons c text), length, here, fun later within shorter => ?_⟩
  rcases List.suffix_cons_iff.mp within with rfl | within
  · have := suffix.length_le
    simp only [List.length_cons] at shorter
    omega
  · exact last later within shorter

theorem lastPlaceFrom_cases {α : Type} {reads : List Char → Option α} (nothing : reads [] = none)
    (text : List Char) (best : Option (Nat × α)) :
    (∃ place, lastPlaceFrom reads text text.length best = some place ∧ TakesLast reads text (some place)) ∨
    lastPlaceFrom reads text text.length best = best ∧ TakesLast reads text none := by
  induction text generalizing best with
  | nil =>
    refine .inr ⟨rfl, fun back suffix => ?_⟩
    rw [List.suffix_nil.mp suffix, nothing]
  | cons c text ih =>
    cases own : reads (c :: text) with
    | some found =>
      have step : lastPlaceFrom reads (c :: text) (c :: text).length best =
          lastPlaceFrom reads text text.length (some ((c :: text).length, found)) := by
        simp [lastPlaceFrom, own]
      rw [step]
      rcases ih (some ((c :: text).length, found)) with ⟨place, result, takes⟩ | ⟨result, nowhere⟩
      · exact .inl ⟨place, result, takes.cons c⟩
      · refine .inl ⟨_, result, c :: text, List.suffix_rfl, rfl, own, fun later within shorter => ?_⟩
        rcases List.suffix_cons_iff.mp within with rfl | within
        · exact absurd shorter (Nat.lt_irrefl _)
        · exact nowhere later within
    | none =>
      have step : lastPlaceFrom reads (c :: text) (c :: text).length best =
          lastPlaceFrom reads text text.length best := by
        simp [lastPlaceFrom, own]
      rw [step]
      rcases ih best with ⟨place, result, takes⟩ | ⟨result, nowhere⟩
      · exact .inl ⟨place, result, takes.cons c⟩
      · refine .inr ⟨result, fun back within => ?_⟩
        rcases List.suffix_cons_iff.mp within with rfl | within
        · exact own
        · exact nowhere back within

theorem lastPlace_takesLast {α : Type} {reads : List Char → Option α} (nothing : reads [] = none)
    (text : List Char) : TakesLast reads text (lastPlace reads text) := by
  rcases lastPlaceFrom_cases nothing text none with ⟨place, found, takes⟩ | ⟨found, takes⟩
  · rw [lastPlace, found]
    exact takes
  · rw [lastPlace, found]
    exact takes

/-- The last place of the text where anything fits, and the longest literal that fits there. -/
structure FitsLast (fits : List Char → List Char → Prop) (text back literal : List Char) : Prop where
  suffix : back <:+ text
  fit : fits back literal
  longest : ∀ other, fits back other → other.length ≤ literal.length
  last : ∀ later other, later <:+ text → fits later other → back.length ≤ later.length

theorem lastPlace_cases {reads : List Char → Option (List Char)} {fits : List Char → List Char → Prop}
    (nothing : reads [] = none) (takes : ∀ text, TakesLongest (fits text) (reads text)) (text : List Char) :
    (∃ back literal, lastPlace reads text = some (back.length, literal) ∧ FitsLast fits text back literal) ∨
    lastPlace reads text = none ∧ ∀ back literal, back <:+ text → ¬fits back literal := by
  have unread {back : List Char} (absent : reads back = none) (literal : List Char) : ¬fits back literal := by
    have taken := takes back
    rw [absent] at taken
    exact taken literal
  have last := lastPlace_takesLast nothing text
  cases found : lastPlace reads text with
  | none =>
    rw [found] at last
    exact .inr ⟨rfl, fun back literal suffix => unread (last back suffix) literal⟩
  | some place =>
    rw [found] at last
    obtain ⟨left, literal⟩ := place
    obtain ⟨back, suffix, rfl, here, last⟩ := last
    have taken := takes back
    rw [here] at taken
    refine .inl ⟨back, literal, rfl, suffix, taken.1, taken.2, fun later other within fit => ?_⟩
    by_contra shorter
    exact unread (last later within (Nat.lt_of_not_le shorter)) other fit

end SeedNavigator.Descriptor.Textual
