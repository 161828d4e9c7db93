/-! Cutting a text at each occurrence of one character, putting the pieces together again, and
cutting off a known beginning or end. -/
namespace SeedNavigator.Text

/-- The pieces between the occurrences of `sep`; there is always one more piece than occurrences. -/
def pieces (sep : Char) : List Char → List (List Char)
  | [] => [[]]
  | c :: rest =>
    if c = sep then [] :: pieces sep rest
    else match pieces sep rest with
      | [] => [[c]]
      | piece :: others => (c :: piece) :: others

def glue (sep : Char) : List (List Char) → List Char
  | [] => []
  | [piece] => piece
  | piece :: others => piece ++ sep :: glue sep others

def afterPrefix? {α : Type} [BEq α] : (head text : List α) → Option (List α)
  | [], text => some text
  | _ :: _, [] => none
  | h :: head, c :: text => if h == c then afterPrefix? head text else none

def beforeSuffix? {α : Type} [BEq α] (tail text : List α) : Option (List α) :=
  (afterPrefix? tail.reverse text.reverse).map List.reverse

/-- The part after the last `sep`, or the whole text if there is none. -/
def afterLast (sep : Char) (text : List Char) : List Char :=
  (text.reverse.takeWhile (· ≠ sep)).reverse

/-- The part before the last `sep`, if there is one. -/
def beforeLast? (sep : Char) (text : List Char) : Option (List Char) :=
  match text.reverse.dropWhile (· ≠ sep) with
  | [] => none
  | _ :: before => some before.reverse

theorem pieces_ne_nil (sep : Char) (text : List Char) : pieces sep text ≠ [] := by
  cases text with
  | nil => simp [pieces]
  | cons c rest =>
    simp only [pieces]
    split
    · simp
    · split <;> simp

theorem glue_pieces (sep : Char) (text : List Char) : glue sep (pieces sep text) = text := by
  induction text with
  | nil => rfl
  | cons c rest ih =>
    simp only [pieces]
    by_cases h : c = sep
    · rw [if_pos h]
      cases hp : pieces sep rest with
      | nil => exact absurd hp (pieces_ne_nil sep rest)
      | cons piece others => rw [← ih, hp, h]; rfl
    · rw [if_neg h]
      cases hp : pieces sep rest with
      | nil => exact absurd hp (pieces_ne_nil sep rest)
      | cons piece others =>
        rw [← ih, hp]
        cases others <;> rfl

theorem eq_append_of_afterPrefix? {α : Type} [BEq α] [LawfulBEq α] {head text rest : List α}
    (h : afterPrefix? head text = some rest) : text = head ++ rest := by
  induction head generalizing text with
  | nil => simpa [afterPrefix?] using h
  | cons a head ih =>
    cases text with
    | nil => simp [afterPrefix?] at h
    | cons b text =>
      simp only [afterPrefix?] at h
      split at h
      · rename_i same
        rw [ih h, eq_of_beq same]; rfl
      · simp at h

theorem afterPrefix?_append {α : Type} [BEq α] [LawfulBEq α] (head rest : List α) :
    afterPrefix? head (head ++ rest) = some rest := by
  induction head with
  | nil => rfl
  | cons a head ih => simp [afterPrefix?, ih]

theorem beforeSuffix?_eq_some_iff {α : Type} [BEq α] [LawfulBEq α] {tail text front : List α} :
    beforeSuffix? tail text = some front ↔ text = front ++ tail := by
  simp only [beforeSuffix?, Option.map_eq_some_iff]
  constructor
  · rintro ⟨rest, h, rfl⟩
    have := congrArg List.reverse (eq_append_of_afterPrefix? h)
    simpa using this
  · rintro rfl
    exact ⟨front.reverse, by simp [afterPrefix?_append], by simp⟩

end SeedNavigator.Text
