import SeedNavigator.Proofs.Descriptor.BasePaths
import SeedNavigator.Proofs.Text.Words

/-! When the base paths are captured as they are assigned. A literal is taken up to the last quote and
semicolon of its line, so what else stands on the line decides. -/
namespace SeedNavigator.Descriptor.Textual

open SeedNavigator.Text

variable {field literal behind more controllers between views back place other : List Char} {lead : Char}

/-- A field of some object is assigned a literal, in the usual spelling. -/
def assignment (field literal behind : List Char) : List Char :=
  '.' :: (field ++ ' ' :: '=' :: ' ' :: '"' :: (literal ++ '"' :: ';' :: behind))

/-- A class with its two fields assigned one after the other, and any text around the assignments. -/
def assigned (inside controllers between views behind : List Char) : List Char :=
  "class AngularApp".toList ++ inside ++ assignment controllersField.toList controllers
    (between ++ assignment viewsField.toList views behind)

/-- A literal within one line, and a text behind it, neither of which names the field. -/
structure NamedOnce (field literal behind : List Char) : Prop where
  unquoted : '"' ∉ literal
  line : '\n' ∉ literal
  literal : ¬field <:+: literal
  behind : ¬field <:+: behind

/-- A quote with a semicolon behind it stands on the rest of the line. -/
def ClosesAgain (text : List Char) : Prop := ∃ literal, Closes 0 text literal

/-! ### The places of the assignments -/

/-- A name that takes no part in the assignment's marks, and does not begin again within itself. -/
structure IsFieldName (field : List Char) : Prop where
  marks : ∀ c ∈ [' ', '=', '"', ';'], c ∉ field
  once : ¬field <:+: field.tail

theorem isFieldName_controllers : IsFieldName controllersField.toList :=
  ⟨by simp [controllersField], by decide +kernel⟩

theorem isFieldName_views : IsFieldName viewsField.toList :=
  ⟨by simp [viewsField], by decide +kernel⟩

theorem NamedOnce.absent (once : NamedOnce field literal behind) (name : IsFieldName field) :
    ¬field <:+: field.tail ++ ' ' :: '=' :: ' ' :: '"' :: (literal ++ '"' :: ';' :: behind) := by
  have blank : ' ' ∉ field := name.marks _ (by simp)
  have quote : '"' ∉ field := name.marks _ (by simp)
  rw [infix_separated blank, infix_cons_separated (name.marks '=' (by simp)), infix_cons_separated blank,
    infix_cons_separated quote, infix_separated quote, infix_cons_separated (name.marks ';' (by simp))]
  rintro (own | inside | inside)
  · exact name.once own
  · exact once.literal inside
  · exact once.behind inside

/-- No later place than that of the assignment has the name. -/
theorem NamedOnce.eq_assignment (once : NamedOnce field literal behind) (name : IsFieldName field)
    (suffix : lead :: (field ++ more) <:+ assignment field literal behind) :
    lead :: (field ++ more) = assignment field literal behind := by
  rcases List.suffix_cons_iff.mp suffix with same | later
  · exact same
  · refine absurd ?_ (once.absent name)
    cases field with
    | nil => exact List.nil_infix
    | cons c field =>
      rcases List.suffix_cons_iff.mp later with same | later
      · exact ⟨[], more, by simpa using (List.cons.inj same).2⟩
      · exact (List.infix_append' [lead] _ more).trans later.isInfix

theorem eq_assignment_of_assignsViews (once : NamedOnce viewsField.toList views behind)
    (suffix : back <:+ assignment viewsField.toList views behind) (assigns : AssignsViews back other) :
    back = assignment viewsField.toList views behind := by
  obtain ⟨lead, text, rest, rfl, -, -, left, right, -, -, form⟩ := assigns
  have named : text = viewsField.toList ++ (left ++ '=' :: right ++ '"' :: other ++ '"' :: ';' :: rest) := by
    rw [form]
    simp only [List.append_assoc]
    rfl
  rw [named] at suffix ⊢
  exact once.eq_assignment isFieldName_views suffix

theorem assignment_append (field literal behind more : List Char) :
    assignment field literal (behind ++ more) = assignment field literal behind ++ more := by
  simp [assignment]

theorem eq_assignment_of_assignsControllers (once : NamedOnce controllersField.toList controllers between)
    (suffix : place <:+ assignment controllersField.toList controllers (between ++ back))
    (assigns : AssignsControllers back.length place other) :
    place = assignment controllersField.toList controllers (between ++ back) := by
  rw [assignment_append] at suffix ⊢
  obtain ⟨rest, assigns, room⟩ := assigns
  obtain ⟨inner, rfl⟩ : back <:+ rest :=
    List.suffix_of_suffix_length_le (List.suffix_append ..) (assigns.suffix.trans suffix) room
  obtain ⟨-, left, right, -, -, form⟩ := assigns
  have named : place =
      '.' :: (controllersField.toList ++ (left ++ '=' :: right ++ '"' :: other ++ '"' :: ';' :: inner)) ++ back := by
    rw [form]
    simp only [List.append_assoc, List.cons_append]
    rfl
  rw [named] at suffix ⊢
  obtain ⟨front, parts⟩ := suffix
  rw [← List.append_assoc] at parts
  rw [once.eq_assignment isFieldName_controllers ⟨front, List.append_cancel_right parts⟩]

/-! ### The literals -/

/-- Behind a literal without quotes the next one to be closed is a longer one. -/
theorem closes_behind_iff (unquoted : '"' ∉ literal) (line : '\n' ∉ literal) :
    Closes 0 (literal ++ '"' :: ';' :: behind) other ↔
      other = literal ∨ ∃ more, other = literal ++ '"' :: ';' :: more ∧ Closes 0 behind more := by
  constructor
  · rintro ⟨own, rest, parts, -⟩
    rcases List.append_eq_append_iff.mp parts with ⟨inner, rfl, closing⟩ | ⟨inner, rfl, closing⟩
    · match inner with
      | [] => exact .inl (List.append_nil _)
      | [c] => simp at closing
      | c :: d :: more =>
        simp only [List.cons_append, List.cons.injEq] at closing
        obtain ⟨rfl, rfl, rfl⟩ := closing
        exact .inr ⟨more, rfl, by simp_all, rest, rfl, Nat.zero_le _⟩
    · cases inner with
      | nil => exact .inl (List.append_nil _).symm
      | cons c inner =>
        obtain ⟨rfl, -⟩ := List.cons.inj closing
        simp at unquoted
  · rintro (rfl | ⟨more, rfl, own, rest, rfl, -⟩)
    · exact ⟨line, behind, rfl, Nat.zero_le _⟩
    · exact ⟨by simp [line, own], rest, by simp, Nat.zero_le _⟩

/-- A text that has to stay free behind the literal may as well be cut off. -/
theorem closes_append_iff {value : List Char} :
    Closes back.length (value ++ back) literal ↔ Closes 0 value literal := by
  constructor
  · rintro ⟨line, rest, parts, room⟩
    obtain ⟨inner, rfl⟩ : back <:+ rest :=
      List.suffix_of_suffix_length_le ⟨value, rfl⟩ ⟨literal ++ ['"', ';'], by simp [parts]⟩ room
    exact ⟨line, inner, List.append_cancel_right (parts.trans (by simp)), Nat.zero_le _⟩
  · rintro ⟨line, rest, rfl, -⟩
    exact ⟨line, rest ++ back, by simp, by simp⟩

theorem valueOf?_spelled (name value : List Char) :
    valueOf? name '=' (name ++ ' ' :: '=' :: ' ' :: '"' :: value) = some value :=
  (valueOf?_eq_some_iff rfl).mpr ⟨[' '], [' '], by simp [IsBlanks, isBlank], by simp [IsBlanks, isBlank], rfl⟩

theorem assignsViews_assignment_iff :
    AssignsViews (assignment viewsField.toList views behind) other ↔
      Closes 0 (views ++ '"' :: ';' :: behind) other := by
  rw [← exists_assigns_iff (valueOf?_spelled viewsField.toList (views ++ '"' :: ';' :: behind))]
  constructor
  · rintro ⟨lead, field, rest, text, -, assigns⟩
    obtain ⟨rfl, rfl⟩ := List.cons.inj text
    exact ⟨rest, assigns, Nat.zero_le _⟩
  · rintro ⟨rest, assigns, -⟩
    exact ⟨'.', _, rest, rfl, by decide, assigns⟩

theorem assignsControllers_assignment_iff :
    AssignsControllers back.length (assignment controllersField.toList controllers (between ++ back)) other ↔
      Closes 0 (controllers ++ '"' :: ';' :: between) other := by
  have opened := valueOf?_spelled ('.' :: controllersField.toList) ((controllers ++ '"' :: ';' :: between) ++ back)
  rw [← closes_append_iff, ← exists_assigns_iff opened, List.append_assoc]
  rfl

/-! ### The descriptor -/

/-- The descriptor is found, each literal being the longest that is closed behind its assignment. -/
theorem exists_captured (inside : List Char) (first : NamedOnce controllersField.toList controllers between)
    (second : NamedOnce viewsField.toList views behind) : ∃ one two,
      mainChars? (assigned inside controllers between views behind) = some (one, two) ∧
      TakesLongest (Closes 0 (controllers ++ '"' :: ';' :: between)) (some one) ∧
      TakesLongest (Closes 0 (views ++ '"' :: ';' :: behind)) (some two) := by
  have fitsViews : AssignsViews (assignment viewsField.toList views behind) views :=
    assignsViews_assignment_iff.mpr ((closes_behind_iff second.unquoted second.line).mpr (.inl rfl))
  have assigns : Assigns ".controllersBasePath".toList
      (assignment controllersField.toList controllers (between ++ assignment viewsField.toList views behind))
      controllers (between ++ assignment viewsField.toList views behind) :=
    assigns_iff.mpr ⟨first.line, valueOf?_spelled ('.' :: controllersField.toList) _⟩
  have suffix : assignment controllersField.toList controllers
      (between ++ assignment viewsField.toList views behind) <:+ assigned inside controllers between views behind :=
    List.suffix_append ..
  have viewsSuffix : assignment viewsField.toList views behind <:+ assignment controllersField.toList controllers
      (between ++ assignment viewsField.toList views behind) := by
    rw [assignment_append]
    exact List.suffix_append ..
  rcases mainChars?_cases (assigned inside controllers between views behind) with
    ⟨reading, place, back, furthest, found⟩ | ⟨-, unread⟩
  · obtain rfl : back = assignment viewsField.toList views behind :=
      eq_assignment_of_assignsViews second (List.suffix_of_suffix_length_le furthest.back_suffix
        (viewsSuffix.trans suffix) (furthest.lastViews.last _ _ (viewsSuffix.trans suffix) fitsViews)) furthest.views
    have last := furthest.lastControllers
    obtain rfl : place = assignment controllersField.toList controllers _ :=
      eq_assignment_of_assignsControllers first (List.suffix_of_suffix_length_le furthest.place_suffix suffix
        (last.last _ _ suffix ⟨_, assigns, by simp⟩)) last.fit
    refine ⟨_, _, found, ⟨assignsControllers_assignment_iff.mp last.fit, fun other closes => ?_⟩,
      ⟨assignsViews_assignment_iff.mp furthest.views, fun other closes => ?_⟩⟩
    · exact last.longest other (assignsControllers_assignment_iff.mpr closes)
    · exact furthest.lastViews.longest other (assignsViews_assignment_iff.mpr closes)
  · exact absurd ⟨_, _, rfl, assigns, fitsViews⟩ (unread ⟨[], inside, controllers, between, views⟩)

/-- The longest literal goes on exactly if another one is closed behind it. -/
theorem eq_iff_of_takesLongest (unquoted : '"' ∉ literal) (line : '\n' ∉ literal)
    (takes : TakesLongest (Closes 0 (literal ++ '"' :: ';' :: behind)) (some other)) :
    literal <+: other ∧ (other = literal ↔ ¬ClosesAgain behind) := by
  obtain ⟨closes, longest⟩ := takes
  rcases (closes_behind_iff unquoted line).mp closes with rfl | ⟨more, rfl, again⟩
  · refine ⟨List.prefix_refl _, iff_of_true rfl ?_⟩
    rintro ⟨more, again⟩
    have longer := longest _ ((closes_behind_iff unquoted line).mpr (.inr ⟨more, rfl, again⟩))
    simp only [List.length_append, List.length_cons] at longer
    omega
  · exact ⟨List.prefix_append .., iff_of_false (by simp) (not_not_intro ⟨more, again⟩)⟩

/-- The descriptor is found whatever else the source holds, and begins with the literals as they are assigned.
It holds just them if and only if no further quote with a semicolon stands on the line of an assignment, as
far as the next assignment. -/
theorem captured_exactly_iff (inside : List Char) (first : NamedOnce controllersField.toList controllers between)
    (second : NamedOnce viewsField.toList views behind) : ∃ one two,
      main? (String.ofList (assigned inside controllers between views behind)) =
        some ⟨String.ofList one, String.ofList two⟩ ∧
      controllers <+: one ∧ views <+: two ∧
      (one = controllers ↔ ¬ClosesAgain between) ∧ (two = views ↔ ¬ClosesAgain behind) := by
  obtain ⟨one, two, found, takesOne, takesTwo⟩ := exists_captured inside first second
  obtain ⟨startsOne, exactOne⟩ := eq_iff_of_takesLongest first.unquoted first.line takesOne
  obtain ⟨startsTwo, exactTwo⟩ := eq_iff_of_takesLongest second.unquoted second.line takesTwo
  refine ⟨one, two, ?_, startsOne, startsTwo, exactOne, exactTwo⟩
  rw [main?, String.toList_ofList, found]
  rfl

/-- A title that is assigned on the same line is captured with the directory in front of it. -/
theorem title_captured_with_controllers :
    NamedOnce controllersField.toList "src/c".toList " AngularApp.title = \"Shop\"; AngularApp".toList ∧
    NamedOnce viewsField.toList "src/v".toList "\n".toList ∧
    ClosesAgain " AngularApp.title = \"Shop\"; AngularApp".toList ∧
    ∃ one, main? ("class AngularApp {} AngularApp.controllersBasePath = \"src/c\"; " ++
        "AngularApp.title = \"Shop\"; AngularApp.viewsBasePath = \"src/v\";\n") =
          some ⟨String.ofList one, "src/v"⟩ ∧ one ≠ "src/c".toList := by
  have first : NamedOnce controllersField.toList "src/c".toList " AngularApp.title = \"Shop\"; AngularApp".toList :=
    ⟨by decide +kernel, by decide +kernel, by decide +kernel, by decide +kernel⟩
  have second : NamedOnce viewsField.toList "src/v".toList "\n".toList :=
    ⟨by decide +kernel, by decide +kernel, by decide +kernel, by decide +kernel⟩
  have again : ClosesAgain " AngularApp.title = \"Shop\"; AngularApp".toList :=
    ⟨" AngularApp.title = \"Shop".toList, by decide +kernel, " AngularApp".toList, by decide +kernel, Nat.zero_le _⟩
  have alone : ¬ClosesAgain "\n".toList := by
    rintro ⟨literal, closes⟩
    exact closes_newline closes
  have text : String.ofList (assigned " {} AngularApp".toList "src/c".toList
      " AngularApp.title = \"Shop\"; AngularApp".toList "src/v".toList "\n".toList) =
        "class AngularApp {} AngularApp.controllersBasePath = \"src/c\"; " ++
          "AngularApp.title = \"Shop\"; AngularApp.viewsBasePath = \"src/v\";\n" := by
    decide +kernel
  obtain ⟨one, two, found, -, -, exactOne, exactTwo⟩ := captured_exactly_iff " {} AngularApp".toList first second
  rw [text, exactTwo.mpr alone, String.ofList_toList] at found
  exact ⟨first, second, again, one, found, fun exact => exactOne.mp exact again⟩

end SeedNavigator.Descriptor.Textual
