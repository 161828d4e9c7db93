import Mathlib.Data.List.Lex
import Mathlib.Order.WellFounded
import SeedNavigator.Proofs.Descriptor.Values

/-! Which base paths the bare text of a source gives. A text can often be read in several ways, with other
classes, other assignments and other ends of the literals. The parts of a reading are as long as they can be,
each one with those before it already as long as they can be. -/
namespace SeedNavigator.Descriptor.Textual

open SeedNavigator.Text

variable {name text literal rest source place back : List Char} {reserve : Nat}

/-- A field is assigned a literal at the front of the text, which goes on with `rest`. -/
structure Assigns (name text literal rest : List Char) : Prop where
  line : '\n' ∉ literal
  form : ∃ left right, IsBlanks left ∧ IsBlanks right ∧
    text = name ++ left ++ '=' :: right ++ '"' :: literal ++ '"' :: ';' :: rest

/-- The controllers field is assigned a literal with at least `reserve` characters behind it. -/
def AssignsControllers (reserve : Nat) (text controllers : List Char) : Prop :=
  ∃ rest, Assigns ".controllersBasePath".toList text controllers rest ∧ reserve ≤ rest.length

/-- The views field is assigned a literal behind one character of the line. -/
def AssignsViews (text views : List Char) : Prop :=
  ∃ lead field rest, text = lead :: field ∧ lead ≠ '\n' ∧ Assigns "viewsBasePath".toList field views rest

/-- The parts of a text that are not fixed, as far as they can be read in more than one way. -/
structure Reading where
  outside : List Char
  inside : List Char
  controllers : List Char
  between : List Char
  views : List Char

namespace Reading

/-- The source is read with its controllers field assigned at `place`, and its views field at `back`. -/
structure Stands (reading : Reading) (source place back : List Char) : Prop where
  head : source = reading.outside ++ "class AngularApp".toList ++ reading.inside ++ place
  controllers : Assigns ".controllersBasePath".toList place reading.controllers (reading.between ++ back)
  views : AssignsViews back reading.views

/-- The class, the controllers field and the views field follow one another in the source. -/
def Of (reading : Reading) (source : List Char) : Prop :=
  ∃ place back, reading.Stands source place back

def lengths (reading : Reading) : List Nat :=
  [reading.outside.length, reading.inside.length, reading.controllers.length, reading.between.length,
    reading.views.length]

/-- The lengths of the parts are the greatest in lexicographic order. -/
structure Longest (reading : Reading) (source : List Char) : Prop where
  reads : reading.Of source
  greatest : ∀ other : Reading, other.Of source → other.lengths ≤ reading.lengths

def descriptor (reading : Reading) : MainDescriptor :=
  ⟨String.ofList reading.controllers, String.ofList reading.views⟩

end Reading

/-! ### One assignment -/

theorem assigns_iff : Assigns name text literal rest ↔
    '\n' ∉ literal ∧ valueOf? name '=' text = some (literal ++ '"' :: ';' :: rest) := by
  rw [valueOf?_eq_some_iff rfl]
  constructor
  · rintro ⟨line, left, right, blankLeft, blankRight, form⟩
    exact ⟨line, left, right, blankLeft, blankRight, by simpa using form⟩
  · rintro ⟨line, left, right, blankLeft, blankRight, form⟩
    exact ⟨line, left, right, blankLeft, blankRight, by simpa using form⟩

theorem Assigns.eq_of_length {other more : List Char} (assigns : Assigns name text literal rest)
    (others : Assigns name text other more) (same : literal.length = other.length) :
    literal = other ∧ rest = more := by
  have value := (assigns_iff.mp assigns).2.symm.trans (assigns_iff.mp others).2
  obtain ⟨rfl, behind⟩ := List.append_inj (Option.some.inj value) same
  simpa using behind

theorem Assigns.suffix (assigns : Assigns name text literal rest) : rest <:+ text := by
  obtain ⟨-, left, right, -, -, rfl⟩ := assigns
  exact ⟨name ++ left ++ '=' :: right ++ '"' :: literal ++ ['"', ';'], by simp⟩

/-- The literals that a field can be assigned here are those that its value begins with. -/
theorem exists_assigns_iff {value : List Char} (opened : valueOf? name '=' text = some value) :
    (∃ rest, Assigns name text literal rest ∧ reserve ≤ rest.length) ↔ Closes reserve value literal := by
  constructor
  · rintro ⟨rest, assigns, room⟩
    obtain ⟨line, value'⟩ := assigns_iff.mp assigns
    exact ⟨line, rest, Option.some.inj (opened.symm.trans value'), room⟩
  · rintro ⟨line, rest, rfl, room⟩
    exact ⟨rest, assigns_iff.mpr ⟨line, opened⟩, room⟩

theorem assigned_takesLongest (name : List Char) (reserve : Nat) (text : List Char) :
    TakesLongest (fun literal => ∃ rest, Assigns name text literal rest ∧ reserve ≤ rest.length)
      ((valueOf? name '=' text).bind (literal? reserve)) := by
  cases opened : valueOf? name '=' text with
  | none =>
    rintro literal ⟨rest, assigns, -⟩
    have := (assigns_iff.mp assigns).2
    simp [opened] at this
  | some value =>
    exact (literal?_takesLongest reserve value).congr fun literal => (exists_assigns_iff opened).symm

theorem controllersAt?_takesLongest (reserve : Nat) (text : List Char) :
    TakesLongest (AssignsControllers reserve text) (controllersAt? reserve text) :=
  assigned_takesLongest ".controllersBasePath".toList reserve text

theorem viewsAt?_takesLongest (text : List Char) : TakesLongest (AssignsViews text) (viewsAt? text) := by
  cases text with
  | nil =>
    rintro views ⟨lead, field, rest, text, -⟩
    contradiction
  | cons c text =>
    rw [viewsAt?]
    split
    · rename_i newline
      rintro views ⟨lead, field, rest, same, line, -⟩
      exact line ((List.cons.inj same).1.symm.trans newline)
    · rename_i line
      refine (assigned_takesLongest "viewsBasePath".toList 0 text).congr fun views => ?_
      constructor
      · rintro ⟨rest, assigns, -⟩
        exact ⟨c, text, rest, rfl, line, assigns⟩
      · rintro ⟨lead, field, rest, same, -, assigns⟩
        obtain ⟨rfl, rfl⟩ := List.cons.inj same
        exact ⟨rest, assigns, Nat.zero_le _⟩

theorem AssignsViews.eq_of_length {views other : List Char} (assigns : AssignsViews text views)
    (others : AssignsViews text other) (same : views.length = other.length) : views = other := by
  obtain ⟨lead, field, rest, rfl, -, assigns⟩ := assigns
  obtain ⟨lead', field', rest', text, -, others⟩ := others
  obtain ⟨rfl, rfl⟩ := List.cons.inj text
  exact (assigns.eq_of_length others same).1

/-! ### The class -/

theorem namesClass_iff : namesClass reserve text text.length = true ↔ ∃ outside inside,
    text = outside ++ "class AngularApp".toList ++ inside ∧ reserve ≤ inside.length := by
  have head : classHead = "class AngularApp".toList := rfl
  induction text with
  | nil =>
    constructor
    · intro named
      simp [namesClass] at named
    · rintro ⟨outside, inside, text, -⟩
      simp at text
  | cons c text ih =>
    simp only [namesClass, List.length_cons, Nat.add_sub_cancel, Bool.or_eq_true, Bool.and_eq_true,
      decide_eq_true_iff, head, Option.isSome_iff_exists, ih]
    constructor
    · rintro (⟨⟨inside, here⟩, room⟩ | ⟨outside, inside, rfl, room⟩)
      · have parts := eq_append_of_afterPrefix? here
        have length := congrArg List.length parts
        rw [List.length_append, List.length_cons] at length
        exact ⟨[], inside, parts, by omega⟩
      · exact ⟨c :: outside, inside, rfl, room⟩
    · rintro ⟨outside, inside, parts, room⟩
      cases outside with
      | nil =>
        have length := congrArg List.length parts
        rw [List.nil_append] at parts
        rw [List.nil_append, List.length_append, List.length_cons] at length
        exact .inl ⟨⟨inside, parts ▸ afterPrefix?_append _ inside⟩, by omega⟩
      | cons d outside => exact .inr ⟨outside, inside, (List.cons.inj parts).2, room⟩

/-- If the class is named at all with this much behind it, there is a last time. -/
theorem exists_last_class (named : namesClass reserve text text.length = true) :
    ∃ outside inside, text = outside ++ "class AngularApp".toList ++ inside ∧ reserve ≤ inside.length ∧
      ∀ before behind, text = before ++ "class AngularApp".toList ++ behind → reserve ≤ behind.length →
        before.length ≤ outside.length := by
  obtain ⟨outside, inside, parts, room⟩ := namesClass_iff.mp named
  obtain ⟨inside, ⟨outside, parts, room⟩, least⟩ := (measure List.length).wf.has_min
    {inside | ∃ outside, text = outside ++ "class AngularApp".toList ++ inside ∧ reserve ≤ inside.length}
    ⟨inside, outside, parts, room⟩
  refine ⟨outside, inside, parts, room, fun before behind others enough => ?_⟩
  have longer : inside.length ≤ behind.length := Nat.le_of_not_lt (least behind ⟨before, others, enough⟩)
  have length := congrArg List.length (parts.symm.trans others)
  simp only [List.length_append] at length
  omega

/-! ### Comparing readings -/

/-- Lists are in order if their heads are, and in case of a tie their tails. -/
theorem cons_le_cons {a b : Nat} {as bs : List Nat} (heads : a ≤ b) (tails : a = b → as ≤ bs) :
    a :: as ≤ b :: bs := by
  rcases Nat.lt_or_eq_of_le heads with less | rfl
  · exact le_of_lt (List.Lex.rel less)
  · exact List.cons_le_cons a (tails rfl)

namespace Reading

variable {reading other : Reading} {place' back' : List Char}

namespace Stands

theorem place_suffix (stands : reading.Stands source place back) : place <:+ source :=
  ⟨_, stands.head.symm⟩

theorem back_suffix (stands : reading.Stands source place back) : back <:+ source :=
  ((List.suffix_append reading.between back).trans stands.controllers.suffix).trans stands.place_suffix

theorem assignsControllers (stands : reading.Stands source place back) (room : reserve ≤ back.length) :
    AssignsControllers reserve place reading.controllers :=
  ⟨_, stands.controllers, room.trans (List.suffix_append reading.between back).length_le⟩

theorem namesClass (stands : reading.Stands source place back) (room : reserve ≤ place.length) :
    namesClass reserve source source.length = true :=
  namesClass_iff.mpr ⟨reading.outside, reading.inside ++ place, stands.head.trans (List.append_assoc ..),
    room.trans (List.suffix_append reading.inside place).length_le⟩

/-- The length in front of the place fixes what stands there. -/
theorem eq_place (stands : reading.Stands source place back) (others : other.Stands source place' back')
    (outside : other.outside.length = reading.outside.length)
    (inside : other.inside.length = reading.inside.length) :
    other.outside = reading.outside ∧ other.inside = reading.inside ∧ place' = place := by
  have parts := others.head.symm.trans stands.head
  obtain ⟨front, place⟩ := List.append_inj parts (by simp [outside, inside])
  obtain ⟨head, inside⟩ := List.append_inj' front inside
  exact ⟨(List.append_inj head outside).1, inside, place⟩

/-- The lengths behind it fix the rest. -/
theorem eq_back (stands : reading.Stands source place back) (others : other.Stands source place back')
    (controllers : other.controllers.length = reading.controllers.length)
    (between : other.between.length = reading.between.length) :
    other.controllers = reading.controllers ∧ other.between = reading.between ∧ back' = back := by
  obtain ⟨controllers, behind⟩ := others.controllers.eq_of_length stands.controllers controllers
  exact ⟨controllers, List.append_inj behind between⟩

theorem eq_of_lengths (stands : reading.Stands source place back)
    (others : other.Stands source place' back') (same : other.lengths = reading.lengths) :
    other = reading := by
  obtain ⟨outside, inside, controllers, between, views⟩ : other.outside.length = reading.outside.length ∧
      other.inside.length = reading.inside.length ∧ other.controllers.length = reading.controllers.length ∧
      other.between.length = reading.between.length ∧ other.views.length = reading.views.length := by
    simpa [lengths] using same
  obtain ⟨outside, inside, rfl⟩ := stands.eq_place others outside inside
  obtain ⟨controllers, between, rfl⟩ := stands.eq_back others controllers between
  have views := others.views.eq_of_length stands.views views
  cases reading
  cases other
  simp_all

end Stands

theorem Longest.unique (longest : reading.Longest source) (others : other.Longest source) :
    other = reading := by
  obtain ⟨place, back, stands⟩ := longest.reads
  obtain ⟨place', back', others'⟩ := others.reads
  exact stands.eq_of_lengths others'
    (le_antisymm (longest.greatest other others.reads) (others.greatest reading longest.reads))

/-! ### The furthest reading -/

/-- Everything stands as far to the right as it can, and the literals are the longest there. -/
structure Furthest (reading : Reading) (source place back : List Char) : Prop
    extends reading.Stands source place back where
  lastViews : FitsLast AssignsViews source back reading.views
  lastControllers : FitsLast (AssignsControllers back.length) source place reading.controllers
  lastClass : ∀ outside inside, source = outside ++ "class AngularApp".toList ++ inside →
    place.length ≤ inside.length → outside.length ≤ reading.outside.length

/-- Whatever another reading takes, the furthest one has room for it further to the right, so that each part
is the longest for the parts in front of it. -/
theorem Furthest.longest (furthest : reading.Furthest source place back) : reading.Longest source := by
  refine ⟨⟨place, back, furthest.toStands⟩, ?_⟩
  rintro other ⟨place', back', others⟩
  have views : back.length ≤ back'.length :=
    furthest.lastViews.last back' other.views others.back_suffix others.views
  have assigns : AssignsControllers back.length place' other.controllers := others.assignsControllers views
  have controllers : place.length ≤ place'.length :=
    furthest.lastControllers.last place' other.controllers others.place_suffix assigns
  have outside : other.outside.length ≤ reading.outside.length := by
    apply furthest.lastClass other.outside (other.inside ++ place')
    · rw [others.head, List.append_assoc]
    · rw [List.length_append]
      omega
  refine cons_le_cons outside fun outside => ?_
  have inside : other.inside.length ≤ reading.inside.length := by
    have length := congrArg List.length (others.head.symm.trans furthest.head)
    simp only [List.length_append] at length
    omega
  refine cons_le_cons inside fun inside => ?_
  obtain ⟨-, -, rfl⟩ := furthest.eq_place others outside inside
  have literal : other.controllers.length ≤ reading.controllers.length :=
    furthest.lastControllers.longest other.controllers assigns
  refine cons_le_cons literal fun literal => ?_
  obtain ⟨-, behind⟩ := others.controllers.eq_of_length furthest.controllers literal
  have between : other.between.length ≤ reading.between.length := by
    have length := congrArg List.length behind
    simp only [List.length_append] at length
    omega
  refine cons_le_cons between fun between => ?_
  obtain ⟨-, -, rfl⟩ := furthest.eq_back others literal between
  exact cons_le_cons (furthest.lastViews.longest other.views others.views) fun _ => le_rfl

theorem exists_furthest {controllers views : List Char} (lastViews : FitsLast AssignsViews source back views)
    (lastControllers : FitsLast (AssignsControllers back.length) source place controllers)
    (named : Textual.namesClass place.length source source.length = true) :
    ∃ reading : Reading, reading.Furthest source place back ∧
      reading.controllers = controllers ∧ reading.views = views := by
  obtain ⟨outside, behind, head, room, lastClass⟩ := exists_last_class named
  obtain ⟨inside, rfl⟩ := List.suffix_of_suffix_length_le lastControllers.suffix ⟨_, head.symm⟩ room
  obtain ⟨rest, assigns, room⟩ := lastControllers.fit
  obtain ⟨between, rfl⟩ :=
    List.suffix_of_suffix_length_le lastViews.suffix (assigns.suffix.trans lastControllers.suffix) room
  have stands : Stands ⟨outside, inside, controllers, between, views⟩ source place back :=
    ⟨head.trans (List.append_assoc ..).symm, assigns, lastViews.fit⟩
  exact ⟨_, ⟨stands, lastViews, lastControllers, lastClass⟩, rfl, rfl⟩

end Reading

/-! ### The search -/

/-- The search either comes to a furthest reading or finds that there is none. -/
theorem mainChars?_cases (source : List Char) :
    (∃ reading : Reading, ∃ place back, reading.Furthest source place back ∧
      mainChars? source = some (reading.controllers, reading.views)) ∨
    mainChars? source = none ∧ ∀ reading : Reading, ¬reading.Of source := by
  rcases lastPlace_cases rfl viewsAt?_takesLongest source with
    ⟨back, views, viewsFound, lastViews⟩ | ⟨viewsFound, noViews⟩
  case inr =>
    refine .inr ⟨by rw [mainChars?, viewsFound], ?_⟩
    rintro reading ⟨place, back, stands⟩
    exact noViews back reading.views stands.back_suffix stands.views
  have behind {reading : Reading} {place' back' : List Char} (stands : reading.Stands source place' back') :
      AssignsControllers back.length place' reading.controllers :=
    stands.assignsControllers (lastViews.last back' reading.views stands.back_suffix stands.views)
  rcases lastPlace_cases rfl (controllersAt?_takesLongest back.length) source with
    ⟨place, controllers, controllersFound, lastControllers⟩ | ⟨controllersFound, noControllers⟩
  case inr =>
    refine .inr ⟨by simp only [mainChars?, viewsFound, controllersFound], ?_⟩
    rintro reading ⟨place, back', stands⟩
    exact noControllers place reading.controllers stands.place_suffix (behind stands)
  by_cases named : namesClass place.length source source.length = true
  case neg =>
    refine .inr ⟨by simp only [mainChars?, viewsFound, controllersFound, if_neg named], ?_⟩
    rintro reading ⟨place', back', stands⟩
    exact named (stands.namesClass
      (lastControllers.last place' reading.controllers stands.place_suffix (behind stands)))
  obtain ⟨reading, furthest, rfl, rfl⟩ := Reading.exists_furthest lastViews lastControllers named
  exact .inl ⟨reading, place, back, furthest,
    by simp only [mainChars?, viewsFound, controllersFound, if_pos named]⟩

/-- A source has a main descriptor if it can be read as one at all. Then the longest reading gives it, and
there is only one such reading. -/
theorem main?_longest_reading (source : String) :
    ((main? source).isSome ↔ ∃ reading : Reading, reading.Of source.toList) ∧
    ∀ descriptor, main? source = some descriptor ↔
      ∃ reading : Reading, reading.Longest source.toList ∧ reading.descriptor = descriptor := by
  rcases mainChars?_cases source.toList with ⟨reading, place, back, furthest, found⟩ | ⟨found, unread⟩
  · have answer : main? source = some reading.descriptor := by
      rw [main?, found]
      rfl
    have longest := furthest.longest
    rw [answer]
    constructor
    · exact iff_of_true rfl ⟨reading, longest.reads⟩
    · intro descriptor
      constructor
      · intro same
        exact ⟨reading, longest, Option.some.inj same⟩
      · rintro ⟨other, others, rfl⟩
        rw [longest.unique others]
  · have answer : main? source = none := by
      rw [main?, found]
      rfl
    rw [answer]
    constructor
    · exact iff_of_false (by simp) fun ⟨reading, reads⟩ => unread reading reads
    · intro descriptor
      exact iff_of_false (by simp) fun ⟨reading, longest, _⟩ => unread reading longest.reads

/-- The literal of the controllers goes on to the last quote and semicolon of its line that leave room for the
views. -/
example : main? "class AngularApp .controllersBasePath = \"a\"; x = \"b\"; viewsBasePath = \"c\";" =
    some ⟨"a\"; x = \"b", "c"⟩ := by
  decide +kernel

end SeedNavigator.Descriptor.Textual
