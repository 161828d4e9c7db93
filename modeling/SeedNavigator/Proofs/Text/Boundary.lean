import SeedNavigator.Proofs.Text.Utf8
import SeedNavigator.Text.Boundary
import Mathlib.Order.Bounds.Basic

/-! The boundaries of a text are the places between its characters. In well-formed text each byte begins a
character or goes on with one, so the search for a boundary finds the last place between two characters, and
the text in front of it is whole. -/
namespace SeedNavigator.Text

/-- A place between two characters of a text, or at one of its ends. -/
def IsBetween (text : String) (index : Nat) : Prop :=
  ∃ before behind, text = before ++ behind ∧ before.utf8ByteSize = index

variable {text before behind : String} {index place bound : Nat} {byte : UInt8} {c : Char}

/-! ### Bytes of characters -/

/-- No byte of a character is beyond the marks of those that begin four bytes. -/
theorem lt_of_mem_utf8EncodeChar (h : byte ∈ String.utf8EncodeChar c) : byte < 0xF8 := by
  rw [UInt8.lt_iff_toNat_lt]
  rcases utf8EncodeChar_eq_spelled c with ⟨code, range⟩ | ⟨code, range⟩ | ⟨code, range⟩ | ⟨code, range⟩ <;>
    simp only [code, spelled, List.nil_append, List.cons_append, List.mem_cons, List.not_mem_nil,
      or_false] at h
  · subst h
    simp
    omega
  · rcases h with rfl | rfl <;> simp <;> omega
  · rcases h with rfl | rfl | rfl <;> simp <;> omega
  · rcases h with rfl | rfl | rfl | rfl <;> simp <;> omega

theorem getUTF8Byte_lt (inside : (⟨index⟩ : String.Pos.Raw) < text.rawEndPos) :
    text.getUTF8Byte ⟨index⟩ inside < 0xF8 := by
  have content : text.toByteArray.data = (bytes text.toList).toArray := by
    rw [← String.utf8Encode_toList, List.utf8Encode, bytes, List.data_toByteArray]
  have member : text.getUTF8Byte ⟨index⟩ inside ∈ text.toByteArray.data := by
    rw [String.getUTF8Byte, ByteArray.getElem_eq_getElem_data]
    exact Array.getElem_mem _
  rw [content, List.mem_toArray] at member
  obtain ⟨c, -, own⟩ := List.mem_flatMap.mp member
  exact lt_of_mem_utf8EncodeChar own

theorem isUTF8FirstByte_iff (h : byte < 0xF8) : byte.IsUTF8FirstByte ↔ goesOn byte = false := by
  have all : ∀ digits : BitVec 8, UInt8.ofBitVec digits < 0xF8 →
      ((UInt8.ofBitVec digits).IsUTF8FirstByte ↔ goesOn (UInt8.ofBitVec digits) = false) := by
    decide +kernel
  exact all byte.toBitVec h

/-! ### Boundaries -/

theorem isBoundary_iff_isValid : isBoundary text index = true ↔ (⟨index⟩ : String.Pos.Raw).IsValid text := by
  rw [isBoundary]
  by_cases first : index = 0
  · subst first
    exact iff_of_true rfl String.Pos.Raw.isValid_zero
  · rw [if_neg first, String.Pos.Raw.isValid_iff_isUTF8FirstByte]
    by_cases inside : index < text.utf8ByteSize
    · have proper : (⟨index⟩ : String.Pos.Raw) ≠ text.rawEndPos :=
        fun same => Nat.ne_of_lt inside (congrArg String.Pos.Raw.byteIdx same)
      have within : (⟨index⟩ : String.Pos.Raw) < text.rawEndPos := inside
      simp [inside, proper, within, isUTF8FirstByte_iff (getUTF8Byte_lt within)]
    · have without : ¬(⟨index⟩ : String.Pos.Raw) < text.rawEndPos := inside
      simp [inside, without, String.Pos.Raw.ext_iff]

/-- What the bytes tell apart are the places between characters. -/
theorem isBoundary_iff : isBoundary text index = true ↔ IsBetween text index := by
  rw [isBoundary_iff_isValid, String.Pos.Raw.isValid_iff_exists_append]
  refine exists₂_congr fun before behind => and_congr_right fun _ => ?_
  rw [String.Pos.Raw.ext_iff, String.byteIdx_rawEndPos]
  exact eq_comm

/-- The search passes over no boundary on its way back. -/
theorem isGreatest_of_lastBoundary? (h : lastBoundary? text index = some place) :
    IsGreatest {between | IsBetween text between ∧ between ≤ index} place := by
  fun_induction lastBoundary? text index with
  | case1 index found =>
    obtain rfl := Option.some.inj h
    exact ⟨⟨isBoundary_iff.mp found, Nat.le_refl _⟩, fun _ other => other.2⟩
  | case2 => contradiction
  | case3 previous refused ih =>
    obtain ⟨⟨own, low⟩, least⟩ := ih h
    refine ⟨⟨own, Nat.le_succ_of_le low⟩, ?_⟩
    rintro other ⟨between, low⟩
    have apart : other ≠ previous + 1 := by
      rintro rfl
      exact refused (isBoundary_iff.mpr between)
    exact least ⟨between, by omega⟩

theorem lastBoundary?_eq_some_iff : lastBoundary? text index = some place ↔
    IsGreatest {between | IsBetween text between ∧ between ≤ index} place := by
  refine ⟨isGreatest_of_lastBoundary?, fun greatest => ?_⟩
  obtain ⟨found, there⟩ := exists_lastBoundary? text index
  rw [there, (isGreatest_of_lastBoundary? there).unique greatest]

/-! ### Cutting -/

theorem front_append (before behind : List Char) :
    front (String.ofList before).utf8ByteSize (before ++ behind) = before := by
  induction before with
  | nil =>
    cases behind with
    | nil => rfl
    | cons c rest => simp [front, Nat.ne_of_gt (Char.utf8Size_pos c)]
  | cons c rest ih =>
    have size : (String.ofList (c :: rest)).utf8ByteSize =
        c.utf8Size + (String.ofList rest).utf8ByteSize := by
      simp [String.ofList_cons]
    rw [List.cons_append, front, size, if_pos (Nat.le_add_right ..), Nat.add_sub_cancel_left, ih]

/-- What is cut off at a place between two characters is all that stands before it. -/
theorem upTo?_append (before behind : String) :
    upTo? (before ++ behind) before.utf8ByteSize = some before := by
  have between : isBoundary (before ++ behind) before.utf8ByteSize = true :=
    isBoundary_iff.mpr ⟨before, behind, rfl, rfl⟩
  have cut := front_append before.toList behind.toList
  rw [String.ofList_toList] at cut
  rw [upTo?, if_pos between, String.toList_append, cut, String.ofList_toList]

theorem upTo?_eq_some_iff : upTo? text index = some before ↔
    ∃ behind, text = before ++ behind ∧ before.utf8ByteSize = index := by
  constructor
  · intro cut
    have between : isBoundary text index = true := (Option.ite_none_right_eq_some.mp cut).1
    obtain ⟨front, behind, rfl, rfl⟩ := isBoundary_iff.mp between
    rw [upTo?_append] at cut
    obtain rfl := Option.some.inj cut
    exact ⟨behind, rfl, rfl⟩
  · rintro ⟨behind, rfl, rfl⟩
    exact upTo?_append before behind

theorem after?_append (before behind : String) :
    after? (before ++ behind) before.utf8ByteSize = some behind := by
  have between : isBoundary (before ++ behind) before.utf8ByteSize = true :=
    isBoundary_iff.mpr ⟨before, behind, rfl, rfl⟩
  have cut := front_append before.toList behind.toList
  rw [String.ofList_toList] at cut
  rw [after?, if_pos between, String.toList_append, cut, List.drop_left, String.ofList_toList]

theorem after?_eq_some_iff : after? text index = some behind ↔
    ∃ before, text = before ++ behind ∧ before.utf8ByteSize = index := by
  constructor
  · intro cut
    have between : isBoundary text index = true := (Option.ite_none_right_eq_some.mp cut).1
    obtain ⟨before, rest, rfl, rfl⟩ := isBoundary_iff.mp between
    rw [after?_append] at cut
    obtain rfl := Option.some.inj cut
    exact ⟨before, rfl, rfl⟩
  · rintro ⟨before, rfl, rfl⟩
    exact after?_append before behind

/-- Only one character fits in one byte. -/
theorem utf8ByteSize_eq_one_iff : text.utf8ByteSize = 1 ↔ ∃ c : Char, text = String.singleton c ∧ c.utf8Size = 1 := by
  constructor
  · intro size
    cases chars : text.toList with
    | nil =>
      obtain rfl : text = "" := String.toList_inj.mp chars
      simp at size
    | cons c rest =>
      obtain rfl : text = String.singleton c ++ String.ofList rest := String.toList_inj.mp (by simp [chars])
      rw [String.utf8ByteSize_append, String.utf8ByteSize_singleton] at size
      have own := Char.utf8Size_pos c
      have none : String.ofList rest = "" := String.utf8ByteSize_eq_zero_iff.mp (by omega)
      rw [none, String.append_empty]
      exact ⟨c, rfl, by omega⟩
  · rintro ⟨c, rfl, size⟩
    rw [String.utf8ByteSize_singleton, size]

theorem inner?_eq_some_iff {inner : String} : inner? text = some inner ↔
    ∃ opening closing : Char, opening.utf8Size = 1 ∧ closing.utf8Size = 1 ∧
      text = String.singleton opening ++ inner ++ String.singleton closing := by
  rw [inner?, Option.bind_eq_some_iff]
  constructor
  · rintro ⟨most, cut, cutAgain⟩
    obtain ⟨first, rfl, single⟩ := after?_eq_some_iff.mp cutAgain
    obtain ⟨last, rfl, size⟩ := upTo?_eq_some_iff.mp cut
    have lastSize : last.utf8ByteSize = 1 := by
      have front := String.utf8ByteSize_append (s := first) (t := inner)
      rw [String.utf8ByteSize_append (s := first ++ inner)] at size
      omega
    obtain ⟨opening, rfl, small⟩ := utf8ByteSize_eq_one_iff.mp single
    obtain ⟨closing, rfl, alsoSmall⟩ := utf8ByteSize_eq_one_iff.mp lastSize
    exact ⟨opening, closing, small, alsoSmall, rfl⟩
  · rintro ⟨opening, closing, small, alsoSmall, rfl⟩
    refine ⟨String.singleton opening ++ inner, upTo?_eq_some_iff.mpr ⟨_, rfl, ?_⟩,
      after?_eq_some_iff.mpr ⟨_, rfl, ?_⟩⟩
    · simp [String.utf8ByteSize_append, alsoSmall]
    · rw [String.utf8ByteSize_singleton, small]

/-- A place between two characters stays one where what follows it is left out. -/
theorem IsBetween.front (between : IsBetween (before ++ behind) place) (low : place ≤ before.utf8ByteSize) :
    IsBetween before place := by
  obtain ⟨own, rest, split, rfl⟩ := between
  have chars : before.toList ++ behind.toList = own.toList ++ rest.toList := by
    simpa using congrArg String.toList split
  rcases List.append_eq_append_iff.mp chars with ⟨more, longer, -⟩ | ⟨more, shorter, -⟩
  · obtain rfl : own = before ++ String.ofList more := String.toList_inj.mp (by simpa using longer)
    rw [String.utf8ByteSize_append] at low ⊢
    have none : String.ofList more = "" := String.utf8ByteSize_eq_zero_iff.mp (by omega)
    exact ⟨before, "", String.append_empty.symm, by simp [none]⟩
  · exact ⟨own, String.ofList more, String.toList_inj.mp (by simpa using shorter), rfl⟩

/-- The ends of a text can be taken off unless one of them is a byte of a longer character. -/
theorem isSome_inner?_iff (long : 2 ≤ text.utf8ByteSize) : (inner? text).isSome ↔
    IsBetween text 1 ∧ IsBetween text (text.utf8ByteSize - 1) := by
  rw [Option.isSome_iff_exists]
  constructor
  · rintro ⟨inner, cut⟩
    obtain ⟨opening, closing, small, alsoSmall, rfl⟩ := inner?_eq_some_iff.mp cut
    refine ⟨⟨String.singleton opening, inner ++ String.singleton closing, String.append_assoc, ?_⟩,
      ⟨String.singleton opening ++ inner, String.singleton closing, rfl, ?_⟩⟩
    · rw [String.utf8ByteSize_singleton, small]
    · simp [String.utf8ByteSize_append, alsoSmall]
  · rintro ⟨first, ⟨most, last, split, size⟩⟩
    rw [split] at first
    obtain ⟨opening, inner, rfl, single⟩ := first.front (by omega)
    refine ⟨inner, ?_⟩
    rw [inner?, ← size, split, upTo?_append, Option.bind_some, ← single, after?_append]

/-- The bytes of a character are not parted. -/
theorem IsBetween.le_of_lt (between : IsBetween (before ++ String.singleton c ++ behind) place)
    (low : place < before.utf8ByteSize + c.utf8Size) : place ≤ before.utf8ByteSize := by
  obtain ⟨own, rest, split, rfl⟩ := between
  have chars : before.toList ++ c :: behind.toList = own.toList ++ rest.toList := by
    simpa using congrArg String.toList split
  rcases List.append_eq_append_iff.mp chars with ⟨more, longer, later⟩ | ⟨more, shorter, -⟩
  · cases more with
    | nil => exact Nat.le_of_eq (congrArg String.utf8ByteSize (String.toList_inj.mp (by simpa using longer)))
    | cons d more =>
      obtain ⟨rfl, -⟩ := List.cons.inj later
      have whole : own = before ++ String.singleton c ++ String.ofList more :=
        String.toList_inj.mp (by simpa using longer)
      rw [whole, String.utf8ByteSize_append, String.utf8ByteSize_append, String.utf8ByteSize_singleton] at low
      omega
  · have whole : before = own ++ String.ofList more := String.toList_inj.mp (by simpa using shorter)
    rw [whole, String.utf8ByteSize_append]
    exact Nat.le_add_right ..

end SeedNavigator.Text
