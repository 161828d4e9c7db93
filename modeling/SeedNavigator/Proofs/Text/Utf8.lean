import Mathlib.Algebra.Group.Nat.Defs

/-! The bytes of a text. A text begins with another one if its bytes do, and texts are ordered by their
bytes as they are by their characters: the first byte of a character tells how many follow, and more of them
follow a greater one. -/
namespace SeedNavigator.Text

/-- The bytes of a text in UTF-8. -/
def bytes (text : List Char) : List UInt8 :=
  text.flatMap String.utf8EncodeChar

theorem toList_loop_eq (content : ByteArray) (index : Nat) (read : List UInt8) :
    ByteArray.toList.loop content index read = read.reverse ++ content.data.toList.drop index := by
  fun_induction ByteArray.toList.loop content index read with
  | case1 index read inside ih =>
    have bound : index < content.data.toList.length := by simpa using inside
    have byte : content.get! index = content.data.toList[index] := by
      simpa [ByteArray.get!] using getElem!_pos content.data index inside
    rw [ih, List.drop_eq_getElem_cons bound, byte]
    simp
  | case2 index read outside =>
    rw [List.drop_eq_nil_of_le (by simpa using outside), List.append_nil]

theorem toUTF8_toList (text : String) : text.toUTF8.toList = bytes text.toList := by
  rw [String.toUTF8_eq_toByteArray, ← String.utf8Encode_toList, ByteArray.toList, toList_loop_eq]
  simp [List.utf8Encode, bytes]

theorem bytes_append (front back : List Char) : bytes (front ++ back) = bytes front ++ bytes back :=
  List.flatMap_append

theorem prefix_of_bytes_prefix {front text : List Char} (h : bytes front <+: bytes text) :
    front <+: text := by
  obtain ⟨rest, split⟩ := h
  apply List.isPrefix_of_utf8Encode_append_eq_utf8Encode rest.toByteArray
  rw [List.utf8Encode, List.utf8Encode, ← List.toByteArray_append]
  exact congrArg List.toByteArray split

/-! ### Order -/

/-- A mark for the number of bytes that follow, and the digits of a character's code. -/
def spelled (mark : Nat) : (following : Nat) → (code : Nat) → List UInt8
  | 0, code => [UInt8.ofNat (mark + code)]
  | following + 1, code => spelled mark following (code / 64) ++ [UInt8.ofNat (code % 64 + 128)]

variable {mark mark' following following' code code' : Nat}

theorem byte_lt {low high : Nat} (less : low < high) (small : high < 256) :
    UInt8.ofNat low < UInt8.ofNat high := by
  rw [UInt8.lt_iff_toNat_lt, UInt8.toNat_ofNat', UInt8.toNat_ofNat']
  omega

theorem exists_spelled_eq_cons (mark following code : Nat) :
    ∃ rest, spelled mark following code = UInt8.ofNat (mark + code / 64 ^ following) :: rest := by
  induction following generalizing code with
  | zero => exact ⟨[], by simp [spelled]⟩
  | succ following ih =>
    obtain ⟨rest, first⟩ := ih (code / 64)
    refine ⟨rest ++ [UInt8.ofNat (code % 64 + 128)], ?_⟩
    rw [spelled, first, Nat.div_div_eq_div_mul, Nat.pow_succ']
    rfl

theorem spelled_append_lt_of_first (small : mark' + code' / 64 ^ following' < 256)
    (less : mark + code / 64 ^ following < mark' + code' / 64 ^ following') (x y : List UInt8) :
    spelled mark following code ++ x < spelled mark' following' code' ++ y := by
  obtain ⟨rest, first⟩ := exists_spelled_eq_cons mark following code
  obtain ⟨rest', first'⟩ := exists_spelled_eq_cons mark' following' code'
  rw [first, first']
  exact List.cons_lt_cons_iff.mpr (.inl (byte_lt less small))

theorem spelled_append_lt (small : mark + code' / 64 ^ following < 256) (less : code < code')
    (x y : List UInt8) : spelled mark following code ++ x < spelled mark following code' ++ y := by
  induction following generalizing code code' x y with
  | zero =>
    apply spelled_append_lt_of_first small
    simpa using less
  | succ following ih =>
    rw [spelled, spelled, List.append_assoc, List.append_assoc]
    rcases Nat.lt_or_ge (code / 64) (code' / 64) with higher | level
    · apply ih _ higher
      rwa [Nat.div_div_eq_div_mul, ← Nat.pow_succ']
    · have same : code / 64 = code' / 64 := by omega
      rw [same]
      apply List.append_left_lt
      exact List.cons_lt_cons_iff.mpr (.inl (byte_lt (by omega) (by omega)))

theorem utf8EncodeChar_eq_spelled (c : Char) :
    (String.utf8EncodeChar c = spelled 0 0 c.toNat ∧ c.toNat < 0x80) ∨
    (String.utf8EncodeChar c = spelled 192 1 c.toNat ∧ 0x80 ≤ c.toNat ∧ c.toNat < 0x800) ∨
    (String.utf8EncodeChar c = spelled 224 2 c.toNat ∧ 0x800 ≤ c.toNat ∧ c.toNat < 0x10000) ∨
    (String.utf8EncodeChar c = spelled 240 3 c.toNat ∧ 0x10000 ≤ c.toNat ∧ c.toNat < 0x110000) := by
  have bound : c.toNat < 0x110000 := by
    rcases c.valid with low | high
    · exact Nat.lt_trans low (by decide)
    · exact high.2
  have digit (wide : Nat) (mark : Nat) (code : Nat) (fits : code < wide) :
      UInt8.ofNat (code % wide + mark) = UInt8.ofNat (mark + code) := by
    rw [Nat.mod_eq_of_lt fits, Nat.add_comm]
  have deeper : c.toNat / 64 / 64 = c.toNat / 4096 := Nat.div_div_eq_div_mul ..
  have deepest : c.toNat / 4096 / 64 = c.toNat / 262144 := Nat.div_div_eq_div_mul ..
  simp only [String.utf8EncodeChar, Char.toNat_val, spelled, deeper, deepest, List.cons_append,
    List.nil_append]
  split
  · exact .inl ⟨by rw [Nat.zero_add], by omega⟩
  · split
    · exact .inr (.inl ⟨by rw [digit 32 192 _ (by omega)], by omega, by omega⟩)
    · split
      · exact .inr (.inr (.inl ⟨by rw [digit 16 224 _ (by omega)], by omega, by omega⟩))
      · exact .inr (.inr (.inr ⟨by rw [digit 8 240 _ (by omega)], by omega, by omega⟩))

theorem utf8EncodeChar_append_lt {c d : Char} (less : c < d) (x y : List UInt8) :
    String.utf8EncodeChar c ++ x < String.utf8EncodeChar d ++ y := by
  have codes : c.toNat < d.toNat := less
  rcases utf8EncodeChar_eq_spelled c with ⟨text, range⟩ | ⟨text, range⟩ | ⟨text, range⟩ | ⟨text, range⟩ <;>
    rcases utf8EncodeChar_eq_spelled d with
      ⟨text', range'⟩ | ⟨text', range'⟩ | ⟨text', range'⟩ | ⟨text', range'⟩ <;>
    rw [text, text']
  -- two characters of one length differ in a digit, others in the first byte
  all_goals first
    | exact spelled_append_lt (by omega) codes x y
    | exact spelled_append_lt_of_first (by omega) (by omega) x y

theorem bytes_lt_of_lt {text other : List Char} (less : text < other) : bytes text < bytes other := by
  induction less with
  | nil =>
    rename_i c rest
    have spoken : String.utf8EncodeChar c ≠ [] := String.utf8EncodeChar_ne_nil
    obtain ⟨first, others, code⟩ := List.exists_cons_of_ne_nil spoken
    rw [bytes, bytes, List.flatMap_cons, code]
    exact List.Lex.nil
  | rel first => exact utf8EncodeChar_append_lt first _ _
  | cons later ih => exact List.append_left_lt ih

/-- The order of the bytes is the order of the characters. -/
theorem bytes_lt_iff {text other : List Char} : bytes text < bytes other ↔ text < other := by
  refine ⟨fun less => Decidable.byContradiction fun refused => ?_, bytes_lt_of_lt⟩
  rcases List.le_iff_lt_or_eq.mp (List.not_lt.mp refused) with behind | same
  · exact List.lt_asymm less (bytes_lt_of_lt behind)
  · exact List.lt_irrefl (bytes text) (same ▸ less)

theorem toUTF8_lt_iff {text other : String} :
    text.toUTF8.toList < other.toUTF8.toList ↔ text < other := by
  rw [toUTF8_toList, toUTF8_toList, bytes_lt_iff, String.lt_iff]

end SeedNavigator.Text
