import SeedNavigator.Text.Pieces

/-! Laws of cutting and gluing. A text cut at a separator falls into the pieces of its two sides, and
texts without the separator are recovered from the text glued from them. -/
namespace SeedNavigator.Text

variable {sep c : Char}

@[simp] theorem pieces_sep (rest : List Char) : pieces sep (sep :: rest) = [] :: pieces sep rest := by
  simp [pieces]

theorem pieces_cons (h : c ≠ sep) (rest : List Char) :
    ∃ piece others, pieces sep rest = piece :: others ∧
      pieces sep (c :: rest) = (c :: piece) :: others := by
  cases found : pieces sep rest with
  | nil => exact absurd found (pieces_ne_nil sep rest)
  | cons piece others => exact ⟨piece, others, rfl, by simp [pieces, h, found]⟩

theorem pieces_append_sep (front back : List Char) :
    pieces sep (front ++ sep :: back) = pieces sep front ++ pieces sep back := by
  induction front with
  | nil => simp [pieces]
  | cons c front ih =>
    by_cases h : c = sep
    · subst h
      simp [ih]
    · obtain ⟨piece, others, cut, -⟩ := pieces_cons h front
      simp [pieces, h, ih, cut]

/-- Two texts that are joined share the piece at the joint. -/
theorem pieces_append {front back last first : List Char} {before after : List (List Char)}
    (cutFront : pieces sep front = before ++ [last]) (cutBack : pieces sep back = first :: after) :
    pieces sep (front ++ back) = before ++ (last ++ first) :: after := by
  induction front generalizing before last with
  | nil =>
    cases before with
    | nil =>
      obtain rfl : [] = last := by simpa [pieces] using cutFront
      simpa using cutBack
    | cons piece before => simp [pieces] at cutFront
  | cons c front ih =>
    by_cases h : c = sep
    · subst h
      cases before with
      | nil => simp [pieces_ne_nil] at cutFront
      | cons piece before =>
        obtain ⟨rfl, rest⟩ := List.cons.inj ((pieces_sep front).symm.trans cutFront)
        simp [ih rest]
    · obtain ⟨piece, others, cut, cutAll⟩ := pieces_cons h front
      cases before with
      | nil =>
        obtain ⟨rfl, rfl⟩ := List.cons.inj (cutAll.symm.trans cutFront)
        have joined : pieces sep (front ++ back) = [] ++ (piece ++ first) :: after := ih cut
        simp [pieces, h, joined]
      | cons head before =>
        obtain ⟨rfl, rfl⟩ := List.cons.inj (cutAll.symm.trans cutFront)
        have joined : pieces sep (front ++ back) = piece :: before ++ (last ++ first) :: after := ih cut
        simp [pieces, h, joined]

theorem pieces_of_notMem {text : List Char} (h : sep ∉ text) : pieces sep text = [text] := by
  induction text with
  | nil => rfl
  | cons c text ih =>
    simp only [List.mem_cons, not_or] at h
    simp [pieces, Ne.symm h.1, ih h.2]

theorem notMem_of_mem_pieces {text piece : List Char} (member : piece ∈ pieces sep text) :
    sep ∉ piece := by
  induction text generalizing piece with
  | nil => simp_all [pieces]
  | cons c text ih =>
    by_cases h : c = sep
    · subst h
      rcases List.mem_cons.mp (pieces_sep text ▸ member) with rfl | later
      · simp
      · exact ih later
    · obtain ⟨first, others, cut, cutAll⟩ := pieces_cons h text
      rw [cutAll] at member
      rw [cut] at ih
      rcases List.mem_cons.mp member with rfl | later
      · simpa [Ne.symm h] using ih List.mem_cons_self
      · exact ih (List.mem_cons_of_mem _ later)

/-- Every character of a piece is one of the text. -/
theorem mem_of_mem_pieces {text piece : List Char} (member : piece ∈ pieces sep text)
    (inside : c ∈ piece) : c ∈ text := by
  induction text generalizing piece with
  | nil => simp_all [pieces]
  | cons d text ih =>
    by_cases h : d = sep
    · subst h
      rcases List.mem_cons.mp (pieces_sep text ▸ member) with rfl | later
      · simp at inside
      · exact List.mem_cons_of_mem _ (ih later inside)
    · obtain ⟨first, others, cut, cutAll⟩ := pieces_cons h text
      rw [cutAll] at member
      rw [cut] at ih
      rcases List.mem_cons.mp member with rfl | later
      · rcases List.mem_cons.mp inside with rfl | inside
        · exact List.mem_cons_self
        · exact List.mem_cons_of_mem _ (ih List.mem_cons_self inside)
      · exact List.mem_cons_of_mem _ (ih (List.mem_cons_of_mem _ later) inside)

/-! ### The last separator -/

theorem forall_mem_reverse_ne {tail : List Char} (h : sep ∉ tail) :
    ∀ c ∈ tail.reverse, decide (c ≠ sep) = true := by
  intro c member
  have apart : c ≠ sep := fun same => h (same ▸ List.mem_reverse.mp member)
  simp [apart]

/-- The part behind the last separator is the same behind another separator. -/
theorem afterLast_append_sep (sep : Char) (front text : List Char) :
    afterLast sep (front ++ sep :: text) = afterLast sep text := by
  have stops : (sep :: front.reverse).takeWhile (· ≠ sep) = [] := by simp
  rw [afterLast, afterLast, List.reverse_append, List.reverse_cons, List.append_assoc,
    List.singleton_append, List.takeWhile_append, stops, List.append_nil]
  split
  · rename_i whole
    rw [(List.takeWhile_prefix _).eq_of_length whole]
  · rfl

/-- A text without the separator lengthens the part behind the last one. -/
theorem afterLast_append_of_notMem (front : List Char) {tail : List Char} (h : sep ∉ tail) :
    afterLast sep (front ++ tail) = afterLast sep front ++ tail := by
  rw [afterLast, afterLast, List.reverse_append, List.takeWhile_append_of_pos (forall_mem_reverse_ne h)]
  simp

theorem afterLast_append (front : List Char) {tail : List Char} (h : sep ∉ tail) :
    afterLast sep (front ++ sep :: tail) = tail := by
  rw [afterLast_append_sep]
  exact afterLast_append_of_notMem [] h

theorem afterLast_eq_nil_iff {text : List Char} :
    afterLast sep text = [] ↔ text = [] ∨ text.getLast? = some sep := by
  rw [afterLast, List.reverse_eq_nil_iff, ← List.head?_reverse, ← @List.reverse_eq_nil_iff _ text]
  cases text.reverse <;> simp [List.takeWhile_cons]

theorem beforeLast?_append (front : List Char) {tail : List Char} (h : sep ∉ tail) :
    beforeLast? sep (front ++ sep :: tail) = some front := by
  rw [beforeLast?, List.reverse_append, List.reverse_cons, List.append_assoc,
    List.dropWhile_append_of_pos (forall_mem_reverse_ne h)]
  simp

/-- The text behind the last separator is what a search from the end passes over. -/
theorem exists_eq_of_dropWhile_reverse {text before : List Char}
    (found : text.reverse.dropWhile (· ≠ sep) = c :: before) :
    ∃ tail, text = before.reverse ++ sep :: tail := by
  have first := List.head?_dropWhile_not (· ≠ sep) text.reverse
  rw [found] at first
  have ends : c = sep := by simpa using first
  have parts : text.reverse.takeWhile (· ≠ sep) ++ c :: before = text.reverse := by
    rw [← found]
    exact List.takeWhile_append_dropWhile
  refine ⟨(text.reverse.takeWhile (· ≠ sep)).reverse, ?_⟩
  simpa [ends] using (congrArg List.reverse parts).symm

/-! ### Gluing -/

theorem glue_cons (piece : List Char) {others : List (List Char)} (h : others ≠ []) :
    glue sep (piece :: others) = piece ++ sep :: glue sep others := by
  cases others with
  | nil => contradiction
  | cons => rfl

theorem glue_append {front back : List (List Char)} (hf : front ≠ []) (hb : back ≠ []) :
    glue sep (front ++ back) = glue sep front ++ sep :: glue sep back := by
  induction front with
  | nil => contradiction
  | cons piece front ih =>
    by_cases last : front = []
    · subst last
      exact glue_cons piece hb
    · rw [List.cons_append, glue_cons piece (by simp [last]), ih last, glue_cons piece last]
      simp

/-- All pieces but the last ones are followed by a separator. -/
theorem glue_append_eq (front : List (List Char)) {back : List (List Char)} (h : back ≠ []) :
    glue sep (front ++ back) = front.flatMap (· ++ [sep]) ++ glue sep back := by
  induction front with
  | nil => rfl
  | cons piece rest ih =>
    rw [List.cons_append, glue_cons piece (by simp [h]), ih]
    simp

theorem pieces_glue {list : List (List Char)} (nonempty : list ≠ []) (h : ∀ piece ∈ list, sep ∉ piece) :
    pieces sep (glue sep list) = list := by
  induction list with
  | nil => contradiction
  | cons piece others ih =>
    have alone := pieces_of_notMem (h piece List.mem_cons_self)
    by_cases last : others = []
    · subst last
      exact alone
    · rw [glue_cons piece last, pieces_append_sep, alone,
        ih last fun p member => h p (List.mem_cons_of_mem _ member)]
      rfl

theorem mem_glue {list : List (List Char)} (member : c ∈ glue sep list) :
    c = sep ∨ ∃ piece ∈ list, c ∈ piece := by
  induction list with
  | nil => simp [glue] at member
  | cons piece others ih =>
    by_cases last : others = []
    · subst last
      exact .inr ⟨piece, List.mem_cons_self, member⟩
    · rw [glue_cons piece last, List.mem_append, List.mem_cons] at member
      rcases member with inside | rfl | later
      · exact .inr ⟨piece, List.mem_cons_self, inside⟩
      · exact .inl rfl
      · refine (ih later).imp_right ?_
        rintro ⟨other, among, inside⟩
        exact ⟨other, List.mem_cons_of_mem _ among, inside⟩

/-- Texts without the separator lengthen the last piece only. -/
theorem exists_pieces_append (sep : Char) (text : List Char) : ∃ front last, ∀ tail, sep ∉ tail →
    pieces sep (text ++ tail) = front ++ [last ++ tail] := by
  induction text with
  | nil => exact ⟨[], [], fun tail h => pieces_of_notMem h⟩
  | cons c text ih =>
    obtain ⟨front, last, cut⟩ := ih
    by_cases hc : c = sep
    · subst hc
      exact ⟨[] :: front, last, fun tail h => by simp [cut tail h]⟩
    · cases front with
      | nil => exact ⟨[], c :: last, fun tail h => by simp [pieces, hc, cut tail h]⟩
      | cons piece front =>
        exact ⟨(c :: piece) :: front, last, fun tail h => by simp [pieces, hc, cut tail h]⟩

end SeedNavigator.Text
