import SeedNavigator.Path.Document
import SeedNavigator.Proofs.Path.NormalForm

/-! The kind of a document by the extension of its path. Where a path is written with a suffix at its end,
the extension is the one of the suffix, unless nothing but the suffix is left of the file name. -/
namespace SeedNavigator

open SeedNavigator.Text

namespace Path

variable {front stem name extension : List Char}

/-- What goes on at the end of a path without a separator becomes the end of its file name. -/
theorem fileName?_of_pieces {path : List Char} {outer : List Segment}
    (cut : pieces '/' path = outer ++ [name]) (busy : isIdle name = false) (ahead : name ≠ up) :
    fileName? path = some name := by
  have kept : ¬(name = [] ∨ name = here) := by
    intro idle
    rw [isIdle_iff.mpr idle] at busy
    contradiction
  have last : (pieces '/' path).filter (fun p => p ≠ [] ∧ p ≠ ['.']) =
      outer.filter (fun p => p ≠ [] ∧ p ≠ ['.']) ++ [name] := by
    have own : name ≠ [] ∧ name ≠ ['.'] := not_or.mp kept
    rw [cut, List.filter_append]
    simp [own]
  have far : ¬name = ['.', '.'] := ahead
  rw [fileName?, last, List.getLast?_concat]
  simp [far]

/-- The extension behind the last point, where the name does not begin with it. -/
theorem extension?_of_fileName (found : fileName? front = some (stem ++ '.' :: extension))
    (named : stem ≠ []) (point : '.' ∉ extension) : extension? front = some extension := by
  rw [extension?, found]
  dsimp only
  rw [beforeLast?_append stem point, afterLast_append stem point]
  cases stem with
  | nil => contradiction
  | cons c rest => rfl

theorem exists_pieces_append_char (front : List Char) {c : Char} (h : c ≠ '/') :
    ∃ outer last, last ≠ [] ∧ ∀ tail, '/' ∉ tail →
      pieces '/' (front ++ [c] ++ tail) = outer ++ [last ++ tail] := by
  obtain ⟨outer, last, cut⟩ := exists_pieces_append '/' front
  refine ⟨outer, last ++ [c], by simp, fun tail slash => ?_⟩
  rw [List.append_assoc, cut ([c] ++ tail) (by simp [slash, h.symm]), List.append_assoc]

theorem extension?_append (slash : '/' ∉ stem ++ '.' :: extension) (nonempty : extension ≠ [])
    (point : '.' ∉ extension)
    (named : stem = [] → ∃ init c, front = init ++ [c] ∧ c ≠ '/') :
    extension? (front ++ (stem ++ '.' :: extension)) = some extension := by
  obtain ⟨outer, last, kept, cut⟩ : ∃ outer last, last ++ stem ≠ [] ∧
      pieces '/' (front ++ (stem ++ '.' :: extension)) =
        outer ++ [last ++ (stem ++ '.' :: extension)] := by
    by_cases bare : stem = []
    · obtain ⟨init, c, rfl, apart⟩ := named bare
      obtain ⟨outer, last, some, cut⟩ := exists_pieces_append_char init apart
      exact ⟨outer, last, by simp [some], cut _ slash⟩
    · obtain ⟨outer, last, cut⟩ := exists_pieces_append '/' front
      exact ⟨outer, last, by simp [bare], cut _ slash⟩
  rw [← List.append_assoc last] at cut
  have long : 3 ≤ ((last ++ stem) ++ '.' :: extension).length := by
    have := List.length_pos_iff.mpr kept
    have := List.length_pos_iff.mpr nonempty
    simp only [List.length_append, List.length_cons] at *
    omega
  have busy : isIdle ((last ++ stem) ++ '.' :: extension) = false := by
    rw [Bool.eq_false_iff, ne_eq, isIdle_iff]
    rintro (empty | point)
    · simp [empty] at long
    · simp [point, here] at long
  have ahead : (last ++ stem) ++ '.' :: extension ≠ up := by
    intro climb
    simp [climb, up] at long
  exact extension?_of_fileName (fileName?_of_pieces cut busy ahead) kept point

end Path

namespace DocumentKind

variable {id extension : List Char} {path : String}

theorem ofLanguageChars_eq_controller_iff : ofLanguageChars id = .controller ↔
    String.ofList (lower id) ∈ ["typescript", "ts"] := by
  simp only [ofLanguageChars, List.mem_cons, List.not_mem_nil, or_false]
  split
  · simp [*]
  · split <;> simp [*]

theorem ofLanguageChars_eq_view_iff : ofLanguageChars id = .view ↔
    String.ofList (lower id) ∈ ["html", "htm"] := by
  simp only [ofLanguageChars, List.mem_cons, List.not_mem_nil, or_false]
  split
  · rename_i script
    rcases script with same | same <;> simp [same]
  · split <;> simp [*]

theorem ofPath_of_extension (h : Path.extension? path.toList = some extension) :
    ofPath path = ofLanguageChars extension := by
  rw [ofPath, h]

end DocumentKind

end SeedNavigator
