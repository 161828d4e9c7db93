import SeedNavigator.Glob.Match
import SeedNavigator.Proofs.Text.Utf8

/-! What the pieces of a glob leave of a path. The pieces take their parts of the path one after the other, so
a glob that begins with literal characters matches only paths that begin with them. -/
namespace SeedNavigator.Glob

open SeedNavigator.Text (bytes)

variable {piece : Piece} {rest pieces : List Piece} {head text left : Bytes} {texts : List Bytes}

theorem mem_after : left ∈ after head text ↔ text = head ++ left := by
  induction head generalizing text with
  | nil => simp [after, eq_comm]
  | cons h head ih =>
    cases text with
    | nil => simp [after]
    | cons b text =>
      rw [after]
      split
      · rename_i same
        simp [same, ih]
      · rename_i differ
        simp [Ne.symm differ]

/-- Each text that is left over comes from one of the texts before. -/
theorem mem_piecesLeave : left ∈ piecesLeave pieces texts ↔
    ∃ text ∈ texts, left ∈ piecesLeave pieces [text] := by
  induction pieces generalizing texts with
  | nil => simp [piecesLeave]
  | cons piece rest ih =>
    simp only [piecesLeave]
    rw [ih]
    constructor
    · rintro ⟨between, among, last⟩
      obtain ⟨text, member, first⟩ := List.mem_flatMap.mp (List.mem_eraseDups.mp among)
      refine ⟨text, member, ih.mpr ⟨between, ?_, last⟩⟩
      exact List.mem_eraseDups.mpr (by simpa using first)
    · rintro ⟨text, member, last⟩
      obtain ⟨between, among, last⟩ := ih.mp last
      refine ⟨between, List.mem_eraseDups.mpr ?_, last⟩
      exact List.mem_flatMap.mpr ⟨text, member, by simpa using among⟩

theorem mem_piecesLeave_cons : left ∈ piecesLeave (piece :: rest) [text] ↔
    ∃ between ∈ piece.leaves text, left ∈ piecesLeave rest [between] := by
  rw [piecesLeave, mem_piecesLeave]
  simp

theorem mem_piecesLeave_chars {front : List Char} :
    left ∈ piecesLeave (front.map .char ++ rest) [text] ↔
      ∃ behind, text = bytes front ++ behind ∧ left ∈ piecesLeave rest [behind] := by
  induction front generalizing text with
  | nil => simp [bytes]
  | cons c front ih =>
    rw [List.map_cons, List.cons_append, mem_piecesLeave_cons]
    simp only [Piece.leaves, mem_after, ih]
    constructor
    · rintro ⟨between, rfl, behind, rfl, last⟩
      exact ⟨behind, by simp [bytes], last⟩
    · rintro ⟨behind, rfl, last⟩
      exact ⟨bytes front ++ behind, by simp [bytes], behind, rfl, last⟩

/-- The pieces that take a slash first. -/
def Piece.IsSlashed (piece : Piece) : Prop :=
  piece = .char '/' ∨ piece = .between ∨ piece = .trailing

theorem Piece.IsSlashed.exists_behind (slashed : piece.IsSlashed) (leaves : left ∈ piece.leaves text) :
    ∃ behind, text = slash :: behind := by
  rcases slashed with rfl | rfl | rfl
  · exact ⟨left, mem_after.mp leaves⟩
  · obtain ⟨behind, split, -⟩ := List.mem_flatMap.mp leaves
    exact ⟨behind, mem_after.mp split⟩
  · obtain ⟨behind, split, -⟩ := List.mem_flatMap.mp leaves
    exact ⟨behind, mem_after.mp split⟩

/-- Two stars alone begin with no literal character. -/
theorem prefix_of_accepts {glob : Glob} {path : String} {front : List Char}
    (starts : glob.pieces = front.map .char ++ piece :: rest) (slashed : piece.IsSlashed)
    (accepted : glob.accepts path = true) : front ++ ['/'] <+: path.toList := by
  have some : matchesAll glob.pieces = false := by
    rw [starts]
    cases front with
    | nil => rcases slashed with rfl | rfl | rfl <;> rfl
    | cons c front => rfl
  rw [accepts, some, Bool.false_or, List.contains_iff_mem, Text.toUTF8_toList, starts,
    mem_piecesLeave_chars] at accepted
  obtain ⟨behind, split, last⟩ := accepted
  obtain ⟨between, leaves, -⟩ := mem_piecesLeave_cons.mp last
  obtain ⟨tail, rfl⟩ := slashed.exists_behind leaves
  apply Text.prefix_of_bytes_prefix
  exact ⟨tail, by rw [split, Text.bytes_append, List.append_assoc]; rfl⟩

end SeedNavigator.Glob
