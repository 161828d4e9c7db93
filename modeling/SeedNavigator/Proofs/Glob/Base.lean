import SeedNavigator.Proofs.Glob.Match
import SeedNavigator.Proofs.Text.Pieces

/-! The directory that a glob's literal beginning names. Every path that the glob matches lies below it, as it
is read with its escapes: what is read later leaves these pieces as they are, apart from the last slash, which
two stars may take. The base is cut off the glob as it is written, so it leads to the matches exactly if it
holds no escape. -/
namespace SeedNavigator.Glob

variable {piece : Piece} {pieces : List Piece} {front literal text rest : List Char} {p : Progress}
  {before : Option Char} {cls : Option OpenClass}

/-! ### Reading goes on -/

/-- What no step of the reading takes away. -/
structure Kept (Holds : Progress → Prop) : Prop where
  push : ∀ {p piece}, Holds p → Holds (p.push piece)
  pushDirectories : ∀ {p piece}, piece.IsSlashed → Holds p → Holds (p.pushDirectories piece)
  openGroup : ∀ {p}, Holds p → Holds p.openGroup
  nextChoice : ∀ {p}, p.isGrouped = true → Holds p → Holds p.nextChoice
  closeGroup : ∀ {p q}, p.closeGroup = .ok q → Holds p → Holds q

theorem Kept.exists_finish {Holds : Progress → Prop} (kept : Kept Holds)
    (parsed : parseFrom before cls p text = .ok pieces) (start : Holds p) :
    ∃ last, Holds last ∧ last.finish = .ok pieces := by
  fun_induction parseFrom before cls p text with
  | case1 | case5 | case14 | case21 => contradiction
  | case2 => exact ⟨_, start, parsed⟩
  | case6 => exact ⟨_, kept.push start, parsed⟩
  | case11 => exact ⟨_, kept.pushDirectories (.inr (.inr rfl)) start, parsed⟩
  | case4 | case18 =>
    rename_i ih
    exact ih parsed start
  | case3 | case7 | case15 | case16 | case17 | case23 =>
    rename_i ih
    exact ih parsed (kept.push start)
  | case8 | case9 | case13 =>
    rename_i ih
    exact ih parsed (kept.push (kept.push start))
  | case10 =>
    rename_i ih
    exact ih parsed (kept.pushDirectories (.inr (.inr rfl)) start)
  | case12 =>
    rename_i ih
    exact ih parsed (kept.pushDirectories (.inr (.inl rfl)) start)
  | case19 =>
    rename_i ih
    exact ih parsed (kept.openGroup start)
  | case20 =>
    rename_i closed _ _ _ _ _ _ _ ih
    exact ih parsed (kept.closeGroup closed start)
  | case22 =>
    rename_i separates ih
    exact ih parsed (kept.nextChoice (Bool.and_eq_true_iff.mp separates).2 start)

namespace Progress

/-- The pieces of the glob itself, outside of all groups. -/
def outermost (p : Progress) : List Piece :=
  (p.outer.getLast?.getD p.inner).pieces.reverse

theorem outermost_of_flat (flat : p.outer = []) : p.outermost = p.inner.pieces.reverse := by
  simp [outermost, flat]

theorem exists_pushDirectories {last : Piece} {before : List Piece} (h : p.inner.pieces = last :: before)
    (piece : Piece) : ∃ taken, (p.pushDirectories piece).inner.pieces = taken :: before ∧
      (taken = piece ∨ taken = last) := by
  unfold pushDirectories
  cases last with
  | leading => exact ⟨.leading, by simp [h], .inr rfl⟩
  | trailing => exact ⟨.trailing, by simp [h], .inr rfl⟩
  | _ => exact ⟨piece, by simp [h], .inl rfl⟩

/-- Literal characters, and a slash or what stands for one behind them. -/
def Starts (front : List Char) (p : Progress) : Prop :=
  ∃ slash later, p.outermost = front.map .char ++ slash :: later ∧ slash.IsSlashed

theorem starts_push (starts : p.Starts front) : (p.push piece).Starts front := by
  obtain ⟨inner, outer⟩ := p
  cases outer with
  | nil =>
    obtain ⟨slash, later, split, slashed⟩ := starts
    rw [outermost_of_flat rfl] at split
    exact ⟨slash, later ++ [piece], by simp [push, outermost, split], slashed⟩
  | cons level outer => simpa [Starts, push, outermost, List.getLast?_cons] using starts

theorem starts_pushDirectories (slashed : piece.IsSlashed) (starts : p.Starts front) :
    (p.pushDirectories piece).Starts front := by
  obtain ⟨inner, outer⟩ := p
  cases outer with
  | nil =>
    obtain ⟨slash, later, split, slashed'⟩ := starts
    rw [outermost_of_flat rfl] at split
    have turned : inner.pieces = later.reverse ++ slash :: (front.map .char).reverse := by
      simpa using congrArg List.reverse split
    -- the stars take the slash itself or a piece behind it
    cases behind : later.reverse with
    | nil =>
      rw [behind] at turned
      obtain ⟨taken, pieces, which⟩ := exists_pushDirectories (p := ⟨inner, []⟩) turned piece
      refine ⟨taken, [], ?_, by rcases which with rfl | rfl <;> assumption⟩
      rw [outermost_of_flat rfl, pieces]
      simp
    | cons last before =>
      rw [behind] at turned
      obtain ⟨taken, pieces, -⟩ := exists_pushDirectories (p := ⟨inner, []⟩) turned piece
      refine ⟨slash, before.reverse ++ [taken], ?_, slashed'⟩
      rw [outermost_of_flat rfl, pieces]
      simp
  | cons level outer => simpa [Starts, pushDirectories, outermost, List.getLast?_cons] using starts

theorem kept_starts (front : List Char) : Kept (Starts front) where
  push := starts_push
  pushDirectories := starts_pushDirectories
  openGroup starts := by simpa [Starts, openGroup, outermost, List.getLast?_cons] using starts
  nextChoice {p} grouped starts := by
    obtain ⟨inner, outer⟩ := p
    cases outer with
    | nil => simp [isGrouped] at grouped
    | cons level outer => simpa [Starts, nextChoice, outermost, List.getLast?_cons] using starts
  closeGroup {p q} closed starts := by
    obtain ⟨inner, outer⟩ := p
    cases outer with
    | nil => simp [closeGroup] at closed
    | cons level outer =>
      obtain rfl := Except.ok.inj closed
      apply starts_push
      simpa [Starts, outermost, List.getLast?_cons] using starts

theorem outermost_of_finish (finished : p.finish = .ok pieces) : p.outermost = pieces := by
  obtain ⟨inner, outer⟩ := p
  cases outer with
  | nil => simpa [finish, isGrouped, outermost] using finished
  | cons level outer => simp [finish, isGrouped] at finished

end Progress

/-! ### Literal text -/

/-- The text that is meant: a backslash gives way to what follows it. -/
def unescaped : List Char → List Char
  | '\\' :: c :: rest => c :: unescaped rest
  | c :: rest => c :: unescaped rest
  | [] => []

/-- Characters that the base takes for themselves, the backslash among them. -/
def isLiteral (c : Char) : Bool :=
  c ≠ '*' && c ≠ '?' && c ≠ '[' && c ≠ '\x7b'

theorem parseFrom_char {c : Char} (flat : p.outer = []) (plain : isLiteral c = true) (escape : c ≠ '\\')
    (parsed : parseFrom before none p (c :: rest) = .ok pieces) :
    parseFrom (some c) none (p.push (.char c)) rest = .ok pieces := by
  simp only [isLiteral, Bool.and_eq_true, decide_eq_true_eq] at plain
  obtain ⟨⟨⟨star, mark⟩, bracket⟩, brace⟩ := plain
  have ungrouped : p.isGrouped = false := by simp [Progress.isGrouped, flat]
  by_cases closing : c = '\x7d'
  · simp [parseFrom, closing, Progress.closeGroup, flat] at parsed
  · simpa [parseFrom, star, mark, bracket, brace, closing, escape, ungrouped] using parsed

/-- What reading pushes for a literal text. -/
def Progress.pushChars (p : Progress) (chars : List Char) : Progress :=
  chars.foldl (fun p c => p.push (.char c)) p

theorem Progress.outermost_pushChars (chars : List Char) (flat : p.outer = []) :
    (p.pushChars chars).outermost = p.outermost ++ chars.map .char := by
  induction chars generalizing p with
  | nil => simp [pushChars]
  | cons c chars ih =>
    have pushed : (p.push (.char c)).outermost = p.outermost ++ [.char c] := by
      simp [push, outermost, flat]
    have later : ((p.push (.char c)).pushChars chars).outermost =
        (p.push (.char c)).outermost ++ chars.map .char := ih flat
    rw [pushed] at later
    simpa [pushChars] using later

/-- A literal directory is read character by character. -/
theorem parseFrom_literal (literal : List Char) (plain : ∀ c ∈ literal, isLiteral c = true) :
    ∀ (before : Option Char) (p : Progress), p.outer = [] →
      parseFrom before none p (literal ++ '/' :: rest) = .ok pieces →
      parseFrom (some '/') none (p.pushChars (unescaped (literal ++ ['/']))) rest = .ok pieces := by
  induction literal using unescaped.induct with
  | case1 c literal ih =>
    intro before p flat parsed
    have read : parseFrom (some c) none (p.push (.char c)) (literal ++ '/' :: rest) = .ok pieces := by
      simpa [parseFrom] using parsed
    simpa [unescaped, Progress.pushChars] using
      ih (fun d member => plain d (by simp [member])) (some c) (p.push (.char c)) flat read
  | case2 c literal single ih =>
    intro before p flat parsed
    by_cases escape : c = '\\'
    · -- the slash itself is escaped
      have last : literal = [] := by
        cases literal with
        | nil => rfl
        | cons d literal => exact (single d literal escape rfl).elim
      subst escape last
      simpa [unescaped, Progress.pushChars, parseFrom] using parsed
    · have read := parseFrom_char flat (plain c List.mem_cons_self) escape parsed
      simpa [unescaped, escape, Progress.pushChars] using
        ih (fun d member => plain d (List.mem_cons_of_mem _ member)) (some c) (p.push (.char c)) flat read
  | case3 =>
    intro before p flat parsed
    simpa [unescaped, Progress.pushChars, parseFrom] using parsed

theorem exists_unescaped_append_slash (literal : List Char) :
    ∃ front, unescaped (literal ++ ['/']) = front ++ ['/'] := by
  induction literal using unescaped.induct with
  | case1 c literal ih =>
    obtain ⟨front, last⟩ := ih
    exact ⟨c :: front, by simp [unescaped, last]⟩
  | case2 c literal single ih =>
    obtain ⟨front, last⟩ := ih
    cases literal with
    | nil =>
      by_cases escape : c = '\\'
      · exact ⟨[], by simp [unescaped, escape]⟩
      · exact ⟨[c], by simp [unescaped, escape]⟩
    | cons d literal =>
      have escape : c ≠ '\\' := fun escape => single d literal escape rfl
      exact ⟨c :: front, by simpa [unescaped, escape] using last⟩
  | case3 => exact ⟨[], rfl⟩

theorem count_slash_unescaped (text : List Char) : (unescaped text).count '/' = text.count '/' := by
  fun_induction unescaped text with
  | case1 c rest ih => simp [List.count_cons, ih]
  | case2 c rest _ ih => simp [List.count_cons, ih]
  | case3 => rfl

theorem length_unescaped_le (text : List Char) : (unescaped text).length ≤ text.length := by
  fun_induction unescaped text with
  | case1 c rest ih =>
    simp only [List.length_cons]
    omega
  | case2 c rest _ ih => simpa using ih
  | case3 => exact Nat.le_refl 0

theorem unescaped_of_no_escape (plain : '\\' ∉ text) : unescaped text = text := by
  fun_induction unescaped text with
  | case1 => simp at plain
  | case2 c rest _ ih => rw [ih fun member => plain (List.mem_cons_of_mem _ member)]
  | case3 => rfl

theorem no_escape_of_unescaped (literal : List Char)
    (same : unescaped (literal ++ ['/']) = literal ++ ['/']) : '\\' ∉ literal := by
  induction literal using unescaped.induct with
  | case1 c literal ih =>
    have shorter := length_unescaped_le (literal ++ ['/'])
    have lengths := congrArg List.length same
    simp [unescaped] at lengths shorter
    omega
  | case2 c literal single ih =>
    have escape : c ≠ '\\' := by
      intro escape
      cases literal with
      | nil => simp [unescaped, escape] at same
      | cons d literal => exact single d literal escape rfl
    have later : unescaped (literal ++ ['/']) = literal ++ ['/'] := by
      simpa [unescaped, escape] using same
    simp [escape.symm, ih later]
  | case3 => simp

/-- A beginning that has no escape is read as it is written; one that has comes out shorter and with as many
slashes, so the two cannot both begin one path. -/
theorem prefix_iff_no_escape {path : List Char} (read : unescaped (literal ++ ['/']) <+: path) :
    literal ++ ['/'] <+: path ↔ '\\' ∉ literal := by
  constructor
  · intro written
    apply no_escape_of_unescaped
    have shorter := length_unescaped_le (literal ++ ['/'])
    obtain ⟨rest, split⟩ := List.prefix_of_prefix_length_le read written shorter
    have slashes := congrArg (List.count '/') split
    rw [List.count_append, count_slash_unescaped] at slashes
    rcases List.eq_nil_or_concat rest with rfl | ⟨front, last, rfl⟩
    · simpa using split
    · -- a slash ends what is written, so one would be left over
      rw [List.concat_eq_append, ← List.append_assoc] at split
      have ends : last = '/' := by simpa using (List.append_inj' split rfl).2
      simp [ends] at slashes
  · intro plain
    rwa [unescaped_of_no_escape (by simpa using plain)] at read

/-! ### The base -/

theorem exists_baseChars_slash (based : baseChars text ≠ []) :
    ∃ rest, text = baseChars text ++ '/' :: rest ∧ ∀ c ∈ baseChars text, isLiteral c = true := by
  have chars : baseChars text =
      (((text.takeWhile isLiteral).reverse.dropWhile (· ≠ '/')).drop 1).reverse := rfl
  have cut : text.takeWhile isLiteral ++ text.dropWhile isLiteral = text := List.takeWhile_append_dropWhile
  have literal : ∀ c ∈ text.takeWhile isLiteral, isLiteral c = true :=
    List.all_eq_true.mp List.all_takeWhile
  generalize text.takeWhile isLiteral = front at chars cut literal
  cases found : front.reverse.dropWhile (· ≠ '/') with
  | nil => exact (based (by rw [chars, found]; rfl)).elim
  | cons slash before =>
    obtain ⟨tail, split⟩ := Text.exists_eq_of_dropWhile_reverse found
    rw [found, List.drop_one, List.tail_cons] at chars
    rw [chars]
    refine ⟨tail ++ text.dropWhile isLiteral, ?_, ?_⟩
    · rw [← List.cons_append, ← List.append_assoc, ← split, cut]
    · intro c member
      apply literal
      rw [split]
      exact List.mem_append_left _ member

variable {glob : Glob} {path : String}

theorem parseFrom_of_parse {text : String} (parsed : parse text = .ok glob) :
    parseFrom none none {} text.toList = .ok glob.pieces := by
  unfold parse at parsed
  cases read : parseFrom none none {} text.toList with
  | error fault => simp [read] at parsed
  | ok pieces =>
    rw [read] at parsed
    rw [← Except.ok.inj parsed]

/-- What a glob matches lies below the directory that its literal beginning names, read with its escapes. -/
theorem unescaped_prefix_of_accepts {text : String} (parsed : parse text = .ok glob)
    (accepted : glob.accepts path = true) (based : baseChars text.toList ≠ []) :
    unescaped (baseChars text.toList ++ ['/']) <+: path.toList := by
  obtain ⟨rest, split, plain⟩ := exists_baseChars_slash based
  obtain ⟨front, last⟩ := exists_unescaped_append_slash (baseChars text.toList)
  have whole := parseFrom_of_parse parsed
  generalize baseChars text.toList = literal at split plain last ⊢
  rw [split] at whole
  have later := parseFrom_literal literal plain none {} rfl whole
  rw [last] at later
  have begun : (Progress.pushChars {} (front ++ ['/'])).Starts front := by
    refine ⟨.char '/', [], ?_, .inl rfl⟩
    rw [Progress.outermost_pushChars _ rfl, List.map_append]
    rfl
  obtain ⟨p, ⟨slash, tail, outermost, slashed⟩, finished⟩ :=
    (Progress.kept_starts front).exists_finish later begun
  rw [Progress.outermost_of_finish finished] at outermost
  rw [last]
  exact prefix_of_accepts outermost slashed accepted

/-- The base of a glob leads to all that the glob matches if and only if it holds no escape; what the glob
matches lies below the directory that the base names once it is read. -/
theorem starts_with_base_iff {text : String} (parsed : parse text = .ok glob)
    (accepted : glob.accepts path = true) (based : base text ≠ "") :
    unescaped (base text ++ "/").toList <+: path.toList ∧
      ((base text ++ "/").toList <+: path.toList ↔ '\\' ∉ (base text).toList) := by
  have chars : (base text).toList = baseChars text.toList := String.toList_ofList
  have some : baseChars text.toList ≠ [] := by
    intro none
    exact based (by simp [base, none])
  have ended : (base text ++ "/").toList = baseChars text.toList ++ ['/'] := by simp [chars]
  have read := unescaped_prefix_of_accepts parsed accepted some
  rw [ended, chars]
  exact ⟨read, prefix_iff_no_escape read⟩

/-- The escaped blank stands in the base, and what the glob matches does not lie there. -/
theorem escaped_base_leads_astray : ∃ glob, parse "my\\ app/*.ts" = .ok glob ∧
    glob.accepts "my app/app.ts" = true ∧ base "my\\ app/*.ts" = "my\\ app" ∧
      ¬ "my\\ app/".toList <+: "my app/app.ts".toList := by
  have parsed : parse "my\\ app/*.ts" =
      .ok ⟨"my app/".toList.map .char ++ .run :: ".ts".toList.map .char⟩ := by rfl
  have accepted : Glob.accepts ⟨"my app/".toList.map .char ++ .run :: ".ts".toList.map .char⟩
      "my app/app.ts" = true := by decide +kernel
  have based : base "my\\ app/*.ts" = "my\\ app" := by decide +kernel
  have escape : ¬ '\\' ∉ (base "my\\ app/*.ts").toList := by decide +kernel
  have astray := mt (starts_with_base_iff parsed accepted (by rw [based]; decide)).2.mp escape
  refine ⟨_, parsed, accepted, based, ?_⟩
  rwa [based] at astray

end SeedNavigator.Glob
