import SeedNavigator.Proofs.Environment.Scan

/-! What the strategies have to do with each other. The automatic one finds each descriptor where the tree
or the bare text has it, so over all candidates it finds what either of the others finds; a candidate may
still be routes for one of them and the main descriptor for the other. Without a tree there is only what the bare
text has. The program only breaks down under the automatic strategy where it does under the structural one. -/
namespace SeedNavigator

namespace Recognized

theorem isMatch_ofRoutes_iff {routes : List Route} :
    (Finding.recognized (.ofRoutes routes)).outcome.isMatch ↔ routes ≠ [] := by
  cases routes <;> simp [ofRoutes, Finding.outcome, Outcome.isMatch]

theorem ofRoutes_ne_main (routes : List Route) (main : MainDescriptor) : ofRoutes routes ≠ .main main := by
  cases routes <;> simp [ofRoutes]

/-- There are two ways for a search to come to an end. -/
theorem search_eq_ok_iff {main? : Except Crash (Option MainDescriptor)} {routes : Except Crash (List Route)}
    {recognized : Recognized} : search main? routes = .ok recognized ↔
      (∃ main, main? = .ok (some main) ∧ recognized = .main main) ∨
        main? = .ok none ∧ ∃ found, routes = .ok found ∧ recognized = .ofRoutes found := by
  cases main? with
  | error crash => simp [search, bind, Except.bind]
  | ok main =>
    cases main with
    | some main => simp [search, bind, Except.bind, pure, Except.pure, eq_comm]
    | none => cases routes <;> simp [search, bind, Except.bind, pure, Except.pure, eq_comm]

end Recognized

namespace Finding

/-- What one way of looking at a candidate finds is what the two others find between them. -/
structure Joins (both first second : Finding) : Prop where
  isMatch : both.outcome.isMatch ↔ first.outcome.isMatch ∨ second.outcome.isMatch
  isMain : (∃ main, both = .recognized (.main main)) ↔
    (∃ main, first = .recognized (.main main)) ∨ ∃ main, second = .recognized (.main main)
  main : ∀ main, first = .recognized (.main main) → both = .recognized (.main main)

theorem Joins.refl (finding : Finding) : Joins finding finding finding :=
  ⟨or_self_iff.symm, or_self_iff.symm, fun _ => id⟩

theorem Joins.of_unrecognized (error : Error) (finding : Finding) :
    Joins finding (.unrecognized error) finding := by
  constructor <;> simp [outcome, Outcome.isMatch]

theorem Joins.of_main (main : MainDescriptor) (finding : Finding) :
    Joins (.recognized (.main main)) (.recognized (.main main)) finding := by
  constructor <;> simp [outcome, Outcome.isMatch]

/-- Routes that the tree has stand behind a main descriptor that the bare text has. -/
theorem Joins.of_routes (main : Option MainDescriptor) (routes others : List Route) :
    Joins (.recognized (.of main (if routes.isEmpty then others else routes))) (.recognized (.ofRoutes routes))
      (.recognized (.of main others)) where
  isMatch := by
    cases main with
    | some main => simp [Recognized.of, outcome, Outcome.isMatch]
    | none =>
      simp only [Recognized.of, Recognized.isMatch_ofRoutes_iff]
      cases routes <;> simp
  isMain := by cases main <;> simp [Recognized.of, Recognized.ofRoutes_ne_main]
  main found recognized := by simp [Recognized.ofRoutes_ne_main] at recognized

end Finding

namespace Descriptor

open Script (Parser Node)

variable {parse : Parser} {source : String} {tree : Node} {recognized : Recognized}

/-- The automatic strategy reads no more literals than the structural one. -/
theorem breaks_structural_of_automatic (breaks : Breaks parse .automatic source) :
    Breaks parse .structural source := by
  cases breaks with
  | main asked parsed breaks => exact .main (by simp) parsed breaks
  | routes asked parsed baseless alone breaks => exact .routes (by simp) parsed baseless (by simp) breaks

/-- Where the tree can be searched, both can, and the bare text joins in. -/
theorem recognizeInBoth_joins (found : Structural.recognize tree = .ok recognized) (source : String) :
    ∃ both, recognizeInBoth tree source = .ok both ∧
      Finding.Joins (.recognized both) (.recognized recognized) (.recognized (Textual.recognize source)) := by
  rcases Recognized.search_eq_ok_iff.mp found with ⟨main, known, rfl⟩ | ⟨baseless, routes, known, rfl⟩
  · refine ⟨.main main, ?_, .of_main main _⟩
    rw [recognizeInBoth, known]
    rfl
  · refine ⟨_, ?_, .of_routes (Textual.main? source) routes (Textual.routes source)⟩
    rw [recognizeInBoth, baseless, known]
    cases Textual.main? source <;> rfl

end Descriptor

namespace Environment

open Script (Parser)

variable {parse : Parser} {config : Config} {root : String} {read : ReadCandidate} {main : MainDescriptor}
  {finding : Finding} {env : Environment} {reads : List ReadCandidate}

/-! ### One candidate -/

/-- Nothing but the tree of a text can keep the structural strategy from it. -/
theorem ofText_joins {source : String}
    (looked : Finding.ofText parse { config with strategy := .structural } source = .ok finding) :
    ∃ both bare, Finding.ofText parse { config with strategy := .automatic } source = .ok both ∧
      Finding.ofText parse { config with strategy := .textual } source = .ok bare ∧ both.Joins finding bare := by
  simp only [Finding.ofText, Descriptor.recognize, Descriptor.recognizeInTree,
    Descriptor.recognizeAutomatically] at looked ⊢
  cases parsed : parse source with
  | error message =>
    rw [parsed] at looked
    obtain rfl := Except.ok.inj looked
    exact ⟨_, _, rfl, rfl, .of_unrecognized _ _⟩
  | ok tree =>
    simp only [parsed] at looked
    cases found : Descriptor.Structural.recognize tree with
    | error crash => simp [found] at looked
    | ok recognized =>
      rw [found] at looked
      obtain rfl := Except.ok.inj looked
      obtain ⟨both, known, joins⟩ := Descriptor.recognizeInBoth_joins found source
      simp only [known]
      exact ⟨_, _, rfl, rfl, joins⟩

/-- Strategies are only asked about texts. What is passed over without one is the same for all of them. -/
theorem joins_of_structural (looked : Finding.of parse { config with strategy := .structural } read = .ok finding) :
    ∃ both bare, Finding.of parse { config with strategy := .automatic } read = .ok both ∧
      Finding.of parse { config with strategy := .textual } read = .ok bare ∧ both.Joins finding bare := by
  by_cases large : config.maxFileSize < read.candidate.size
  · simp only [Finding.of, if_pos large] at looked ⊢
    obtain rfl := Except.ok.inj looked
    exact ⟨_, _, rfl, rfl, .refl _⟩
  · simp only [Finding.of, if_neg large] at looked ⊢
    cases readable : read.text with
    | error fault =>
      rw [readable] at looked
      obtain rfl := Except.ok.inj looked
      exact ⟨_, _, rfl, rfl, .refl _⟩
    | ok source =>
      rw [readable] at looked
      exact ofText_joins looked

theorem main?_eq_some_iff : read.main? parse config = some main ↔
    Finding.of parse config read = .ok (.recognized (.main main)) := by
  rw [ReadCandidate.main?, recognized?_eq]
  cases Finding.of parse config read with
  | error crash => simp [Except.toOption]
  | ok finding =>
    cases finding with
    | recognized recognized => cases recognized <;> simp [Except.toOption, Finding.recognized?]
    | tooLarge => simp [Except.toOption, Finding.recognized?]
    | unreadable fault => simp [Except.toOption, Finding.recognized?]
    | unrecognized error => simp [Except.toOption, Finding.recognized?]

theorem main?_isSome_iff : (read.main? parse config).isSome ↔
    ∃ main, Finding.of parse config read = .ok (.recognized (.main main)) := by
  rw [Option.isSome_iff_exists]
  exact exists_congr fun main => main?_eq_some_iff

/-! ### All candidates -/

/-- A candidate counts towards recognizing a project. -/
def Matches (parse : Parser) (config : Config) (read : ReadCandidate) : Prop :=
  ∃ finding, Finding.of parse config read = .ok finding ∧ finding.outcome.isMatch

theorem basePaths_isSome_iff_of_resolve (resolved : resolve parse config root reads = .ok env) :
    env.basePaths.isSome ↔
      ∃ read ∈ reads, ∃ main, Finding.of parse config read = .ok (.recognized (.main main)) := by
  rw [(learned_of_resolve resolved).basePaths_isSome_iff]
  simp only [main?_isSome_iff]

theorem isValid_iff_of_resolve (resolved : resolve parse config root reads = .ok env) :
    env.isValid ↔ ∃ read ∈ reads, Matches parse config read := by
  have noted := noted_of_resolve resolved
  rw [isValid]
  clear resolved
  generalize env.sources = sources at noted
  induction noted with
  | nil => simp
  | @cons read source rest sources own _ ih =>
    obtain ⟨finding, looked, rfl⟩ := own
    have here : Matches parse config read ↔ finding.outcome.isMatch := by simp [Matches, looked]
    simp only [List.any_cons, Bool.or_eq_true, ih, List.mem_cons, exists_eq_or_imp, here]

/-- The environments of the same candidates under each strategy, compared. -/
structure FindsEither (parse : Parser) (config : Config) (reads : List ReadCandidate)
    (found : Strategy → Environment) : Prop where
  sources : ∀ strategy, List.Forall₂ (fun read source => ∃ finding,
    Finding.of parse { config with strategy := strategy } read = .ok finding ∧
      source = ⟨read.candidate.relative, finding.outcome⟩) reads (found strategy).sources
  isMatch : ∀ read ∈ reads, Matches parse { config with strategy := .automatic } read ↔
    Matches parse { config with strategy := .structural } read ∨
      Matches parse { config with strategy := .textual } read
  main : ∀ read ∈ reads, ∀ main,
    Finding.of parse { config with strategy := .structural } read = .ok (.recognized (.main main)) →
      Finding.of parse { config with strategy := .automatic } read = .ok (.recognized (.main main))
  basePaths : (found .automatic).basePaths.isSome ↔
    (found .structural).basePaths.isSome ∨ (found .textual).basePaths.isSome
  isValid : (found .automatic).isValid ↔ (found .structural).isValid ∨ (found .textual).isValid

/-- The scans that the program breaks down in. -/
structure BreaksTogether (parse : Parser) (config : Config) (root : String) (reads : List ReadCandidate) :
    Prop where
  crashed : ∀ strategy crash,
    resolve parse { config with strategy := strategy } root reads = .error (.crashed crash) ↔
      ∃ read ∈ reads, read.Breaks parse { config with strategy := strategy }
  automatic : ∀ read ∈ reads, read.Breaks parse { config with strategy := .automatic } →
    read.Breaks parse { config with strategy := .structural }
  textual : ∀ read ∈ reads, ¬read.Breaks parse { config with strategy := .textual }

theorem breaksTogether (parse : Parser) (root : String) (reads : List ReadCandidate)
    (keeps : config.failurePolicy = .keepPartial) : BreaksTogether parse config root reads where
  crashed strategy crash := by
    rw [resolve_eq_crashed_iff]
    exact breaks_iff_of_keepPartial keeps
  automatic read _ breaks := by
    obtain ⟨small, text, readable, breaks⟩ := breaks
    exact ⟨small, text, readable, Descriptor.breaks_structural_of_automatic breaks⟩
  textual read _ breaks := by
    obtain ⟨-, text, -, breaks⟩ := breaks
    exact Descriptor.not_breaks_textual breaks

/-- What a candidate is under each strategy, where the structural one can look at it. -/
theorem exists_joins (whole : ¬read.Breaks parse { config with strategy := .structural }) :
    ∃ both first second,
      Finding.of parse { config with strategy := .automatic } read = .ok both ∧
      Finding.of parse { config with strategy := .structural } read = .ok first ∧
      Finding.of parse { config with strategy := .textual } read = .ok second ∧ both.Joins first second := by
  cases looked : Finding.of parse { config with strategy := .structural } read with
  | error crash => exact absurd (of_eq_error_iff.mp looked) whole
  | ok first =>
    obtain ⟨both, second, own, bare, joins⟩ := joins_of_structural looked
    exact ⟨both, first, second, own, rfl, bare, joins⟩

theorem matches_automatic_iff (whole : ¬read.Breaks parse { config with strategy := .structural }) :
    Matches parse { config with strategy := .automatic } read ↔
      Matches parse { config with strategy := .structural } read ∨
        Matches parse { config with strategy := .textual } read := by
  obtain ⟨both, first, second, own, tree, bare, joins⟩ := exists_joins whole
  simpa [Matches, own, tree, bare] using joins.isMatch

theorem main_automatic_iff (whole : ¬read.Breaks parse { config with strategy := .structural }) :
    (∃ main, Finding.of parse { config with strategy := .automatic } read = .ok (.recognized (.main main))) ↔
      (∃ main, Finding.of parse { config with strategy := .structural } read = .ok (.recognized (.main main))) ∨
        ∃ main, Finding.of parse { config with strategy := .textual } read = .ok (.recognized (.main main)) := by
  obtain ⟨both, first, second, own, tree, bare, joins⟩ := exists_joins whole
  simpa [own, tree, bare] using joins.isMain

/-- The tree has the say over the bare text. -/
theorem main_automatic_of_structural
    (found : Finding.of parse { config with strategy := .structural } read = .ok (.recognized (.main main))) :
    Finding.of parse { config with strategy := .automatic } read = .ok (.recognized (.main main)) := by
  obtain ⟨both, second, own, -, joins⟩ := joins_of_structural found
  rw [own, joins.main main rfl]

theorem exists_mem_or {first second third : ReadCandidate → Prop}
    (joins : ∀ read ∈ reads, first read ↔ second read ∨ third read) :
    (∃ read ∈ reads, first read) ↔ (∃ read ∈ reads, second read) ∨ ∃ read ∈ reads, third read := by
  rw [← exists_or]
  refine exists_congr fun read => ?_
  rw [← and_or_left]
  exact and_congr_right (joins read)

theorem findsEither_of_resolve {found : Strategy → Environment}
    (whole : ∀ read ∈ reads, ¬read.Breaks parse { config with strategy := .structural })
    (resolved : ∀ strategy, resolve parse { config with strategy := strategy } root reads = .ok (found strategy)) :
    FindsEither parse config reads found where
  sources strategy := noted_of_resolve (resolved strategy)
  isMatch read member := matches_automatic_iff (whole read member)
  main read _ main recognized := main_automatic_of_structural recognized
  basePaths := by
    simp only [basePaths_isSome_iff_of_resolve (resolved _)]
    exact exists_mem_or fun read member => main_automatic_iff (whole read member)
  isValid := by
    simp only [isValid_iff_of_resolve (resolved _)]
    exact exists_mem_or fun read member => matches_automatic_iff (whole read member)

/-- Scans that go on after failures find under the automatic strategy what they find under either of the
others, unless the program breaks down over a literal in the tree of a candidate. -/
theorem automatic_finds_either (parse : Parser) (config : Config) (root : String) (reads : List ReadCandidate)
    (keeps : config.failurePolicy = .keepPartial) :
    BreaksTogether parse config root reads ∧
      ((∀ read ∈ reads, ¬read.Breaks parse { config with strategy := .structural }) →
        ∃ found : Strategy → Environment,
          (∀ strategy, resolve parse { config with strategy := strategy } root reads = .ok (found strategy)) ∧
            FindsEither parse config reads found) := by
  have together := breaksTogether parse root reads keeps
  refine ⟨together, fun whole => ?_⟩
  have resolves (strategy : Strategy) :
      ∃ env, resolve parse { config with strategy := strategy } root reads = .ok env := by
    refine exists_resolve_of_whole keeps fun read member => ?_
    cases strategy with
    | automatic => exact fun breaks => whole read member (together.automatic read member breaks)
    | structural => exact whole read member
    | textual => exact together.textual read member
  choose found resolved using resolves
  exact ⟨found, resolved, findsEither_of_resolve whole resolved⟩

/-- Routes behind a main descriptor that only the bare text has, and a main descriptor that only the tree
has. -/
def mixedCandidates : List ReadCandidate :=
  [⟨⟨"old.ts", "old.ts", 120⟩, .ok
      ("// class AngularApp .controllersBasePath = \"c\"; viewsBasePath = \"v\";\n" ++
        "[\x7b path: 'users', controllerAs: 'vm' \x7d]")⟩,
    ⟨⟨"lost.ts", "lost.ts", 10⟩, .error .invalidText⟩,
    ⟨⟨"app.ts", "app.ts", 90⟩, .ok ("class AngularApp \x7b\x7d " ++
      "(AngularApp.controllersBasePath = 'a', AngularApp.viewsBasePath = 'b')")⟩]

theorem outcomes_of_noted {sources : List ScannedSource} (noted : List.Forall₂ (fun read source => ∃ finding,
    Finding.of parse config read = .ok finding ∧ source = ⟨read.candidate.relative, finding.outcome⟩)
      reads sources) : (sources.map (·.outcome)).map some =
        reads.map fun read => (Finding.of parse config read).toOption.map Finding.outcome := by
  induction noted with
  | nil => rfl
  | cons own _ ih =>
    obtain ⟨finding, looked, rfl⟩ := own
    rw [List.map_cons, List.map_cons, List.map_cons, ih, looked]
    rfl

/-- What is known of each candidate rules out that the program breaks down over one. -/
theorem not_breaks_of_outcomes {outcomes : List Outcome} (evaluated : reads.map (fun read =>
    (Finding.of parse config read).toOption.map Finding.outcome) = outcomes.map some) :
    ∀ read ∈ reads, ¬read.Breaks parse config := by
  intro read member breaks
  have broken : Finding.of parse config read = .error .withinCharacter := of_eq_error_iff.mpr breaks
  have known := evaluated ▸ List.mem_map_of_mem member
  rw [broken] at known
  obtain ⟨outcome, -, missing⟩ := List.mem_map.mp known
  contradiction

/-- What is routes for the tree can be the main descriptor for the bare text, and then it is under both. -/
theorem mixed_found_either : ∃ found : Strategy → Environment,
    (∀ strategy, resolve Script.parser { strategy := strategy } "." mixedCandidates = .ok (found strategy)) ∧
      (found .structural).sources.map (·.outcome) =
        [.routes 1, .unreadable ReadFault.invalidText.message, .mainDescriptor] ∧
      (found .textual).sources.map (·.outcome) =
        [.mainDescriptor, .unreadable ReadFault.invalidText.message, .noMatch] ∧
      (found .automatic).sources.map (·.outcome) =
        [.mainDescriptor, .unreadable ReadFault.invalidText.message, .mainDescriptor] ∧
      (found .automatic).isValid := by
  have inTree : mixedCandidates.map (fun read =>
      (Finding.of Script.parser { strategy := .structural } read).toOption.map Finding.outcome) =
      [.routes 1, .unreadable ReadFault.invalidText.message, .mainDescriptor].map some := by
    decide +kernel
  obtain ⟨found, resolved, compared⟩ := (automatic_finds_either Script.parser {} "." mixedCandidates rfl).2
    (not_breaks_of_outcomes inTree)
  have outcomes (strategy : Strategy) {expected : List Outcome} (evaluated : mixedCandidates.map (fun read =>
      (Finding.of Script.parser { strategy := strategy } read).toOption.map Finding.outcome) = expected.map some) :
      (found strategy).sources.map (·.outcome) = expected :=
    List.map_injective_iff.mpr (Option.some_injective _)
      ((outcomes_of_noted (compared.sources strategy)).trans evaluated)
  have structural : (found .structural).sources.map (·.outcome) =
      [.routes 1, .unreadable ReadFault.invalidText.message, .mainDescriptor] :=
    outcomes .structural inTree
  have valid : (found .structural).isValid := by
    have matched := congrArg (·.any Outcome.isMatch) structural
    rw [List.any_map] at matched
    exact matched
  refine ⟨found, resolved, structural, ?_, ?_, compared.isValid.mpr (.inl valid)⟩
  · exact outcomes .textual (by decide +kernel)
  · exact outcomes .automatic (by decide +kernel)

end Environment

end SeedNavigator
