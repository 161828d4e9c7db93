import Mathlib.Data.List.Forall2
import SeedNavigator.Proofs.Descriptor.Recognition
import SeedNavigator.Proofs.Environment.Aliases

/-! What a scan learns from its candidates. It is said here without the scan: each candidate has its own outcome,
the first main descriptor decides, and the first route of a key. The scan keeps this true of the candidates it
has seen, so in the end it is true of all of them. It gets to the end unless the program breaks down over a
candidate, or one that cannot be read ends it. -/
namespace SeedNavigator

open Script (Parser)
open Aliases (firstAlias? firstAlias?_append get?_addRoutes firstAlias?_isSome_iff size_ne_zero_iff)

namespace ReadCandidate

/-- What a candidate is recognized as, if it is small enough and can be read. -/
def recognized? (parse : Parser) (config : Config) (read : ReadCandidate) : Option Recognized :=
  if config.maxFileSize < read.candidate.size then none
  else read.text.toOption.bind fun text => (Descriptor.recognize parse config.strategy text).toOption

def main? (parse : Parser) (config : Config) (read : ReadCandidate) : Option MainDescriptor :=
  match read.recognized? parse config with
  | some (.main main) => some main
  | _ => none

def routes (parse : Parser) (config : Config) (read : ReadCandidate) : List Route :=
  match read.recognized? parse config with
  | some (.routes routes) => routes
  | _ => []

/-- The outcomes of a candidate, one for each way that reading it can go. -/
inductive Yields (parse : Parser) (config : Config) (read : ReadCandidate) : Outcome → Prop where
  | tooLarge (large : config.maxFileSize < read.candidate.size) : Yields parse config read .noMatch
  | unreadable {fault : ReadFault} (small : read.candidate.size ≤ config.maxFileSize)
      (failed : read.text = .error fault) : Yields parse config read (.unreadable fault.message)
  | treeless {text message : String} (small : read.candidate.size ≤ config.maxFileSize)
      (readable : read.text = .ok text) (asked : config.strategy = .structural)
      (missing : parse text = .error message) : Yields parse config read .noMatch
  | main {main : MainDescriptor} (found : read.recognized? parse config = some (.main main)) :
      Yields parse config read .mainDescriptor
  | routes {routes : List Route} (found : read.recognized? parse config = some (.routes routes)) :
      Yields parse config read (.routes routes.length)
  | nothing (found : read.recognized? parse config = some .nothing) : Yields parse config read .noMatch

/-- The program breaks down over a candidate whose text is looked at. -/
structure Breaks (parse : Parser) (config : Config) (read : ReadCandidate) : Prop where
  small : read.candidate.size ≤ config.maxFileSize
  text : ∃ text, read.text = .ok text ∧ Descriptor.Breaks parse config.strategy text

/-- A candidate whose text would be looked at cannot be read. -/
structure Fails (config : Config) (read : ReadCandidate) : Prop where
  small : read.candidate.size ≤ config.maxFileSize
  text : ∃ fault, read.text = .error fault

end ReadCandidate

/-- A candidate that is too large was not read, so it is none of these. -/
def Outcome.isUnreadable : Outcome → Bool
  | .unreadable _ => true
  | _ => false

namespace Finding

def isUnreadable : Finding → Bool
  | .unreadable _ => true
  | _ => false

/-- What there is to learn from a candidate. -/
def recognized? : Finding → Option Recognized
  | .recognized found => some found
  | _ => none

/-- The ways in which looking at a candidate can come out. -/
inductive Looks (parse : Parser) (config : Config) (read : ReadCandidate) : Except Crash Finding → Prop where
  | tooLarge (large : config.maxFileSize < read.candidate.size) : Looks parse config read (.ok .tooLarge)
  | unreadable {fault : ReadFault} (small : read.candidate.size ≤ config.maxFileSize)
      (failed : read.text = .error fault) : Looks parse config read (.ok (.unreadable fault))
  | unrecognized {text : String} {error : Error} (small : read.candidate.size ≤ config.maxFileSize)
      (readable : read.text = .ok text)
      (lost : Descriptor.recognize parse config.strategy text = .error (.failed error)) :
      Looks parse config read (.ok (.unrecognized error))
  | recognized {text : String} {found : Recognized} (small : read.candidate.size ≤ config.maxFileSize)
      (readable : read.text = .ok text) (known : Descriptor.recognize parse config.strategy text = .ok found) :
      Looks parse config read (.ok (.recognized found))
  | crashed {text : String} {crash : Crash} (small : read.candidate.size ≤ config.maxFileSize)
      (readable : read.text = .ok text)
      (broken : Descriptor.recognize parse config.strategy text = .error (.crashed crash)) :
      Looks parse config read (.error crash)

theorem looks (parse : Parser) (config : Config) (read : ReadCandidate) :
    Looks parse config read (of parse config read) := by
  rw [of]
  split
  case isTrue large => exact .tooLarge large
  case isFalse fits =>
    have small := Nat.not_lt.mp fits
    cases readable : read.text with
    | error fault => exact .unreadable small readable
    | ok text =>
      simp only [ofText]
      cases known : Descriptor.recognize parse config.strategy text with
      | ok found => exact .recognized small readable known
      | error stop =>
        cases stop with
        | failed error => exact .unrecognized small readable known
        | crashed crash => exact .crashed small readable known

theorem looks_of {parse : Parser} {config : Config} {read : ReadCandidate} {result : Except Crash Finding}
    (looked : of parse config read = result) : Looks parse config read result :=
  looked ▸ looks parse config read

end Finding

namespace Environment

/-- The environment holds what these candidates say, and nothing else. -/
structure Learned (parse : Parser) (config : Config) (root : String) (reads : List ReadCandidate)
    (env : Environment) : Prop where
  root : env.root = root
  sources : List.Forall₂ (fun read source => source.path = read.candidate.relative ∧
    read.Yields parse config source.outcome) reads env.sources
  basePaths : env.basePaths = (reads.findSome? (·.main? parse config)).map fun main =>
    ⟨Path.normalize main.controllers, Path.normalize main.views⟩
  aliases : ∀ key, env.alias? key = firstAlias? (reads.flatMap (·.routes parse config)) key

variable {parse : Parser} {config : Config} {root : String} {env last : Environment}
  {reads done rest : List ReadCandidate} {read : ReadCandidate} {policy : FailurePolicy} {candidate : Candidate}
  {finding : Finding} {fault : ReadFault} {crash : Crash} {found : List (Candidate × Except Crash Finding)}

/-! ### One candidate -/

theorem of_eq_error_iff : Finding.of parse config read = .error crash ↔ read.Breaks parse config := by
  constructor
  · intro looked
    cases Finding.looks_of looked with
    | crashed small readable broken =>
      exact ⟨small, _, readable, Descriptor.recognize_eq_crashed_iff.mp broken⟩
  · rintro ⟨small, text, readable, breaks⟩
    have broken : Descriptor.recognize parse config.strategy text = .error (.crashed crash) :=
      Descriptor.recognize_eq_crashed_iff.mpr breaks
    rw [Finding.of, if_neg (Nat.not_lt.mpr small), readable]
    simp only [Finding.ofText, broken]

/-- A candidate that is too large is not unreadable, whatever reading it gives. -/
theorem of_eq_unreadable_iff : Finding.of parse config read = .ok (.unreadable fault) ↔
    read.candidate.size ≤ config.maxFileSize ∧ read.text = .error fault := by
  constructor
  · intro looked
    cases Finding.looks_of looked with
    | unreadable small failed => exact ⟨small, failed⟩
  · rintro ⟨small, failed⟩
    rw [Finding.of, if_neg (Nat.not_lt.mpr small), failed]

theorem recognized?_eq (parse : Parser) (config : Config) (read : ReadCandidate) :
    read.recognized? parse config = (Finding.of parse config read).toOption.bind Finding.recognized? := by
  rw [ReadCandidate.recognized?]
  cases looked : Finding.of parse config read with
  | error crash =>
    cases Finding.looks_of looked with
    | crashed small readable broken => simp [Nat.not_lt.mpr small, readable, broken, Except.toOption]
  | ok finding =>
    cases Finding.looks_of looked with
    | tooLarge large => simp [large, Except.toOption, Finding.recognized?]
    | unreadable small failed => simp [failed, Except.toOption, Finding.recognized?]
    | unrecognized small readable lost =>
      simp [Nat.not_lt.mpr small, readable, lost, Except.toOption, Finding.recognized?]
    | recognized small readable known =>
      simp [Nat.not_lt.mpr small, readable, known, Except.toOption, Finding.recognized?]

theorem recognized?_of (looked : Finding.of parse config read = .ok finding) :
    read.recognized? parse config = finding.recognized? := by
  rw [recognized?_eq, looked]
  rfl

theorem yields_of (looked : Finding.of parse config read = .ok finding) :
    read.Yields parse config finding.outcome := by
  have found := recognized?_of looked
  cases Finding.looks_of looked with
  | tooLarge large => exact .tooLarge large
  | unreadable small failed => exact .unreadable small failed
  | unrecognized small readable lost =>
    obtain ⟨asked, message, missing, -⟩ := Descriptor.recognize_eq_failed_iff.mp lost
    exact .treeless small readable asked missing
  | @recognized text recognized small readable known =>
    cases recognized with
    | main main => exact .main found
    | routes routes => exact .routes found
    | nothing => exact .nothing found

theorem learn_of (looked : Finding.of parse config read = .ok finding) (env : Environment) :
    env.learn finding =
      { env with
        basePaths := env.basePaths.or ((read.main? parse config).map MainDescriptor.basePaths)
        aliases := (read.routes parse config).foldl Aliases.addRoute env.aliases } := by
  rw [ReadCandidate.main?, ReadCandidate.routes, recognized?_of looked]
  cases finding with
  | recognized recognized => cases recognized <;> simp [learn, Finding.recognized?]
  | tooLarge => simp [learn, Finding.recognized?]
  | unreadable fault => simp [learn, Finding.recognized?]
  | unrecognized error => simp [learn, Finding.recognized?]

/-! ### The whole scan -/

/-- Of the candidates that are looked at, only one that cannot be read ends a scan, and only if the settings
say so. -/
theorem scan_cons (goesOn : policy = .keepPartial ∨ finding.isUnreadable = false) (env : Environment)
    (candidate : Candidate) (rest : List (Candidate × Except Crash Finding)) :
    scan policy env ((candidate, .ok finding) :: rest) = scan policy (env.add candidate finding) rest := by
  cases finding with
  | tooLarge => rfl
  | unrecognized error => rfl
  | recognized recognized => rfl
  | unreadable fault =>
    have keeps : policy = .keepPartial := goesOn.resolve_right (by simp [Finding.isUnreadable])
    simp [scan, keeps]

theorem scan_abort_cons (env : Environment) (candidate : Candidate) (fault : ReadFault)
    (rest : List (Candidate × Except Crash Finding)) :
    scan .abort env ((candidate, .ok (.unreadable fault)) :: rest) =
      .error (.failed (.scanAborted candidate.path fault)) := by
  simp [scan]

theorem scan_crashed_cons (policy : FailurePolicy) (env : Environment) (candidate : Candidate) (crash : Crash)
    (rest : List (Candidate × Except Crash Finding)) :
    scan policy env ((candidate, .error crash) :: rest) = .error (.crashed crash) := by
  simp [scan]

/-- Either the scan goes on behind a finding or this one cannot be read and ends it. -/
theorem goesOn_or_stops (policy : FailurePolicy) (finding : Finding) :
    (policy = .keepPartial ∨ finding.isUnreadable = false) ∨
      policy = .abort ∧ ∃ fault, finding = .unreadable fault := by
  cases policy with
  | keepPartial => exact .inl (.inl rfl)
  | abort =>
    cases finding with
    | tooLarge => exact .inl (.inr rfl)
    | unrecognized error => exact .inl (.inr rfl)
    | recognized recognized => exact .inl (.inr rfl)
    | unreadable fault => exact .inr ⟨rfl, fault, rfl⟩

/-- A scan comes to an end beyond a candidate only by going on from it. -/
theorem scan_cons_eq_ok {looked : Except Crash Finding}
    (result : scan policy env ((candidate, looked) :: found) = .ok last) :
    ∃ finding, looked = .ok finding ∧ (policy = .keepPartial ∨ finding.isUnreadable = false) ∧
      scan policy (env.add candidate finding) found = .ok last := by
  cases looked with
  | error crash =>
    rw [scan_crashed_cons] at result
    contradiction
  | ok finding =>
    rcases goesOn_or_stops policy finding with goesOn | ⟨rfl, fault, rfl⟩
    · exact ⟨finding, rfl, goesOn, (scan_cons goesOn ..).symm.trans result⟩
    · rw [scan_abort_cons] at result
      contradiction

theorem learned_empty (parse : Parser) (config : Config) (root : String) :
    Learned parse config root [] { root } :=
  ⟨rfl, .nil, rfl, fun _ => rfl⟩

theorem Learned.add (learned : Learned parse config root done env)
    (looked : Finding.of parse config read = .ok finding) :
    Learned parse config root (done ++ [read]) (env.add read.candidate finding) := by
  rw [Environment.add, learn_of looked]
  refine ⟨learned.root, ?_, ?_, fun key => ?_⟩
  · exact List.rel_append learned.sources (.cons ⟨rfl, yields_of looked⟩ .nil)
  · change env.basePaths.or ((read.main? parse config).map MainDescriptor.basePaths) = _
    rw [learned.basePaths, List.findSome?_append, Option.map_or, List.findSome?_singleton]
    rfl
  · rw [List.flatMap_append, firstAlias?_append, ← learned.aliases key]
    simp [alias?, get?_addRoutes]

theorem learned_of_scan (learned : Learned parse config root done env)
    (result : scan policy env (findings parse config rest) = .ok last) :
    Learned parse config root (done ++ rest) last := by
  induction rest generalizing done env with
  | nil =>
    obtain rfl := Except.ok.inj result
    simpa using learned
  | cons read rest ih =>
    obtain ⟨finding, looked, -, goesOn⟩ := scan_cons_eq_ok result
    simpa using ih (learned.add looked) goesOn

/-- An environment that candidates are resolved to holds what they say, under either policy. -/
theorem learned_of_resolve (resolved : resolve parse config root reads = .ok env) :
    Learned parse config root reads env :=
  learned_of_scan (learned_empty parse config root) resolved

theorem sources_add (env : Environment) (candidate : Candidate) (finding : Finding) :
    (env.add candidate finding).sources = env.sources ++ [⟨candidate.relative, finding.outcome⟩] := by
  have kept : (env.learn finding).sources = env.sources := by
    cases finding with
    | tooLarge => rfl
    | unreadable fault => rfl
    | unrecognized error => rfl
    | recognized recognized => cases recognized <;> rfl
  rw [add, kept]

/-- What is noted of a candidate that has been looked at. -/
def Noted (entry : Candidate × Except Crash Finding) (source : ScannedSource) : Prop :=
  ∃ finding, entry.2 = .ok finding ∧ source = ⟨entry.1.relative, finding.outcome⟩

/-- A scan to the end notes every candidate, in their order. -/
theorem noted_of_scan (result : scan policy env found = .ok last) :
    ∃ noted, last.sources = env.sources ++ noted ∧ List.Forall₂ Noted found noted := by
  induction found generalizing env with
  | nil =>
    obtain rfl := Except.ok.inj result
    exact ⟨[], (List.append_nil _).symm, .nil⟩
  | cons first rest ih =>
    obtain ⟨finding, looked, -, goesOn⟩ := scan_cons_eq_ok result
    obtain ⟨noted, sources, each⟩ := ih goesOn
    refine ⟨⟨first.1.relative, finding.outcome⟩ :: noted, ?_, .cons ⟨finding, looked, rfl⟩ each⟩
    rw [sources, sources_add, List.append_assoc, List.singleton_append]

theorem noted_of_resolve (resolved : resolve parse config root reads = .ok env) :
    List.Forall₂ (fun read source => ∃ finding, Finding.of parse config read = .ok finding ∧
      source = ⟨read.candidate.relative, finding.outcome⟩) reads env.sources := by
  obtain ⟨noted, sources, each⟩ := noted_of_scan resolved
  rw [sources, List.nil_append]
  exact List.forall₂_map_left_iff.mp each

/-! ### How a scan ends early -/

/-- The scan gets to a candidate that the program breaks down over. -/
def Breaks (parse : Parser) (config : Config) (reads : List ReadCandidate) : Prop :=
  ∃ before read after, reads = before ++ read :: after ∧ read.Breaks parse config ∧
    (config.failurePolicy = .abort → ∀ other ∈ before, ¬other.Fails config)

/-- A scan gets over a candidate to one of the others. -/
theorem breaks_cons_iff : Breaks parse config (read :: rest) ↔ read.Breaks parse config ∨
    (config.failurePolicy = .abort → ¬read.Fails config) ∧ Breaks parse config rest := by
  constructor
  · rintro ⟨before, broken, after, split, breaks, reached⟩
    rcases List.cons_eq_append_iff.mp split with ⟨rfl, alone⟩ | ⟨before, rfl, rfl⟩
    · obtain ⟨rfl, -⟩ := List.cons.inj alone
      exact .inl breaks
    · refine .inr ⟨fun aborts => reached aborts read List.mem_cons_self, before, broken, after, rfl, breaks, ?_⟩
      exact fun aborts other member => reached aborts other (List.mem_cons_of_mem _ member)
  · rintro (breaks | ⟨own, before, broken, after, rfl, breaks, reached⟩)
    · exact ⟨[], read, rest, rfl, breaks, by simp⟩
    · refine ⟨read :: before, broken, after, rfl, breaks, fun aborts => ?_⟩
      exact List.forall_mem_cons.mpr ⟨own aborts, reached aborts⟩

theorem fails_of_unreadable (looked : Finding.of parse config read = .ok (.unreadable fault)) :
    read.Fails config := by
  obtain ⟨small, failed⟩ := of_eq_unreadable_iff.mp looked
  exact ⟨small, fault, failed⟩

theorem not_fails_of_readable (looked : Finding.of parse config read = .ok finding)
    (readable : finding.isUnreadable = false) : ¬read.Fails config := by
  rintro ⟨small, fault, failed⟩
  have unreadable : Finding.of parse config read = .ok (.unreadable fault) :=
    of_eq_unreadable_iff.mpr ⟨small, failed⟩
  obtain rfl := Except.ok.inj (looked.symm.trans unreadable)
  contradiction

theorem scan_eq_crashed_iff : scan config.failurePolicy env (findings parse config reads) = .error (.crashed crash) ↔
    Breaks parse config reads := by
  induction reads generalizing env with
  | nil => simp [findings, scan, Breaks]
  | cons read rest ih =>
    have broken : Finding.of parse config read = .error crash ↔ _ := of_eq_error_iff
    rw [breaks_cons_iff, ← broken, findings, List.map_cons]
    cases looked : Finding.of parse config read with
    | error other =>
      cases other
      cases crash
      simp [scan_crashed_cons]
    | ok finding =>
      rcases goesOn_or_stops config.failurePolicy finding with goesOn | ⟨aborts, fault, rfl⟩
      · have own : config.failurePolicy = .abort → ¬read.Fails config := by
          intro aborts
          refine not_fails_of_readable looked (goesOn.resolve_left ?_)
          simp [aborts]
        rw [scan_cons goesOn, and_iff_right own]
        simpa [findings] using ih
      · have fails := fails_of_unreadable looked
        rw [aborts, scan_abort_cons]
        simp [fails]

/-- Only over a candidate that the scan gets to does the program break down. -/
theorem resolve_eq_crashed_iff :
    resolve parse config root reads = .error (.crashed crash) ↔ Environment.Breaks parse config reads :=
  scan_eq_crashed_iff

/-- A scan that goes on behind what cannot be read gets to every candidate. -/
theorem breaks_iff_of_keepPartial (keeps : config.failurePolicy = .keepPartial) :
    Environment.Breaks parse config reads ↔ ∃ read ∈ reads, read.Breaks parse config := by
  induction reads with
  | nil => simp [Breaks]
  | cons read rest ih => simp [breaks_cons_iff, keeps, ih]

theorem resolve_ne_failed (keeps : config.failurePolicy = .keepPartial) (error : Error) :
    resolve parse config root reads ≠ .error (.failed error) := by
  suffices ∀ env, scan .keepPartial env (findings parse config reads) ≠ .error (.failed error) by
    rw [resolve, keeps]
    exact this _
  induction reads with
  | nil => simp [findings, scan]
  | cons read rest ih =>
    intro env
    rw [findings, List.map_cons]
    cases Finding.of parse config read with
    | error crash => simp [scan_crashed_cons]
    | ok finding =>
      rw [scan_cons (.inl rfl)]
      exact ih _

/-- A scan that goes on behind what cannot be read gets to the end of the candidates. -/
theorem exists_resolve_of_whole (keeps : config.failurePolicy = .keepPartial)
    (whole : ∀ read ∈ reads, ¬read.Breaks parse config) : ∃ env, resolve parse config root reads = .ok env := by
  cases result : resolve parse config root reads with
  | ok env => exact ⟨env, rfl⟩
  | error stop =>
    cases stop with
    | failed error => exact absurd result (resolve_ne_failed keeps error)
    | crashed crash =>
      obtain ⟨read, member, breaks⟩ := (breaks_iff_of_keepPartial keeps).mp (resolve_eq_crashed_iff.mp result)
      exact absurd breaks (whole read member)

/-- The bare text of a candidate has no literals to break down over. -/
theorem exists_resolve_textual (keeps : config.failurePolicy = .keepPartial) (bare : config.strategy = .textual) :
    ∃ env, resolve parse config root reads = .ok env := by
  refine exists_resolve_of_whole keeps fun read _ breaks => ?_
  obtain ⟨-, text, -, breaks⟩ := breaks
  rw [bare] at breaks
  exact Descriptor.not_breaks_textual breaks

/-! ### Validity -/

theorem Learned.basePaths_isSome_iff (learned : Learned parse config root reads env) :
    env.basePaths.isSome ↔ ∃ read ∈ reads, (read.main? parse config).isSome := by
  rw [learned.basePaths, Option.isSome_map, List.findSome?_isSome_iff]

theorem Learned.size_ne_zero_iff (learned : Learned parse config root reads env) :
    env.aliases.size ≠ 0 ↔ ∃ read ∈ reads, read.routes parse config ≠ [] := by
  rw [Aliases.size_ne_zero_iff]
  have same (key : String) : env.aliases.get? key = firstAlias? (reads.flatMap (·.routes parse config)) key :=
    learned.aliases key
  simp only [same, firstAlias?_isSome_iff]
  simp [List.flatMap_eq_nil_iff]

/-- An outcome counts towards recognizing a project if the candidate has a descriptor to learn from. -/
theorem isMatch_iff {outcome : Outcome} (yields : read.Yields parse config outcome) :
    outcome.isMatch ↔ (read.main? parse config).isSome ∨ read.routes parse config ≠ [] := by
  cases yields with
  | tooLarge large => simp [Outcome.isMatch, ReadCandidate.main?, ReadCandidate.routes,
      ReadCandidate.recognized?, large]
  | unreadable small failed => simp [Outcome.isMatch, ReadCandidate.main?, ReadCandidate.routes,
      ReadCandidate.recognized?, failed, Except.toOption]
  | treeless small readable asked missing =>
    have lost := Descriptor.recognize_eq_failed_iff.mpr ⟨asked, _, missing, rfl⟩
    simp [Outcome.isMatch, ReadCandidate.main?, ReadCandidate.routes, ReadCandidate.recognized?, readable, lost,
      Except.toOption]
  | main found => simp [Outcome.isMatch, ReadCandidate.main?, found]
  | nothing found => simp [Outcome.isMatch, ReadCandidate.main?, ReadCandidate.routes, found]
  | @routes routes found =>
    have some : routes ≠ [] := by
      rintro rfl
      simp only [ReadCandidate.recognized?, Option.ite_none_left_eq_some, Option.bind_eq_some_iff] at found
      obtain ⟨-, text, -, recognized⟩ := found
      cases known : Descriptor.recognize parse config.strategy text with
      | error stop => simp [known, Except.toOption] at recognized
      | ok own =>
        rw [known] at recognized
        obtain rfl := Option.some.inj recognized
        exact Descriptor.recognize_ne_routes_nil known
    simp [Outcome.isMatch, ReadCandidate.routes, found, some]

theorem any_isMatch_iff {sources : List ScannedSource} (scanned : List.Forall₂ (fun read source =>
    source.path = read.candidate.relative ∧ read.Yields parse config source.outcome) reads sources) :
    sources.any (·.outcome.isMatch) ↔
      (∃ read ∈ reads, (read.main? parse config).isSome) ∨ ∃ read ∈ reads, read.routes parse config ≠ [] := by
  induction scanned with
  | nil => simp
  | cons own rest ih =>
    rw [List.any_cons, Bool.or_eq_true, ih, isMatch_iff own.2]
    simp only [List.mem_cons, exists_eq_or_imp]
    exact or_or_or_comm

theorem Learned.isValid_iff (learned : Learned parse config root reads env) :
    env.isValid ↔ env.basePaths.isSome ∨ env.aliases.size ≠ 0 := by
  rw [learned.basePaths_isSome_iff, learned.size_ne_zero_iff]
  exact any_isMatch_iff learned.sources

end Environment

end SeedNavigator
