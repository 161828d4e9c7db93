import SeedNavigator.Project.Basic
import SeedNavigator.Proofs.Environment.Scan
import SeedNavigator.Proofs.Files.Work

/-! Scanning a project on a machine comes to the same as scanning the texts that the machine would give for
the candidates, those that are too large included. -/
namespace SeedNavigator

open Script (Parser)

/-- What projects are scanned from: directories, the candidates that a glob selects below one of them, the
texts of the candidates, and their trees. -/
structure Source where
  isDirectory : (path : String) → Bool
  candidates : (root glob : String) → Except (Stop Error) (List Candidate)
  read : (path : String) → Except ReadFault String
  parse : Parser

namespace Source

def readAll (source : Source) (candidates : List Candidate) : List ReadCandidate :=
  candidates.map fun candidate => ⟨candidate, source.read candidate.path⟩

/-- The candidates of a project with what reading them gives. -/
def reads (source : Source) (config : Config) (root : String) : Except (Stop Error) (List ReadCandidate) :=
  (source.candidates root config.candidateGlob).map source.readAll

def resolve (source : Source) (config : Config) (root : String) : Except (Stop Error) Environment :=
  if source.isDirectory root then (source.reads config root).bind (Environment.resolve source.parse config root)
  else .error (.failed (.noProjectRoot root))

/-- The scan gets to a candidate that the program breaks down over. -/
def Breaks (source : Source) (config : Config) (root : String) : Prop :=
  source.isDirectory root = true ∧
    ∃ reads, source.reads config root = .ok reads ∧ Environment.Breaks source.parse config reads

def ofHost (host : Host Id) : Source where
  isDirectory path := (host.isDirectory path).run
  candidates root glob := Work.result (Project.candidates host root glob)
  read path := (host.readText path).run
  parse := host.parse

end Source

namespace Project

open Work Candidate

variable {host : Host Id} {root : String} {config : Config} {candidates : List Candidate}

/-- The candidates with what the machine answers when their texts are asked for. -/
def reads (host : Host Id) (candidates : List Candidate) : List ReadCandidate :=
  candidates.map fun candidate => ⟨candidate, (host.readText candidate.path).run⟩

theorem exec_requireRoot (directory : (host.isDirectory root).run = true) (told : List Event) :
    exec (requireRoot host root) told = (.ok (), told) := by
  rw [requireRoot, exec_bind_of_ok (exec_ask _ told), directory]
  rfl

/-- What is kept of a candidate: no text if it is too large. -/
def kept (host : Host Id) (config : Config) (candidate : Candidate) : ReadCandidate :=
  if config.maxFileSize < candidate.size then ⟨candidate, .ok ""⟩
  else ⟨candidate, (host.readText candidate.path).run⟩

theorem exec_readCandidate (host : Host Id) (config : Config) (candidate : Candidate)
    (told : List Event) :
    exec (readCandidate host config candidate) told = (.ok (kept host config candidate), told) := by
  rw [readCandidate, kept]
  split
  · rfl
  · rw [exec_bind_of_ok (exec_ask _ told)]
    rfl

theorem resolve_kept (host : Host Id) (config : Config) (root : String) (candidates : List Candidate) :
    Environment.resolve host.parse config root (candidates.map (kept host config)) =
      Environment.resolve host.parse config root (reads host candidates) := by
  refine congrArg (Environment.scan config.failurePolicy { root }) ?_
  rw [Environment.findings, Environment.findings, reads, List.map_map, List.map_map]
  refine List.map_congr_left fun candidate _ => ?_
  by_cases large : config.maxFileSize < candidate.size <;> simp [kept, Finding.of, large]

theorem exec_requireRoot_of_missing (missing : (host.isDirectory root).run = false) (told : List Event) :
    exec (requireRoot host root) told = (.error (.failed (.noProjectRoot root)), told) := by
  rw [requireRoot, exec_bind_of_ok (exec_ask _ told), missing]
  rfl

theorem resolve_ofHost (host : Host Id) (config : Config) (root : String) :
    (Source.ofHost host).resolve config root =
      if (host.isDirectory root).run then
        ((result (Project.candidates host root config.candidateGlob)).map (reads host)).bind
          (Environment.resolve host.parse config root)
      else .error (.failed (.noProjectRoot root)) := rfl

/-- Which candidates there are does not depend on what has been told before. -/
theorem exec_candidates_fst (host : Host Id) (root glob : String) (told : List Event) :
    (exec (Project.candidates host root glob) told).1 = result (Project.candidates host root glob) := by
  rw [result_eq_exec, Project.candidates]
  by_cases directory : (host.isDirectory root).run = true
  case neg =>
    have missing : (host.isDirectory root).run = false := eq_false_of_ne_true directory
    rw [exec_bind_of_error (exec_requireRoot_of_missing missing told),
      exec_bind_of_error (exec_requireRoot_of_missing missing [])]
  case pos =>
    rw [exec_bind_of_ok (exec_requireRoot directory told), exec_bind_of_ok (exec_requireRoot directory [])]
    cases Config.parseGlob glob with
    | error error => rfl
    | ok parsed =>
      have start (told : List Event) := exec_ask (host.isDirectory (startDirectory root glob)) told
      have settled (told : List Event) : exec (settle (.ok parsed)) told = (.ok parsed, told) := rfl
      rw [exec_bind_of_ok (settled told), exec_bind_of_ok (settled []), exec_bind_of_ok (start told),
        exec_bind_of_ok (start [])]
      split <;> rfl

/-- A scan on a machine is one from the source that the machine is. -/
theorem exec_scan_fst (host : Host Id) (config : Config) (root : String) (told : List Event) :
    (exec (scan host config root) told).1 = (Source.ofHost host).resolve config root := by
  rw [resolve_ofHost, ← exec_candidates_fst host root config.candidateGlob told, scan]
  by_cases directory : (host.isDirectory root).run = true
  case neg =>
    have missing : (host.isDirectory root).run = false := eq_false_of_ne_true directory
    rw [exec_bind_of_error (exec_requireRoot_of_missing missing told), if_neg directory]
  case pos =>
    rw [exec_bind_of_ok (exec_requireRoot directory told), if_pos directory]
    obtain ⟨listing, later, listed⟩ : ∃ listing later,
        exec (Project.candidates host root config.candidateGlob) told = (listing, later) := ⟨_, _, rfl⟩
    rw [listed]
    cases listing with
    | error stop =>
      rw [exec_bind_of_error listed]
      rfl
    | ok candidates =>
      rw [exec_bind_of_ok listed, exec_bind_of_ok (exec_tell ..),
        exec_bind_of_ok (exec_mapM_of_pure (exec_readCandidate host config) candidates _),
        exec_bind_of_ok (exec_tell ..), resolve_kept]
      change _ = Environment.resolve host.parse config root (reads host candidates)
      cases Environment.resolve host.parse config root (reads host candidates) with
      | error stop => rw [exec_bind_of_error (exec_conclude ..)]
      | ok env =>
        rw [exec_bind_of_ok (exec_conclude ..), exec_bind_of_ok (exec_tell ..)]
        rfl

theorem result_scan (host : Host Id) (config : Config) (root : String) :
    result (scan host config root) = (Source.ofHost host).resolve config root :=
  exec_scan_fst host config root []

/-- The environment of a scan is what the listed candidates are resolved to. -/
theorem resolve_of_scan {env : Environment} {told : List Event}
    (scanned : (Work.run (Project.scan host config root)).run = (.ok env, told)) :
    ∃ candidates earlier,
      (Work.run (Project.candidates host root config.candidateGlob)).run = (.ok candidates, earlier) ∧
      Environment.resolve host.parse config root (reads host candidates) = .ok env := by
  have found : (Source.ofHost host).resolve config root = .ok env :=
    (result_scan host config root).symm.trans (congrArg Prod.fst scanned)
  rw [resolve_ofHost] at found
  split at found
  · cases listed : result (Project.candidates host root config.candidateGlob) with
    | error error =>
      rw [listed] at found
      contradiction
    | ok candidates =>
      rw [listed] at found
      exact ⟨candidates, _, Prod.ext listed rfl, found⟩
  · contradiction

/-- What scanning candidates comes to if it goes on after failures. -/
inductive ScansAll (parse : Parser) (config : Config) (root : String) (reads : List ReadCandidate) :
    Except (Stop Error) Environment → Prop where
  | crashed (breaks : ∃ read ∈ reads, read.Breaks parse config) :
      ScansAll parse config root reads (.error (.crashed .withinCharacter))
  | learned {env : Environment} (whole : ∀ read ∈ reads, ¬read.Breaks parse config)
      (learned : env.Learned parse config root reads)
      (valid : env.isValid ↔ env.basePaths.isSome ∨ env.aliases.size ≠ 0) :
      ScansAll parse config root reads (.ok env)

theorem scansAll_resolve (parse : Parser) (root : String) (reads : List ReadCandidate)
    (keeps : config.failurePolicy = .keepPartial) :
    ScansAll parse config root reads (Environment.resolve parse config root reads) := by
  by_cases whole : ∀ read ∈ reads, ¬read.Breaks parse config
  · obtain ⟨env, resolved⟩ : ∃ env, Environment.resolve parse config root reads = .ok env :=
      Environment.exists_resolve_of_whole keeps whole
    have learned := Environment.learned_of_resolve resolved
    rw [resolved]
    exact .learned whole learned learned.isValid_iff
  · have breaks : ∃ read ∈ reads, read.Breaks parse config := by simpa using whole
    have crashes := (Environment.breaks_iff_of_keepPartial keeps).mpr breaks
    rw [Environment.resolve_eq_crashed_iff.mpr crashes]
    exact .crashed breaks

/-- A scan that goes on after failures succeeds, and its environment holds what all candidates say, unless the
program breaks down over a literal in one of them. -/
theorem scan_learns_all (parse : Parser) (config : Config) (root : String)
    (keeps : config.failurePolicy = .keepPartial) :
    (∀ reads, ScansAll parse config root reads (Environment.resolve parse config root reads)) ∧
    (∀ (host : Host Id) (candidates : List Candidate) (told : List Event),
      (host.isDirectory root).run = true →
      (Work.run (Project.candidates host root config.candidateGlob)).run = (.ok candidates, told) →
      ScansAll host.parse config root (reads host candidates) (Work.result (Project.scan host config root))) := by
  refine ⟨fun reads => scansAll_resolve parse root reads keeps, fun host candidates told directory listed => ?_⟩
  have found : result (Project.candidates host root config.candidateGlob) = .ok candidates :=
    congrArg Prod.fst listed
  rw [result_scan, resolve_ofHost, if_pos directory, found]
  exact scansAll_resolve host.parse root (reads host candidates) keeps

/-- Two files that cannot have a say, and two that ask for the alias of one path. -/
def rivalCandidates : List ReadCandidate :=
  [⟨⟨"lost.ts", "lost.ts", 10⟩, .error .invalidText⟩,
    ⟨⟨"big.ts", "big.ts", 500⟩, .ok "[\x7b path: \"users\", controllerAs: \"big\" \x7d]"⟩,
    ⟨⟨"a.ts", "a.ts", 40⟩, .ok "[\x7b path: \"users/\", controllerAs: \"vm\" \x7d]"⟩,
    ⟨⟨"b.ts", "b.ts", 40⟩, .ok "[\x7b path: \"./users\", controllerAs: \"other\" \x7d]"⟩]

/-- A file that is too large or cannot be read is passed over, and of two aliases the first stays. -/
theorem scan_learns_first_alias : ∃ env,
    Environment.resolve Script.parser { strategy := .textual, maxFileSize := 200 } "." rivalCandidates = .ok env ∧
      env.basePaths = none ∧ env.alias? "users" = some "vm" ∧ env.isValid = true := by
  have scanned := (scan_learns_all Script.parser { strategy := .textual, maxFileSize := 200 } "." rfl).1
    rivalCandidates
  cases result : Environment.resolve Script.parser { strategy := .textual, maxFileSize := 200 } "."
      rivalCandidates with
  | error stop =>
    rw [result] at scanned
    cases scanned with
    | crashed breaks =>
      obtain ⟨read, -, -, text, -, breaks⟩ := breaks
      exact absurd breaks Descriptor.not_breaks_textual
  | ok env =>
    rw [result] at scanned
    cases scanned with | learned whole learned valid
    have first : env.alias? "users" = some "vm" := (learned.aliases "users").trans (by decide +kernel)
    refine ⟨env, rfl, learned.basePaths.trans (by decide +kernel), first, valid.mpr (.inr ?_)⟩
    refine Aliases.size_ne_zero_iff.mpr ⟨"users", ?_⟩
    rw [← Environment.alias?, first]
    rfl

end Project

end SeedNavigator
