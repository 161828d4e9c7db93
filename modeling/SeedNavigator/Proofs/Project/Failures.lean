import SeedNavigator.Proofs.Environment.Failures
import SeedNavigator.Proofs.Project.Scan

/-! What the settings about failures change. Whatever a project is scanned from, a scan that stops at a failure
gives the environment of one that goes on, or names the first candidate that this one could not read. All
else that can go wrong does so before the first candidate is looked at, unless the program breaks down over one. -/
namespace SeedNavigator

open Environment (StopsAtFirst stopsAtFirst_resolve)

variable {source : Source} {config : Config} {root : String} {candidates : List Candidate}
  {stop : Stop Error}

namespace Source

/-- There is nothing to scan, whatever the settings about failures are. -/
def Refuses (source : Source) (config : Config) (root : String) (stop : Stop Error) : Prop :=
  source.isDirectory root = false ∧ stop = .failed (.noProjectRoot root) ∨
    source.isDirectory root = true ∧ source.candidates root config.candidateGlob = .error stop

theorem resolve_of_refuses (refuses : source.Refuses config root stop) (policy : FailurePolicy) :
    source.resolve { config with failurePolicy := policy } root = .error stop := by
  rcases refuses with ⟨missing, rfl⟩ | ⟨directory, failed⟩
  · rw [resolve, if_neg (by simp [missing])]
  · rw [resolve, if_pos directory, reads, failed]
    rfl

theorem resolve_of_candidates (directory : source.isDirectory root = true)
    (listed : source.candidates root config.candidateGlob = .ok candidates) (policy : FailurePolicy) :
    source.resolve { config with failurePolicy := policy } root =
      Environment.resolve source.parse { config with failurePolicy := policy } root
        (source.readAll candidates) := by
  rw [resolve, if_pos directory, reads, listed]
  rfl

theorem refuses_or_candidates (source : Source) (config : Config) (root : String) :
    (∃ stop, source.Refuses config root stop) ∨
      ∃ candidates, source.isDirectory root = true ∧
        source.candidates root config.candidateGlob = .ok candidates := by
  cases directory : source.isDirectory root with
  | false => exact .inl ⟨_, .inl ⟨directory, rfl⟩⟩
  | true =>
    cases listed : source.candidates root config.candidateGlob with
    | error stop => exact .inl ⟨stop, .inr ⟨directory, listed⟩⟩
    | ok candidates => exact .inr ⟨candidates, rfl, rfl⟩

theorem stopsAtFirst (source : Source) (config : Config) (root : String) :
    StopsAtFirst (source.reads config root)
      (source.resolve { config with failurePolicy := .keepPartial } root)
      (source.resolve { config with failurePolicy := .abort } root) := by
  rcases source.refuses_or_candidates config root with ⟨stop, refuses⟩ | ⟨candidates, directory, listed⟩
  · rw [resolve_of_refuses refuses, resolve_of_refuses refuses]
    exact .of_error stop
  · rw [resolve_of_candidates directory listed, resolve_of_candidates directory listed, reads, listed]
    exact stopsAtFirst_resolve source.parse config root (source.readAll candidates)

theorem breaks_iff_of_candidates (directory : source.isDirectory root = true)
    (listed : source.candidates root config.candidateGlob = .ok candidates) :
    source.Breaks config root ↔ Environment.Breaks source.parse config (source.readAll candidates) := by
  have own : source.reads config root = .ok (source.readAll candidates) := by
    rw [reads, listed]
    rfl
  rw [Breaks, and_iff_right directory, own]
  constructor
  · rintro ⟨reads, same, breaks⟩
    obtain rfl := Except.ok.inj same
    exact breaks
  · exact fun breaks => ⟨_, rfl, breaks⟩

theorem not_breaks_of_refuses (refuses : source.Refuses config root stop) (policy : FailurePolicy) :
    ¬source.Breaks { config with failurePolicy := policy } root := by
  rintro ⟨directory, reads, listed, -⟩
  rcases refuses with ⟨missing, -⟩ | ⟨-, failed⟩
  · simp [missing] at directory
  · rw [Source.reads, failed] at listed
    contradiction

/-- A scan that goes on stops only where there is nothing to scan, or the program breaks down. -/
theorem resolve_keepPartial_eq_error_iff :
    source.resolve { config with failurePolicy := .keepPartial } root = .error stop ↔
      source.Refuses config root stop ∨
        source.Breaks { config with failurePolicy := .keepPartial } root ∧ ∃ crash, stop = .crashed crash := by
  rcases source.refuses_or_candidates config root with ⟨other, refuses⟩ | ⟨candidates, directory, listed⟩
  · have unique : source.Refuses config root stop ↔ other = stop := by
      constructor
      · intro again
        exact Except.error.inj
          ((resolve_of_refuses refuses .keepPartial).symm.trans (resolve_of_refuses again .keepPartial))
      · rintro rfl
        exact refuses
    rw [resolve_of_refuses refuses, unique]
    simp [not_breaks_of_refuses refuses .keepPartial]
  · have accepts : ¬source.Refuses config root stop := by
      rintro (⟨missing, -⟩ | ⟨-, failed⟩)
      · simp [missing] at directory
      · simp [listed] at failed
    have breaks : source.Breaks { config with failurePolicy := .keepPartial } root ↔
        Environment.Breaks source.parse { config with failurePolicy := .keepPartial } (source.readAll candidates) :=
      breaks_iff_of_candidates directory listed
    rw [resolve_of_candidates directory listed, breaks, or_iff_right accepts]
    cases stop with
    | failed error => simp [Environment.resolve_ne_failed]
    | crashed crash => rw [Environment.resolve_eq_crashed_iff, and_iff_left ⟨crash, rfl⟩]

end Source

namespace Project

/-- The scan that stops at failures is the one that goes on, up to the first of them. -/
theorem abort_stops_at_first_failure (config : Config) (root : String) :
    (∀ source : Source,
      StopsAtFirst (source.reads config root)
        (source.resolve { config with failurePolicy := .keepPartial } root)
        (source.resolve { config with failurePolicy := .abort } root) ∧
      ∀ stop, source.resolve { config with failurePolicy := .keepPartial } root = .error stop ↔
        source.Refuses config root stop ∨
          source.Breaks { config with failurePolicy := .keepPartial } root ∧ ∃ crash, stop = .crashed crash) ∧
    ∀ host : Host Id,
      StopsAtFirst ((Source.ofHost host).reads config root)
        (Work.result (scan host { config with failurePolicy := .keepPartial } root))
        (Work.result (scan host { config with failurePolicy := .abort } root)) := by
  constructor
  · intro source
    exact ⟨source.stopsAtFirst config root, fun stop => Source.resolve_keepPartial_eq_error_iff⟩
  · intro host
    rw [result_scan, result_scan]
    exact (Source.ofHost host).stopsAtFirst config root

-- What is too large is not read, so the first failure is that of the small candidate.
example : Source.resolve ⟨fun _ => true,
      fun _ _ => .ok [⟨"big.ts", "big.ts", 500⟩, ⟨"lost.ts", "lost.ts", 10⟩],
      fun _ => .error .invalidText, Script.parser⟩ { failurePolicy := .abort, maxFileSize := 200 } "." =
    .error (.failed (.scanAborted "lost.ts" .invalidText)) := by
  rfl

end Project

end SeedNavigator
