import SeedNavigator.Proofs.Environment.Scan

/-! Candidates that cannot be read. A scan that goes on notes each of them, one that stops ends at the first.
Up to there both do the same, so they differ only where there is one. -/
namespace SeedNavigator.Environment

open Script (Parser)

/-- The first candidate that the environment notes as unreadable, and why it is. -/
structure FirstFailure (reads : List ReadCandidate) (env : Environment) (candidate : Candidate)
    (fault : ReadFault) : Prop where
  split : ∃ before after front back,
    reads = before ++ ⟨candidate, .error fault⟩ :: after ∧
    env.sources = front ++ ⟨candidate.relative, .unreadable fault.message⟩ :: back ∧
    front.length = before.length ∧ ∀ source ∈ front, source.outcome.isUnreadable = false

/-- How a scan that stops at a failure comes out next to one that goes on, of the same candidates. -/
structure StopsAtFirst (reads : Except (Stop Error) (List ReadCandidate))
    (kept stopped : Except (Stop Error) Environment) : Prop where
  whole : ∀ env, stopped = .ok env ↔
    kept = .ok env ∧ ∀ source ∈ env.sources, source.outcome.isUnreadable = false
  first : ∀ env, kept = .ok env → (∃ source ∈ env.sources, source.outcome.isUnreadable = true) →
    ∃ all candidate fault, reads = .ok all ∧ FirstFailure all env candidate fault ∧
      stopped = .error (.failed (.scanAborted candidate.path fault))
  failed : ∀ error, kept = .error (.failed error) → stopped = .error (.failed error)
  /-- The program breaks down in both, unless one of them stopped before. -/
  crashed : ∀ crash, kept = .error (.crashed crash) → stopped = .error (.crashed crash) ∨
    ∃ all read fault, reads = .ok all ∧ read ∈ all ∧ read.text = .error fault ∧
      stopped = .error (.failed (.scanAborted read.candidate.path fault))

variable {parse : Parser} {config : Config} {root : String} {env last : Environment} {reads : List ReadCandidate}
  {found before after : List (Candidate × Except Crash Finding)} {candidate : Candidate} {fault : ReadFault}
  {crash : Crash}

theorem isUnreadable_outcome (finding : Finding) :
    finding.outcome.isUnreadable = finding.isUnreadable := by
  cases finding with
  | tooLarge => rfl
  | unreadable fault => rfl
  | unrecognized error => rfl
  | recognized recognized => cases recognized <;> rfl

/-! ### Findings -/

/-- None of the candidates that are looked at here is one that cannot be read. -/
def Readable (found : List (Candidate × Except Crash Finding)) : Prop :=
  ∀ entry ∈ found, ∀ finding, entry.2 = .ok finding → finding.isUnreadable = false

theorem scan_eq_of_readable (readable : Readable found) (policy : FailurePolicy) (env : Environment) :
    scan policy env found = scan .keepPartial env found := by
  induction found generalizing env with
  | nil => rfl
  | cons entry rest ih =>
    obtain ⟨candidate, looked⟩ := entry
    cases looked with
    | error crash => rw [scan_crashed_cons, scan_crashed_cons]
    | ok finding =>
      have own := readable _ List.mem_cons_self finding rfl
      rw [scan_cons (.inr own), scan_cons (.inr own)]
      exact ih (fun other member => readable other (List.mem_cons_of_mem _ member)) _

/-- Up to the first candidate that cannot be read, the program breaks down in both scans or in neither. -/
theorem scan_abort_of_first (readable : Readable before) (env : Environment) (candidate : Candidate)
    (fault : ReadFault) (after : List (Candidate × Except Crash Finding)) :
    scan .abort env (before ++ (candidate, .ok (.unreadable fault)) :: after) =
        .error (.failed (.scanAborted candidate.path fault)) ∨
      ∃ crash, ∀ policy, scan policy env (before ++ (candidate, .ok (.unreadable fault)) :: after) =
        .error (.crashed crash) := by
  induction before generalizing env with
  | nil => exact .inl (scan_abort_cons env candidate fault after)
  | cons entry rest ih =>
    obtain ⟨other, looked⟩ := entry
    simp only [List.cons_append]
    cases looked with
    | error crash => exact .inr ⟨crash, fun policy => scan_crashed_cons policy env other crash _⟩
    | ok finding =>
      have own := readable _ List.mem_cons_self finding rfl
      simp only [scan_cons (.inr own)]
      exact ih (fun entry member => readable entry (List.mem_cons_of_mem _ member)) _

/-- Either all candidates can be read, or one of them is the first that cannot. -/
theorem readable_or_first (found : List (Candidate × Except Crash Finding)) :
    Readable found ∨ ∃ before candidate fault after,
      found = before ++ (candidate, .ok (.unreadable fault)) :: after ∧ Readable before := by
  induction found with
  | nil => exact .inl (by simp [Readable])
  | cons entry rest ih =>
    obtain ⟨candidate, looked⟩ := entry
    by_cases own : ∃ fault, looked = .ok (.unreadable fault)
    · obtain ⟨fault, rfl⟩ := own
      exact .inr ⟨[], candidate, fault, rest, rfl, by simp [Readable]⟩
    · have readable : ∀ finding, looked = .ok finding → finding.isUnreadable = false := by
        rintro (_ | fault | error | recognized) rfl
        · rfl
        · exact absurd ⟨fault, rfl⟩ own
        · rfl
        · rfl
      rcases ih with all | ⟨before, other, fault, after, rfl, all⟩
      · exact .inl (List.forall_mem_cons.mpr ⟨readable, all⟩)
      · exact .inr ⟨_ :: before, other, fault, after, rfl, List.forall_mem_cons.mpr ⟨readable, all⟩⟩

/-! ### Both scans -/

/-- What a scan to the end notes of candidates that can be read. -/
theorem clean_of_noted {sources : List ScannedSource} (readable : Readable found)
    (noted : List.Forall₂ Noted found sources) : ∀ source ∈ sources, source.outcome.isUnreadable = false := by
  induction noted with
  | nil => simp
  | @cons entry source rest sources own _ ih =>
    obtain ⟨finding, looked, rfl⟩ := own
    have whole := List.forall_mem_cons.mp readable
    refine List.forall_mem_cons.mpr ⟨?_, ih whole.2⟩
    exact (isUnreadable_outcome finding).trans (whole.1 finding looked)

/-- What is noted of a candidate lies behind what is noted of those before it. -/
theorem exists_split_of_noted {entry : Candidate × Except Crash Finding} {sources : List ScannedSource}
    (noted : List.Forall₂ Noted (before ++ entry :: after) sources) : ∃ front source back,
    sources = front ++ source :: back ∧ List.Forall₂ Noted before front ∧ Noted entry source := by
  induction before generalizing sources with
  | nil =>
    obtain ⟨source, back, own, -, rfl⟩ := List.forall₂_cons_left_iff.mp noted
    exact ⟨[], source, back, rfl, .nil, own⟩
  | cons first rest ih =>
    obtain ⟨noticed, others, own, later, rfl⟩ := List.forall₂_cons_left_iff.mp noted
    obtain ⟨front, source, back, rfl, ahead, behind⟩ := ih later
    exact ⟨noticed :: front, source, back, rfl, .cons own ahead, behind⟩

theorem firstFailure_of_findings (resolved : resolve parse config root reads = .ok env)
    (split : findings parse config reads = before ++ (candidate, .ok (.unreadable fault)) :: after)
    (readable : Readable before) : FirstFailure reads env candidate fault := by
  obtain ⟨noted, sources, each⟩ := noted_of_scan resolved
  rw [split] at each
  obtain ⟨front, source, back, rfl, ahead, finding, looked, rfl⟩ := exists_split_of_noted each
  obtain rfl := Except.ok.inj looked
  obtain ⟨earlier, later, rfl, cut, cutRest⟩ := List.map_eq_append_iff.mp split
  obtain ⟨⟨own, text⟩, later, rfl, entry, -⟩ := List.map_eq_cons_iff.mp cutRest
  obtain ⟨rfl, unread⟩ := Prod.mk.inj entry
  obtain ⟨-, rfl⟩ := of_eq_unreadable_iff.mp unread
  refine ⟨earlier, later, front, back, rfl, sources, ?_, clean_of_noted readable ahead⟩
  rw [← ahead.length_eq, ← cut, List.length_map]

namespace StopsAtFirst

variable {all : Except (Stop Error) (List ReadCandidate)}

theorem of_clean (clean : ∀ source ∈ last.sources, source.outcome.isUnreadable = false) :
    StopsAtFirst all (.ok last) (.ok last) where
  whole env := by
    constructor
    · intro result
      obtain rfl := Except.ok.inj result
      exact ⟨rfl, clean⟩
    · exact And.left
  first env result failing := by
    obtain rfl := Except.ok.inj result
    obtain ⟨source, member, unread⟩ := failing
    simp [clean source member] at unread
  failed error result := by contradiction
  crashed crash result := by contradiction

theorem of_first (first : FirstFailure reads last candidate fault) :
    StopsAtFirst (.ok reads) (.ok last) (.error (.failed (.scanAborted candidate.path fault))) where
  whole env := by
    constructor
    · intro result
      contradiction
    · rintro ⟨result, clean⟩
      obtain rfl := Except.ok.inj result
      obtain ⟨-, -, front, back, -, sources, -⟩ := first.split
      have noted := clean ⟨candidate.relative, .unreadable fault.message⟩ (by simp [sources])
      simp [Outcome.isUnreadable] at noted
  first env result _ := by
    obtain rfl := Except.ok.inj result
    exact ⟨reads, candidate, fault, rfl, first, rfl⟩
  failed error result := by contradiction
  crashed crash result := by contradiction

theorem of_error (stop : Stop Error) : StopsAtFirst all (.error stop) (.error stop) where
  whole env := by simp
  first env result _ := by contradiction
  failed error result := result
  crashed crash result := .inl result

/-- The scan that stops does not get to what the program breaks down over. -/
theorem of_crashed {read : ReadCandidate} (member : read ∈ reads) (failed : read.text = .error fault) :
    StopsAtFirst (.ok reads) (.error (.crashed crash))
      (.error (.failed (.scanAborted read.candidate.path fault))) where
  whole env := by simp
  first env result _ := by contradiction
  failed error result := by simp at result
  crashed crash _ := .inr ⟨reads, read, fault, rfl, member, failed, rfl⟩

end StopsAtFirst

/-- The settings about failures are not asked while a candidate is looked at. -/
theorem stopsAtFirst_resolve (parse : Parser) (config : Config) (root : String) (reads : List ReadCandidate) :
    StopsAtFirst (.ok reads) (resolve parse { config with failurePolicy := .keepPartial } root reads)
      (resolve parse { config with failurePolicy := .abort } root reads) := by
  rcases readable_or_first (findings parse config reads) with
    readable | ⟨before, candidate, fault, after, split, readable⟩
  · have same : resolve parse { config with failurePolicy := .abort } root reads =
        resolve parse { config with failurePolicy := .keepPartial } root reads :=
      scan_eq_of_readable readable .abort { root }
    rw [same]
    cases kept : resolve parse { config with failurePolicy := .keepPartial } root reads with
    | error stop => exact .of_error stop
    | ok last =>
      obtain ⟨noted, sources, each⟩ := noted_of_scan kept
      exact .of_clean (sources ▸ clean_of_noted readable each)
  · have cut (policy : FailurePolicy) : resolve parse { config with failurePolicy := policy } root reads =
        scan policy { root } (before ++ (candidate, .ok (.unreadable fault)) :: after) :=
      congrArg (scan policy { root }) split
    rcases scan_abort_of_first readable { root } candidate fault after with stops | ⟨crash, crashes⟩
    · rw [cut .abort, stops]
      cases kept : resolve parse { config with failurePolicy := .keepPartial } root reads with
      | ok last => exact .of_first (firstFailure_of_findings kept split readable)
      | error stop =>
        cases stop with
        | failed error => exact absurd kept (resolve_ne_failed rfl error)
        | crashed crash =>
          have entry : (candidate, .ok (.unreadable fault)) ∈ findings parse config reads := by simp [split]
          obtain ⟨read, member, looked⟩ := List.mem_map.mp entry
          obtain ⟨rfl, unread⟩ := Prod.mk.inj looked
          exact .of_crashed member (of_eq_unreadable_iff.mp unread).2
    · rw [cut, cut, crashes, crashes]
      exact .of_error _

end SeedNavigator.Environment
