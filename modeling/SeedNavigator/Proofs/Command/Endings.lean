import SeedNavigator.Proofs.Command.Members
import SeedNavigator.Proofs.Project.Breakdown

/-! How commands end. A command answers on its output and succeeds, or it fails, says why in a note, and leaves
its output empty: nothing is written before the last step that can fail. The output is empty as well if the program
breaks down, as it does over some literals while the project is scanned. Switching succeeds exactly if there
is a counterpart that is a file, and then this path is the whole output. -/
namespace SeedNavigator.Command

open Work

variable {host : Host Id} {settings : Settings} {invocation : Invocation} {project : Project}
  {mapper : Mapper} {document root path : String} {languageId : Option String} {error : Error}
  {stop : Stop Error} {crash : Crash}

/-! ### Reports of work that succeeds -/

/-- An answer has nothing to say besides its output. -/
structure IsAnswer (report : Report) : Prop where
  code : report.code = 0
  notes : report.notes = []

theorem isAnswer_lines (lines : List String) : IsAnswer (.lines lines) := ⟨rfl, rfl⟩

/-- If the task succeeds, it does so with an answer. -/
def Answers (task : Task Id Report) : Prop :=
  ∀ told report later, exec task told = (.ok report, later) → IsAnswer report

/-- The kind under which a document is switched: by its language if that is given. -/
def kindFor (document : String) (languageId : Option String) : DocumentKind :=
  (languageId.map DocumentKind.ofLanguageId).getD (DocumentKind.ofPath document)

/-- The document has this counterpart in the project at the root, and it is a file. -/
def Leads (host : Host Id) (settings : Settings) (document root : String) (languageId : Option String)
    (target : String) : Prop :=
  ∃ project mapper source, result (loadProject host settings root) = .ok project ∧
    project.mapper = .ok mapper ∧
    Navigation.mapping mapper (kindFor document languageId) (place host root document) =
      .mapped source target ∧ (host.isFile target).run = true

/-- The counterpart of a document, if it is a file. -/
def fileFor (host : Host Id) (mapper : Mapper) (kind : DocumentKind) (path : String) : Except Error String :=
  match Navigation.mapping mapper kind path with
  | .unchanged _ => .error (.counterpartNotFound path)
  | .mapped _ target =>
    if (host.isFile target).run then .ok target else .error (.counterpartNotFound target)

/-- What switching in a project comes to. -/
def switched (host : Host Id) (kind : DocumentKind) (document root : String) (project : Project) :
    Except (Stop Failure) Report :=
  match project.mapper with
  | .error _ => .error (.failed ⟨"no AngularApp base paths found under " ++ root, []⟩)
  | .ok mapper => counterpartReport ((fileFor host mapper kind (place host root document)).mapError Stop.failed)

/-- What a command comes to, without the events. -/
def outcome (host : Host Id) (invocation : Invocation) : Except (Stop Failure) Report :=
  (exec (perform host invocation.settings invocation.action) []).1

/-- There is no counterpart, or the work has failed, and this is said of it. -/
inductive IsRefusal : Except (Stop Failure) Report → String → Prop
  | without (missing : String) :
      IsRefusal (.ok (.failed (Error.counterpartNotFound missing).message)) "Not found view/controller"
  | failed (failure : Failure) : IsRefusal (.error (.failed failure)) failure.line

/-- How a command can come out. -/
inductive Ending : Except (Stop Failure) Report → Prop
  | answered {report : Report} (answer : IsAnswer report) : Ending (.ok report)
  | refused {result : Except (Stop Failure) Report} {complaint : String} (refusal : IsRefusal result complaint) :
      Ending result
  | crashed (crash : Crash) : Ending (.error (.crashed crash))

/-- Only a document that leads to a file is switched to it. -/
inductive Switching (host : Host Id) (settings : Settings) (document root : String)
    (languageId : Option String) : Except (Stop Failure) Report → Prop
  | leads {target : String} (leads : Leads host settings document root languageId target) :
      Switching host settings document root languageId (.ok (.lines [target]))
  | nowhere {result : Except (Stop Failure) Report} {complaint : String} (refusal : IsRefusal result complaint)
      (nowhere : ∀ target, ¬Leads host settings document root languageId target) :
      Switching host settings document root languageId result
  | crashed (crash : Crash) (nowhere : ∀ target, ¬Leads host settings document root languageId target) :
      Switching host settings document root languageId (.error (.crashed crash))

theorem IsRefusal.report {result : Except (Stop Failure) Report} {complaint : String}
    (refusal : IsRefusal result complaint) :
    (reportOf result).code = 1 ∧ (reportOf result).output = "" ∧ (reportOf result).notes = [complaint] := by
  cases refusal with
  | without missing => exact ⟨rfl, rfl, rfl⟩
  | failed failure => exact ⟨rfl, rfl, rfl⟩

theorem report_of_crashed (crash : Crash) :
    (reportOf (.error (.crashed crash))).code = 101 ∧ (reportOf (.error (.crashed crash))).output = "" :=
  ⟨rfl, rfl⟩

theorem Answers.ending {action : Action} (answers : Answers (perform host settings action)) :
    Ending (outcome host ⟨settings, action⟩) := by
  rw [outcome]
  cases done : exec (perform host settings action) [] with
  | mk result told =>
    cases result with
    | error stop =>
      cases stop with
      | failed failure => exact .refused (.failed failure)
      | crashed crash => exact .crashed crash
    | ok report => exact .answered (answers [] report told done)

theorem Switching.ending {result : Except (Stop Failure) Report}
    (switching : Switching host settings document root languageId result) : Ending result := by
  cases switching with
  | leads leads => exact .answered (isAnswer_lines _)
  | nowhere refusal nowhere => exact .refused refusal
  | crashed crash nowhere => exact .crashed crash

theorem leads_unique {target other : String} (leads : Leads host settings document root languageId target)
    (others : Leads host settings document root languageId other) : target = other := by
  obtain ⟨project, mapper, source, loaded, maps, mapped, -⟩ := leads
  obtain ⟨project', mapper', source', loaded', maps', mapped', -⟩ := others
  rw [loaded] at loaded'
  obtain rfl := Except.ok.inj loaded'
  rw [maps] at maps'
  obtain rfl := Except.ok.inj maps'
  rw [mapped] at mapped'
  exact (Mapping.mapped.inj mapped').2

theorem Switching.report {result : Except (Stop Failure) Report}
    (switching : Switching host settings document root languageId result) :
    ((reportOf result).code = 0 ↔ ∃ target, Leads host settings document root languageId target) ∧
      ∀ target, Leads host settings document root languageId target →
        (reportOf result).output = target ++ "\n" := by
  cases switching with
  | leads leads =>
    refine ⟨⟨fun _ => ⟨_, leads⟩, fun _ => rfl⟩, fun target other => ?_⟩
    rw [leads_unique leads other]
    simp [reportOf, Report.lines]
  | nowhere refusal nowhere =>
    have fails : (reportOf result).code ≠ 0 := by simp [refusal.report.1]
    refine ⟨⟨fun success => absurd success fails, ?_⟩, fun target leads => absurd leads (nowhere target)⟩
    rintro ⟨target, leads⟩
    exact absurd leads (nowhere target)
  | crashed crash nowhere =>
    refine ⟨⟨fun success => ?_, ?_⟩, fun target leads => absurd leads (nowhere target)⟩
    · rw [(report_of_crashed crash).1] at success
      contradiction
    · rintro ⟨target, leads⟩
      exact absurd leads (nowhere target)

/-- The code of a report tells apart the ways in which a command can come out. -/
theorem Ending.report {result : Except (Stop Failure) Report} (ending : Ending result) :
    ((reportOf result).code = 0 ∧ ∃ report, result = .ok report) ∨
    ((reportOf result).code = 1 ∧ (reportOf result).output = "" ∧
      ∃ complaint, IsRefusal result complaint ∧ (reportOf result).notes = [complaint]) ∨
    ((reportOf result).code = 101 ∧ (reportOf result).output = "" ∧ ∃ crash, result = .error (.crashed crash)) := by
  cases ending with
  | answered answer => exact .inl ⟨answer.code, _, rfl⟩
  | refused refusal => exact .inr (.inl ⟨refusal.report.1, refusal.report.2.1, _, refusal, refusal.report.2.2⟩)
  | crashed crash => exact .inr (.inr ⟨(report_of_crashed crash).1, (report_of_crashed crash).2, crash, rfl⟩)

end SeedNavigator.Command
