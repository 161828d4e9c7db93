import SeedNavigator.Command.Arguments
import SeedNavigator.Command.Encoding
import SeedNavigator.Command.Report
import SeedNavigator.Log.Filter
import SeedNavigator.Project.Navigation
import SeedNavigator.Project.Templates

/-! The commands: what was recognized in a project, the counterpart of a document, the members of a
controller, and completion in a view. -/
namespace SeedNavigator

/-- A strategy that the user asks for goes before the one in the settings file. -/
def Settings.applyTo (settings : Settings) (config : Config) : Config :=
  { config with strategy := settings.strategy.getD config.strategy }

namespace Command

/-- Work whose failures are worded for the user. -/
abbrev Task (m : Type → Type) := ExceptT (Stop Failure) (StateT (List Event) m)

variable {m : Type → Type} [Monad m] {α : Type}

def attempt (work : Work m α) : Task m α :=
  ExceptT.adapt (Stop.map Failure.ofError) work

def attemptIn (context : String) (work : Work m α) : Task m α :=
  ExceptT.adapt (Stop.map (Failure.inContext context ∘ Failure.ofError)) work

def fail (text : String) (causes : List String) : Task m α :=
  throw (.failed ⟨text, causes⟩)

/-! ### Projects and documents -/

def activity (project : Project) : String :=
  if project.isValid then "atse is activated" else "atse is deactivated (not exists project)"

def loadProject (host : Host m) (settings : Settings) (root : String) : Work m Project := do
  let config ← Project.configFor host root settings.configFile
  Project.openAt host root (settings.applyTo config)

def openProject (host : Host m) (settings : Settings) (root : String) : Task m Project := do
  let project ← attemptIn ("cannot open project at " ++ root) (loadProject host settings root)
  attempt (Work.tell [.info .commands (activity project)])
  return project

/-- Documents are named from the root of the project on, which may itself be relative. -/
def documentPath (host : Host m) (root document : String) : Task m String := do
  return Path.join (Path.join (← attempt (Work.ask host.workingDirectory)) root) document

/-! ### Answers in lines of text -/

def environmentLines (project : Project) : List String :=
  let env := project.environment
  [activity project] ++
    (env.basePaths.toList.flatMap fun paths =>
      ["controllers: " ++ paths.controllers, "views:       " ++ paths.views]) ++
    (env.aliases.entries.map fun (route, name) => "route " ++ route ++ " as " ++ name) ++
    (env.sources.filterMap fun source =>
      match source.outcome with
      | .unreadable message => some ("unreadable " ++ source.path ++ ": " ++ message)
      | _ => none)

def kindTitle : MemberKind → String
  | .method => "Method"
  | .property => "Property"
  | .accessor => "Accessor"

def memberLine (member : Member) : String :=
  "  " ++ (if member.isStatic then "static " else "") ++ member.name ++ " " ++
    kindTitle member.kind ++ " " ++ member.detail?.getD ""

def suggestionLine (suggestion : Completion.Suggestion) : String :=
  "\t".intercalate [suggestion.label, kindTitle suggestion.kind, suggestion.detail.getD ""]

def jsonReport (value : Json) : Report :=
  .lines [value.pretty 0]

/-! ### Commands -/

def environment (host : Host m) (settings : Settings) (root : String) (asJson : Bool) :
    Task m Report := do
  let project ← openProject host settings root
  return if asJson then jsonReport project.environment.toJson
    else .lines (environmentLines project)

/-- A document without a counterpart is an answer and not a fault of the command. -/
def counterpartReport : Except (Stop Error) String → Except (Stop Failure) Report
  | .ok target => .ok (.lines [target])
  | .error (.failed (.counterpartNotFound path)) =>
    .ok (.failed (Error.counterpartNotFound path).message)
  | .error stop => .error (stop.map .ofError)

/-- What cannot have a counterpart is told without a look at the project. -/
def toggle (host : Host m) (settings : Settings) (document root : String)
    (languageId : Option String) : Task m Report := do
  let kind := (languageId.map DocumentKind.ofLanguageId).getD (DocumentKind.ofPath document)
  if !kind.isSwitchable then return .failed (Error.counterpartNotFound document).message
  let project ← openProject host settings root
  match project.mapper with
  | .error _ => fail ("no AngularApp base paths found under " ++ root) []
  | .ok mapper =>
    let path ← documentPath host root document
    ExceptT.mk (counterpartReport <$> ExceptT.run (Navigation.counterpart host mapper kind path))

def members (host : Host m) (settings : Settings) (controller root : String) (asJson : Bool) :
    Task m Report := do
  let project ← openProject host settings root
  let path ← documentPath host root controller
  let key := Path.stem path project.config.controllerSuffix
  let (outline, className) ← attempt (Outline.ofController host path key)
  match outline.find? className with
  | none => fail ("class " ++ className ++ " not found in " ++ path) []
  | some type =>
    return if asJson then jsonReport (.array (type.publicMembers.map Member.toJson))
      else .lines (type.name :: type.publicMembers.map memberLine)

def readView (host : Host m) (view : String) : Task m String := do
  match ← attempt (Work.ask (host.readText view)) with
  | .ok text => return text
  | .error fault => fail ("cannot read " ++ view) [fault.message]

def complete (host : Host m) (settings : Settings) (view root : String) (offset : Nat)
    (asJson : Bool) : Task m Report := do
  let project ← openProject host settings root
  let mapper ← attempt (Work.settle project.mapper)
  let view ← documentPath host root view
  let text ← readView host view
  let suggestions ← attempt (Templates.complete host project mapper view text offset)
  return if asJson then jsonReport (.array (suggestions.map Completion.Suggestion.toJson))
    else .lines (suggestions.map suggestionLine)

def perform (host : Host m) (settings : Settings) : Action → Task m Report
  | .environment root asJson => environment host settings root asJson
  | .toggle document root languageId => toggle host settings document root languageId
  | .members controller root asJson => members host settings controller root asJson
  | .complete view root offset asJson => complete host settings view root offset asJson

/-! ### The whole program -/

def version : String := "atse 0.3.0"

def usage : List String := [
  "Navigate between AngularJS controllers and views in angular-typescript-seed projects",
  "",
  "Usage: atse [-c FILE] [--strategy STRATEGY] [-v]... COMMAND",
  "",
  "  env [ROOT] [--json]",
  "  toggle FILE [--root ROOT] [--language-id ID]",
  "  members CONTROLLER [--root ROOT] [--json]",
  "  complete VIEW --offset N [--root ROOT] [--json]"]

/-- Only the events that the filter lets through are reported. -/
def invoke (host : Host m) (filter : Filter) (invocation : Invocation) : m Report := do
  let (result, told) ← StateT.run (ExceptT.run (perform host invocation.settings invocation.action)) []
  let report :=
    match result with
    | .ok report => report
    | .error stop => .ofStop stop
  return { report with events := (told ++ report.events).filter filter.shows }

/-- The answer to a command line. A text of log directives goes before the verbosity that the
arguments ask for. -/
def respond (host : Host m) (directives : Option String) (arguments : List String) : m Report := do
  match Arguments.parse? arguments with
  | none => return { code := 2, notes := usage }
  | some .version => return .lines [version]
  | some .help => return .lines usage
  | some (.run invocation) =>
    match directives with
    | none => invoke host (.ofVerbosity invocation.settings.verbosity) invocation
    | some text =>
      let ignored := (Filter.rejected text).map fun part =>
        "ignoring " ++ Json.inBackquotes part ++ ": invalid filter directive"
      let report ← invoke host (.parse text) invocation
      return { report with notes := ignored ++ report.notes }

end Command

end SeedNavigator
