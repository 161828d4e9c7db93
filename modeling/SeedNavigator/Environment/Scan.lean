import SeedNavigator.Config.Basic
import SeedNavigator.Descriptor.Recognition
import SeedNavigator.Environment.Basic
import SeedNavigator.Environment.Candidates
import SeedNavigator.Error
import SeedNavigator.Log.Event

/-! From candidate files to the environment of a project. All candidates are scanned in their order, and
the first to say something is believed: the first main descriptor gives the base paths, and the first
route of a path its alias. -/
namespace SeedNavigator

/-- A candidate and what reading it gives. -/
structure ReadCandidate where
  candidate : Candidate
  text : Except ReadFault String

/-- What a candidate turns out to be. -/
inductive Finding where
  | tooLarge
  | unreadable (fault : ReadFault)
  | unrecognized (error : Error)
  | recognized (recognized : Recognized)

namespace Finding

def ofText (parse : Script.Parser) (config : Config) (text : String) : Except Crash Finding :=
  match Descriptor.recognize parse config.strategy text with
  | .ok found => .ok (.recognized found)
  | .error (.failed error) => .ok (.unrecognized error)
  | .error (.crashed crash) => .error crash

/-- The text of a candidate that is too large is not looked at. -/
def of (parse : Script.Parser) (config : Config) (read : ReadCandidate) : Except Crash Finding :=
  if config.maxFileSize < read.candidate.size then .ok .tooLarge
  else
    match read.text with
    | .ok text => ofText parse config text
    | .error fault => .ok (.unreadable fault)

def outcome : Finding → Outcome
  | .tooLarge => .noMatch
  | .unreadable fault => .unreadable fault.message
  | .unrecognized _ => .noMatch
  | .recognized (.main _) => .mainDescriptor
  | .recognized (.routes routes) => .routes routes.length
  | .recognized .nothing => .noMatch

end Finding

namespace MainDescriptor

def basePaths (main : MainDescriptor) : BasePaths :=
  ⟨Path.normalize main.controllers, Path.normalize main.views⟩

end MainDescriptor

namespace Aliases

/-- A route that is known already keeps its alias. -/
def addRoute (table : Aliases) (route : Route) : Aliases :=
  let key := Path.normalize route.path
  if (table.get? key).isSome then table else table.insert key route.as

end Aliases

namespace Environment

/-- What is learned from a finding, apart from the record of its outcome. -/
def learn (env : Environment) : Finding → Environment
  | .recognized (.main main) => { env with basePaths := env.basePaths.or (some main.basePaths) }
  | .recognized (.routes routes) =>
    { env with aliases := routes.foldl Aliases.addRoute env.aliases }
  | _ => env

def add (env : Environment) (candidate : Candidate) (finding : Finding) : Environment :=
  let env := env.learn finding
  { env with sources := env.sources ++ [⟨candidate.relative, finding.outcome⟩] }

/-- The scan of all findings. One that cannot be read ends it if the settings say so, and one that the
program breaks down over ends it in any case. -/
def scan (policy : FailurePolicy) :
    Environment → List (Candidate × Except Crash Finding) → Except (Stop Error) Environment
  | env, [] => .ok env
  | _, (_, .error crash) :: _ => .error (.crashed crash)
  | env, (candidate, .ok (.unreadable fault)) :: rest =>
    if policy = .abort then .error (.failed (.scanAborted candidate.path fault))
    else scan policy (env.add candidate (.unreadable fault)) rest
  | env, (candidate, .ok finding) :: rest => scan policy (env.add candidate finding) rest

def findings (parse : Script.Parser) (config : Config) (reads : List ReadCandidate) :
    List (Candidate × Except Crash Finding) :=
  reads.map fun read => (read.candidate, Finding.of parse config read)

/-- The environment of the project at `root`. -/
def resolve (parse : Script.Parser) (config : Config) (root : String) (reads : List ReadCandidate) :
    Except (Stop Error) Environment :=
  scan config.failurePolicy { root } (findings parse config reads)

/-! ### Events -/

def quoted (text : String) : String :=
  "'" ++ text ++ "'"

/-- A route is worth a warning if it asks for another alias than it has. -/
def routeEvents (relative : String) : Aliases → List Route → List Event
  | _, [] => []
  | table, route :: rest =>
    let key := Path.normalize route.path
    let here :=
      match table.get? key with
      | some known =>
        if known = route.as then []
        else [Event.warn .scan ("route " ++ quoted key ++ " in " ++ relative ++
          " already aliased as " ++ quoted known ++ ", ignoring " ++ quoted route.as)]
      | none => []
    here ++ routeEvents relative (table.addRoute route) rest

def events (env : Environment) (candidate : Candidate) : Finding → List Event
  | .tooLarge =>
    [.debug .scan ("skipping " ++ candidate.relative ++ " (" ++ toString candidate.size ++ " bytes)")]
  | .unreadable fault => [.warn .scan ("cannot read " ++ candidate.relative ++ ": " ++ fault.message)]
  | .unrecognized error =>
    [.warn .scan ("cannot recognize " ++ candidate.relative ++ ": " ++ error.message)]
  | .recognized (.main main) =>
    match env.basePaths with
    | some known =>
      [.warn .scan ("ignoring AngularApp descriptor in " ++ candidate.relative ++
        ": base paths already set (" ++ known.controllers ++ " / " ++ known.views ++ ")")]
    | none =>
      [.debug .scan ("base paths from " ++ candidate.relative ++ ": controllers=" ++
        main.basePaths.controllers ++ " views=" ++ main.basePaths.views)]
  | .recognized (.routes routes) => routeEvents candidate.relative env.aliases routes
  | .recognized .nothing => []

/-- What is told while a candidate is recognized. -/
def recognitionEvents (parse : Script.Parser) (config : Config) (read : ReadCandidate) : List Event :=
  if config.maxFileSize < read.candidate.size then []
  else
    match read.text with
    | .ok text => Descriptor.events parse config.strategy text
    | .error _ => []

/-- The events of a scan, up to where it ends. -/
def scanEvents (parse : Script.Parser) (config : Config) : Environment → List ReadCandidate → List Event
  | _, [] => []
  | env, read :: rest =>
    recognitionEvents parse config read ++
      match config.failurePolicy, Finding.of parse config read with
      | _, .error _ => []
      | .abort, .ok (.unreadable _) => []
      | _, .ok finding =>
        env.events read.candidate finding ++ scanEvents parse config (env.add read.candidate finding) rest

/-- How a scan ended. -/
def verdict (env : Environment) : Event :=
  if env.isValid then
    .info .scan ("recognized project at " ++ env.root ++ " (" ++ toString env.aliases.size ++
      " route alias(es))")
  else .info .scan ("no angular-typescript-seed descriptor under " ++ env.root)

end Environment

end SeedNavigator
