import SeedNavigator.Config.Validity
import SeedNavigator.Environment.Scan
import SeedNavigator.Files.Host
import SeedNavigator.Path.Mapping

/-! A project that has been opened: its settings and the environment that a scan of it has found. -/
namespace SeedNavigator

structure Project where
  config : Config
  environment : Environment
  deriving DecidableEq, Repr

namespace Project

def isValid (project : Project) : Bool :=
  project.environment.isValid

/-- Controllers and views, by the base paths of an environment and the suffixes of the settings. -/
def mapper (project : Project) : Except Error Mapper :=
  match project.environment.basePaths with
  | some paths =>
    .ok ⟨⟨paths.controllers, project.config.controllerSuffix⟩,
      ⟨paths.views, project.config.viewSuffix⟩⟩
  | none => .error .basePathsUnresolved

variable {m : Type → Type} [Monad m]

def requireRoot (host : Host m) (root : String) : Work m Unit := do
  unless ← Work.ask (host.isDirectory root) do Work.fail (.noProjectRoot root)

/-- The files under a root that a glob selects. -/
def candidates (host : Host m) (root glob : String) : Work m (List Candidate) := do
  requireRoot host root
  let parsed ← Work.settle (Config.parseGlob glob)
  let start := Candidate.startDirectory root glob
  if ← Work.ask (host.isDirectory start) then
    return Candidate.select root parsed start (← Work.ask (host.list start))
  else
    Work.tell [.debug .candidates ("candidate directory " ++ start ++ " does not exist")]
    return []

/-- A candidate that is too large is not read, since its text does not count. -/
def readCandidate (host : Host m) (config : Config) (candidate : Candidate) :
    Work m ReadCandidate := do
  if config.maxFileSize < candidate.size then return ⟨candidate, .ok ""⟩
  else return ⟨candidate, ← Work.ask (host.readText candidate.path)⟩

/-- Scans the candidates under a root. -/
def scan (host : Host m) (config : Config) (root : String) : Work m Environment := do
  requireRoot host root
  let candidates ← candidates host root config.candidateGlob
  Work.tell [.debug .scan ("scanning " ++ toString candidates.length ++ " candidate(s) matching " ++
    config.candidateGlob)]
  let reads ← candidates.mapM (readCandidate host config)
  Work.tell (Environment.scanEvents host.parse config { root } reads)
  let environment ← Work.conclude (Environment.resolve host.parse config root reads)
  Work.tell [environment.verdict]
  return environment

/-- Settings that nothing can work with are refused before the scan. -/
def openAt (host : Host m) (root : String) (config : Config) : Work m Project := do
  Work.settle config.validate
  return ⟨config, ← scan host config root⟩

def loadConfig (host : Host m) (path : String) : Work m Config := do
  Work.settle (Config.ofText (← Work.readText host path))

/-- The settings of a project; without a settings file all have their defaults. -/
def discoverConfig (host : Host m) (root : String) : Work m Config := do
  let path := Path.join root Config.fileName
  if ← Work.ask (host.isFile path) then
    Work.tell [.debug .settings ("loading config from " ++ path)]
    loadConfig host path
  else return {}

/-- The settings from a given file, or those of the project. -/
def configFor (host : Host m) (root : String) (file : Option String) : Work m Config :=
  match file with
  | some path => loadConfig host path
  | none => discoverConfig host root

def discover (host : Host m) (root : String) (file : Option String) : Work m Project := do
  openAt host root (← configFor host root file)

end Project

end SeedNavigator
