import SeedNavigator.Command.Run
import SeedNavigator.Proofs.Project.Completion
import SeedNavigator.Proofs.Project.Scan

/-! The members of a controller reach the user on two ways. Completion in a view goes from the path of the view
to the controller and its alias; the command that prints members is given the controller itself. Both choose
the class by the same key and find the same type by its name, so they show the same members. -/
namespace SeedNavigator

open Work

namespace Command

variable {host : Host Id} {α : Type} {settings : Settings} {action : Action} {project : Project}
  {root document controller className : String} {outline : Outline} {type : TypeDefinition} {stop : Stop Error}

/-- Where a document of a command is looked for. -/
def place (host : Host Id) (root document : String) : String :=
  Path.join (Path.join host.workingDirectory.run root) document

/-- How the members of a type are printed. -/
def printed (type : TypeDefinition) (asJson : Bool) : Report :=
  if asJson then jsonReport (.array (type.publicMembers.map Member.toJson))
  else .lines (type.name :: type.publicMembers.map memberLine)

/-- What the command for members comes to, once the file has been read for the class. -/
def answer (path : String) (asJson : Bool) : Except Error (Outline × String) → Except Failure Report
  | .error error => .error (.ofError error)
  | .ok (outline, className) =>
    match outline.find? className with
    | none => .error ⟨"class " ++ className ++ " not found in " ++ path, []⟩
    | some type => .ok (printed type asJson)

/-- What a command comes to for its user, apart from events. -/
def reportOf (result : Except (Stop Failure) Report) : Report :=
  match result with
  | .ok report => report
  | .error stop => .ofStop stop

/-- The class of a controller, by the bare name of its file. -/
def classOf (host : Host Id) (project : Project) (controller : String) :
    Except (Stop Error) (Outline × String) :=
  result (Outline.ofController host controller (Path.stem controller project.config.controllerSuffix))

def appSource : String :=
  "class AngularApp .controllersBasePath = \"c\"; viewsBasePath = \"v\";"

def usersSource : String :=
  "class Users \x7b load() \x7b\x7d \x7d"

/-- A machine with a controller below `/c`, and elsewhere nothing but the source of an application. -/
def usersHost : Host Id where
  isDirectory _ := true
  isFile path := decide (path = "/c/users.controller.ts")
  readBytes path := .ok (if path = "/c/users.controller.ts" then usersSource else appSource).toUTF8
  list _ := .directory [("app.ts", .file 70)]
  workingDirectory := "/"

def usersProject : Project where
  config := { strategy := .textual }
  environment :=
    { root := "/", basePaths := some ⟨"c", "v"⟩, sources := [⟨"src/app/app.ts", .mainDescriptor⟩] }

def usersMapper : Mapper :=
  ⟨⟨"c", ".controller.ts"⟩, ⟨"v", ".html"⟩⟩

end Command

end SeedNavigator
