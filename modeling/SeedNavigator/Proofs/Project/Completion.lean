import SeedNavigator.Project.Templates
import SeedNavigator.Proofs.Completion.Context
import SeedNavigator.Proofs.Files.Work
import SeedNavigator.Proofs.Outline.Lookup

/-! Completion right behind the alias of a controller. What a view gets is said without the machine: the file of
the controller is read once, its class is chosen by its key, and all public members of the type that is found
by the name of the class are offered. -/
namespace SeedNavigator

open Work

variable {host : Host Id}

/-! ### The class of a controller -/

namespace Outline

variable {parse : Script.Parser} {outline : Outline} {path text key className : String}
  {content : Except ReadFault String}

/-- The outline of what reading a file gives. -/
def outlineIn (parse : Script.Parser) (path : String) (content : Except ReadFault String) : Except Error Outline :=
  match content with
  | .error fault => .error (.unreadable fault)
  | .ok text => ofText parse path text

/-- The class for a key in what reading a file gives. -/
def classIn (parse : Script.Parser) (path key : String) (content : Except ReadFault String) :
    Except Error (Outline × String) :=
  match outlineIn parse path content with
  | .error error => .error error
  | .ok outline =>
    match outline.controllerClass? key with
    | some type => .ok (outline, type.name)
    | none => .error (.classNotFound key path)

theorem exec_ofFile (host : Host Id) (path : String) (told : List Event) : exec (ofFile host path) told =
    ((outlineIn host.parse path (host.readText path).run).mapError Stop.failed, told) := by
  have read := exec_readText host path told
  rw [ofFile]
  cases content : (host.readText path).run with
  | error fault =>
    rw [content] at read
    rw [exec_bind_of_error read]
    rfl
  | ok text =>
    rw [content] at read
    rw [exec_bind_of_ok read, exec_settle, outlineIn]

theorem exec_ofController (host : Host Id) (path key : String) (told : List Event) :
    exec (ofController host path key) told =
      ((classIn host.parse path key (host.readText path).run).mapError Stop.failed, told) := by
  have outlined := exec_ofFile host path told
  rw [ofController, classIn]
  cases found : outlineIn host.parse path (host.readText path).run with
  | error error =>
    rw [found] at outlined
    rw [exec_bind_of_error outlined]
    rfl
  | ok outline =>
    rw [found] at outlined
    rw [exec_bind_of_ok outlined]
    cases chosen : outline.controllerClass? key with
    | some type => simp only [chosen]; rfl
    | none => simp only [chosen]; rfl

end Outline

namespace Completion

variable {name before className : String} {outline : Outline} {type : TypeDefinition}

end Completion

namespace Templates

variable {mapper : Mapper} {view controller : String}

theorem exec_controllerFor (paired : result (controllerFor host mapper view) = .ok controller)
    (told : List Event) : exec (controllerFor host mapper view) told = (.ok controller, told) := by
  rw [result_eq_exec, controllerFor] at paired
  rw [controllerFor]
  cases counterpart : mapper.toController view with
  | unchanged path =>
    rw [counterpart] at paired
    contradiction
  | mapped source target =>
    simp only [counterpart] at paired ⊢
    rw [exec_bind_of_ok (exec_ask _ _)] at paired ⊢
    cases isFile : (host.isFile target).run with
    | false =>
      rw [isFile] at paired
      contradiction
    | true =>
      rw [isFile] at paired
      obtain rfl := Except.ok.inj paired
      rfl

theorem exec_checkAlias_of_refused {name message : String} (refused : host.patternFault? name = some message)
    (told : List Event) : exec (checkAlias host name) told = (.error (.failed (.invalidPattern message)), told) := by
  simp only [checkAlias, refused, exec_fail]

/-- An alias whose pattern the library refuses ends completion, once the class of the controller is found. -/
theorem result_complete_of_refused (project : Project) (text : String) (offset : Nat) {named : Outline × String}
    {message : String} (paired : result (controllerFor host mapper view) = .ok controller)
    (found : Outline.classIn host.parse controller (mapper.classKey controller) (host.readText controller).run =
      .ok named) (refused : host.patternFault? (aliasFor project mapper controller) = some message) :
    result (complete host project mapper view text offset) = .error (.failed (.invalidPattern message)) := by
  have chosen := Outline.exec_ofController host controller (mapper.classKey controller) []
  rw [found] at chosen
  rw [result_eq_exec, complete, exec_bind_of_ok (exec_controllerFor paired []), exec_bind_of_ok chosen,
    exec_bind_of_error (exec_checkAlias_of_refused refused _)]

end Templates

end SeedNavigator
