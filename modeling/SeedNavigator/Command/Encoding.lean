import SeedNavigator.Completion.Suggestions
import SeedNavigator.Environment.Basic
import SeedNavigator.Json.Value

/-! How answers are written as JSON: fields in a fixed order, and a detail that is not known left
out. -/
namespace SeedNavigator

namespace Json

/-- The field of a text, if there is one. -/
def textField? (name : String) (text : Option String) : List (String × Json) :=
  text.toList.map fun text => (name, .string text)

end Json

def BasePaths.toJson (paths : BasePaths) : Json :=
  .object [("controllers", .string paths.controllers), ("views", .string paths.views)]

def Outcome.toJson : Outcome → Json
  | .mainDescriptor => .object [("kind", .string "main-descriptor")]
  | .routes count => .object [("kind", .string "routes"), ("count", .number count)]
  | .noMatch => .object [("kind", .string "no-match")]
  | .unreadable message =>
    .object [("kind", .string "unreadable"), ("message", .string message)]

def ScannedSource.toJson (source : ScannedSource) : Json :=
  .object [("path", .string source.path), ("outcome", source.outcome.toJson)]

def Aliases.toJson (table : Aliases) : Json :=
  .object (table.entries.map fun (route, name) => (route, .string name))

namespace Environment

def jsonFields (env : Environment) : List (String × Json) :=
  [("root", .string env.root),
    ("base_paths", (env.basePaths.map BasePaths.toJson).getD .null),
    ("route_aliases", env.aliases.toJson),
    ("sources", .array (env.sources.map ScannedSource.toJson))]

def toJson (env : Environment) : Json :=
  .object env.jsonFields

end Environment

def Member.toJson (member : Member) : Json :=
  .object ([("name", .string member.name),
      ("kind", .string member.kind.name),
      ("scope", .string member.access.name),
      ("is_static", .bool member.isStatic)] ++
    Json.textField? "type_name" member.declaredType ++
    Json.textField? "detail" member.signature)

def Completion.Suggestion.toJson (suggestion : Completion.Suggestion) : Json :=
  .object ([("label", .string suggestion.label), ("kind", .string suggestion.kind.name)] ++
    Json.textField? "detail" suggestion.detail ++
    [("is_static", .bool suggestion.isStatic)])

end SeedNavigator
