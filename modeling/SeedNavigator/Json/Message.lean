import SeedNavigator.Decimal.Shortest
import SeedNavigator.Json.Fault
import SeedNavigator.Text.Debug

/-! The wording of faults in JSON texts. -/
namespace SeedNavigator.Json

def inBackquotes (text : String) : String :=
  "\x60" ++ text ++ "\x60"

def Number.message : Number → String
  | .natural value => "integer " ++ inBackquotes (toString value)
  | .negative size => "integer " ++ inBackquotes ("-" ++ toString size)
  | .real value => "floating point " ++ inBackquotes (Decimal.floatText value)

def Found.message : Found → String
  | .null => "null"
  | .boolean value => "boolean " ++ inBackquotes (if value then "true" else "false")
  | .number value => value.message
  | .string value => "string " ++ Text.inQuotes value
  | .list => "sequence"
  | .map => "map"

def oneOf (names : List String) : String :=
  match names with
  | [] => "nothing"
  | [one] => inBackquotes one
  | [one, two] => inBackquotes one ++ " or " ++ inBackquotes two
  | names => "one of " ++ ", ".intercalate (names.map inBackquotes)

def Fault.message : Fault → String
  | .endInList => "EOF while parsing a list"
  | .endInObject => "EOF while parsing an object"
  | .endInString => "EOF while parsing a string"
  | .endInValue => "EOF while parsing a value"
  | .expectedColon => "expected " ++ inBackquotes ":"
  | .expectedListEnd => "expected " ++ inBackquotes "," ++ " or " ++ inBackquotes "]"
  | .expectedObjectEnd => "expected " ++ inBackquotes "," ++ " or " ++ inBackquotes "\x7d"
  | .expectedWord => "expected ident"
  | .expectedValue => "expected value"
  | .invalidEscape => "invalid escape"
  | .invalidNumber => "invalid number"
  | .hugeNumber => "number out of range"
  | .controlCharacter => "control character (\\u0000-\\u001F) found while parsing a string"
  | .bareKey => "key must be a string"
  | .loneSurrogate => "lone leading surrogate in hex escape"
  | .halfSurrogate => "unexpected end of hex escape"
  | .trailingComma => "trailing comma"
  | .trailingText => "trailing characters"
  | .wrongType found expected => "invalid type: " ++ found.message ++ ", expected " ++ expected
  | .wrongValue found expected => "invalid value: " ++ found.message ++ ", expected " ++ expected
  | .unknownChoice name choices =>
    "unknown variant " ++ inBackquotes name ++ ", expected " ++ oneOf choices
  | .repeatedField name => "duplicate field " ++ inBackquotes name

def Located.message (located : Located) : String :=
  located.fault.message ++ " at line " ++ toString located.line ++ " column " ++
    toString located.column

end SeedNavigator.Json
