import SeedNavigator.Command.Run

/-! The program on a real machine. -/
namespace SeedNavigator.Machine

/-- The number and the text that the system gives for a failure. -/
def numbered? : IO.Error → Option (UInt32 × String)
  | .alreadyExists _ code text | .invalidArgument _ code text | .permissionDenied _ code text
  | .resourceExhausted _ code text | .inappropriateType _ code text | .noSuchThing _ code text
  | .noFileOrDirectory _ code text | .interrupted _ code text | .otherError code text
  | .resourceBusy code text | .resourceVanished code text | .unsupportedOperation code text
  | .hardwareFault code text | .unsatisfiedConstraints code text | .illegalOperation code text
  | .protocolError code text | .timeExpired code text => some (code, text)
  | .unexpectedEof | .userError _ => none

def readFault (error : IO.Error) : ReadFault :=
  match numbered? error with
  | none => .other (toString error)
  | some (code, text) =>
    if code = 2 then .missing
    else if code = 20 then .notDirectory
    else if code = 21 then .isDirectory
    else if code = 40 then .tooManyLinks
    else .other (text ++ " (os error " ++ toString code ++ ")")

/-- The path as the library of the system takes it. -/
def place (path : String) :=
  (IO.FS.DirEntry.mk path "").root

def readBytes (path : String) : IO (Except ReadFault ByteArray) := do
  try return .ok (← IO.FS.readBinFile path)
  catch error => return .error (readFault error)

def isFile (path : String) : IO Bool := do
  try return (← (place path).metadata).type == .file
  catch _ => return false

/-- What cannot be looked at is passed over. -/
partial def listing (path : String) : IO Listing := do
  try
    let entries ← (place path).readDir
    return .directory (← entries.toList.mapM fun entry => do
      let below := Path.join path entry.fileName
      let info ← (place below).symlinkMetadata
      match info.type with
      | .dir => return (entry.fileName, ← listing below)
      | .file => return (entry.fileName, .file info.byteSize.toNat)
      | _ => return (entry.fileName, .other))
  catch _ => return .other

def host : Host IO where
  isDirectory path := (place path).isDir
  isFile := isFile
  readBytes := readBytes
  list := listing
  workingDirectory := return (← IO.currentDir).toString

end SeedNavigator.Machine

/-- Events and notes go to the error stream, the output to the other one. -/
def main (arguments : List String) : IO UInt32 := do
  let report ← SeedNavigator.Command.respond SeedNavigator.Machine.host
    (← IO.getEnv "RUST_LOG") arguments
  for event in report.events do
    IO.eprintln (event.level.name ++ " " ++ event.message)
  for note in report.notes do
    IO.eprintln note
  IO.print report.output
  return report.code.toUInt32
