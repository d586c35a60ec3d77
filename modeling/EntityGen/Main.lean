import EntityGen.Command.Session
import Std.Time.DateTime.Timestamp

/-!
# The command

Runs a command session in the outer world and prints its result.
-/
namespace EntityGen.Main

/-- The number and text of an error of the operating system. -/
def errorParts : IO.Error → Option (UInt32 × String)
  | .alreadyExists _ code details | .otherError code details | .resourceBusy code details
  | .resourceVanished code details | .unsupportedOperation code details
  | .hardwareFault code details | .unsatisfiedConstraints code details
  | .illegalOperation code details | .protocolError code details | .timeExpired code details
  | .interrupted _ code details | .noFileOrDirectory _ code details
  | .invalidArgument _ code details | .permissionDenied _ code details
  | .resourceExhausted _ code details | .inappropriateType _ code details
  | .noSuchThing _ code details => some (code, details)
  | .unexpectedEof | .userError _ => none

/-- The positive number of an error; some operations give the negative one. -/
def errorNumber (code : UInt32) : Nat :=
  if code.toNat < 0x80000000 then code.toNat else UInt32.size - code.toNat

/-- The texts of frequent errors by their numbers. -/
def errorTexts : List (Nat × String) :=
  [(2, "No such file or directory"), (13, "Permission denied"), (17, "File exists"),
    (20, "Not a directory"), (21, "Is a directory"), (36, "File name too long")]

/-- The text of an error of the operating system. -/
def errorText (error : IO.Error) : String :=
  match errorParts error with
  | some (code, details) =>
    let number := errorNumber code
    (errorTexts.lookup number).getD details ++ " (os error " ++ toString number ++ ")"
  | none => toString error

/-- Does something that may fail for reasons of the operating system. -/
def attempt {α : Type} (act : IO α) : IO (Except String α) := do
  match ← act.toBaseIO with
  | .ok value => return .ok value
  | .error error => return .error (errorText error)

/-- Access to the files of the machine. -/
def files : FileAccess IO where
  read path := do
    match ← attempt (IO.FS.readBinFile path.text) with
    | .error reason => return .error reason
    | .ok bytes =>
      match String.fromUTF8? bytes with
      | some text => return .ok text
      | none => return .error "stream did not contain valid UTF-8"
  makeDirectories path := attempt (IO.FS.createDirAll path.text)
  write path contents := attempt (IO.FS.writeFile path.text contents)

/-- The present moment. -/
def now : IO Instant := do
  return ⟨(← Std.Time.Timestamp.now).toNanosecondsSinceUnixEpoch.val⟩

/-- Two hexadecimal digits of a byte. -/
def hexByte (byte : UInt8) : String :=
  String.ofList [Nat.digitChar (byte.toNat / 16), Nat.digitChar (byte.toNat % 16)]

/-- A random name in the form of a UUID of version 4. -/
def runId : IO String := do
  let bytes := (← IO.getRandomBytes 16).toList
  let marked := bytes.mapIdx fun index byte =>
    if index == 6 then byte &&& 0x0f ||| 0x40
    else if index == 8 then byte &&& 0x3f ||| 0x80
    else byte
  return String.join (marked.mapIdx fun index byte =>
    (if [4, 6, 8, 10].contains index then "-" else "") ++ hexByte byte)

/-- The number of processor cores that the system lists. -/
def cores : IO Nat := do
  match ← attempt (IO.FS.readFile "/proc/cpuinfo") with
  | .error _ => return 1
  | .ok text => return ((text.splitOn "\n").filter (·.startsWith "processor")).length

/-- The machine as the surroundings of a command. -/
def host : Command.Host IO where
  files
  now
  runId
  cores

end EntityGen.Main

/-- Runs a command and gives its exit code. -/
def main (words : List String) : IO UInt32 := do
  let result ← EntityGen.Command.run EntityGen.Main.host words
  for warning in result.warnings do
    IO.eprintln ("WARN " ++ warning.message)
  for line in result.output do
    IO.println line
  if let some fault := result.fault then
    IO.eprintln fault.report
  if let some message := result.breakdown then
    IO.eprintln message
  return UInt32.ofNat result.exitCode
