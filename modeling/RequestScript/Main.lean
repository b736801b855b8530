import RequestScript.Command
import Std.Time.DateTime.Timestamp

open RequestScript

/-- The number and the words under which the system reports an error. -/
def codeAndWords : IO.Error → Option (UInt32 × String)
  | .alreadyExists _ code words => some (code, words)
  | .otherError code words => some (code, words)
  | .resourceBusy code words => some (code, words)
  | .resourceVanished code words => some (code, words)
  | .unsupportedOperation code words => some (code, words)
  | .hardwareFault code words => some (code, words)
  | .unsatisfiedConstraints code words => some (code, words)
  | .illegalOperation code words => some (code, words)
  | .protocolError code words => some (code, words)
  | .timeExpired code words => some (code, words)
  | .interrupted _ code words => some (code, words)
  | .noFileOrDirectory _ code words => some (code, words)
  | .invalidArgument _ code words => some (code, words)
  | .permissionDenied _ code words => some (code, words)
  | .resourceExhausted _ code words => some (code, words)
  | .inappropriateType _ code words => some (code, words)
  | .noSuchThing _ code words => some (code, words)
  | .unexpectedEof => none
  | .userError _ => none

def fileError (error : IO.Error) : FileError :=
  match codeAndWords error with
  | some (2, _) => .notFound
  | some (17, _) => .alreadyExists
  | some (20, _) => .notADirectory
  | some (21, _) => .isADirectory
  | some (36, _) => .nameTooLong
  | some (code, words) => .other s!"{words} (os error {code})"
  | none => .other error.toString

def attempt {α : Type} (action : IO α) : IO (Except FileError α) := do
  try
    return .ok (← action)
  catch error =>
    return .error (fileError error)

def currentInstant : IO Instant := do
  let time ← Std.Time.Timestamp.now
  let nanos := time.toNanosecondsSinceUnixEpoch.val
  match Instant.ofParts? (nanos / 1000000000) (nanos % 1000000000).toNat with
  | some instant => return instant
  | none => throw (IO.userError "the time of the system has no date")

/-- What the system has at a path. -/
def kindAt? (path : FilePath) : IO (Option IO.FS.FileType) := do
  match ← attempt (System.mkFilePath [path.toString]).metadata with
  | .ok metadata => return some metadata.type
  | .error _ => return none

/-- Asks the system itself. -/
def respond : (request : HostRequest) → IO request.Answer
  | .now => currentInstant
  | .read path => attempt (do return (← IO.FS.readBinFile path.toString).toList)
  | .create path => attempt (do let _ ← IO.FS.Handle.mk path.toString .write)
  | .write path bytes => attempt do
    let handle ← IO.FS.Handle.mk path.toString .append
    handle.write bytes.toByteArray
  | .flush _ => return .ok ()
  | .rename source target => attempt (IO.FS.rename source.toString target.toString)
  | .remove path => attempt (IO.FS.removeFile path.toString)
  | .makeDirectory path => attempt (IO.FS.createDir path.toString)
  | .isThere path => do return (← kindAt? path).isSome
  | .isFile path => do return (← kindAt? path) == some .file
  | .isDirectory path => do return (← kindAt? path) == some .dir

def main (arguments : List String) : IO UInt32 := do
  let tag := hexOfBytes (← IO.getRandomBytes 16).toList
  let outcome ← (Command.run tag arguments).perform respond
  let output ← IO.getStdout
  output.write outcome.output.toByteArray
  output.flush
  let errors ← IO.getStderr
  errors.putStr outcome.errors
  return UInt32.ofNat outcome.code
