import Std.Time.DateTime.Timestamp
import TeenyTiny.Command.Clock
import TeenyTiny.Command.Run

/-!
# The program

The command line on the files of the system.
-/

namespace TeenyTiny

/-- The reason for which the system refuses a file. -/
def fileFaultOf : IO.Error → FileFault
  | .noFileOrDirectory _ _ _ => .notFound
  | .inappropriateType _ code details =>
      if code = 21 then .isDirectory
      else if code = 20 then .notDirectory
      else .other details
  | .invalidArgument _ code details =>
      if code = 36 then .nameTooLong else .other details
  | .resourceBusy _ _ => .busy
  | error => .other (toString error)

/-- The path from the root of a new file in the directory of the file at a
path. -/
def scratchPath (working path : String) (mark : Nat) : String :=
  (((Path.mk path).folder.startingAt ⟨working⟩).child
    (".tmp" ++ toString mark)).text

def readSystemFile (path : String) : IO (Except FileFault String) := do
  match ← (IO.FS.readBinFile path).toBaseIO with
  | .error error => return .error (fileFaultOf error)
  | .ok bytes =>
      match String.fromUTF8? bytes with
      | some text => return .ok text
      | none => return .error .notText

/-- Gives a new file the usual permissions and a path.  A file that has the path
already is written over only then, and keeps its permissions. -/
def settleSystemFile (scratch path text : String) : IO Unit := do
  match ← (IO.FS.readBinFile path).toBaseIO with
  | .ok _ =>
      IO.FS.writeFile path text
      IO.FS.removeFile scratch
  | .error _ =>
      let readOnly : IO.AccessRight := ⟨true, false, false⟩
      IO.setAccessRights scratch ⟨⟨true, true, false⟩, readOnly, readOnly⟩
      IO.FS.rename scratch path

def replaceSystemFile (path text : String) : IO (Except FileFailure Unit) := do
  let working := toString (← IO.currentDir)
  let scratch := scratchPath working path (← IO.monoNanosNow)
  let failed (error : IO.Error) (place : Option String) := do
    discard (IO.FS.removeFile scratch).toBaseIO
    return .error ⟨fileFaultOf error, place⟩
  match ← (IO.FS.writeFile scratch text).toBaseIO with
  | .error error => failed error (some (quoteText scratch))
  | .ok () =>
      match ← (settleSystemFile scratch path text).toBaseIO with
      | .error error => failed error none
      | .ok () => return .ok ()

/-- The files of the system as a store. -/
def systemStore : Store IO where
  read := readSystemFile
  replace := replaceSystemFile

def systemEnvironment : IO Environment := do
  let output ← IO.getEnv "TEENY_OUTPUT"
  let indent ← IO.getEnv "TEENY_INDENT"
  return ⟨output, indent, ← IO.getEnv "RUST_LOG"⟩

end TeenyTiny

/-- Runs the program on the arguments of its command line. -/
def main (arguments : List String) : IO UInt32 := do
  let now ← Std.Time.Timestamp.now
  let time := TeenyTiny.timeText now.toSecondsSinceUnixEpoch.val.toNat
  let environment ← TeenyTiny.systemEnvironment
  let outcome ←
    TeenyTiny.runCommand TeenyTiny.systemStore environment time arguments
  (← IO.getStderr).putStr outcome.errors
  (← IO.getStdout).putStr outcome.output
  return outcome.exitCode.toUInt32
