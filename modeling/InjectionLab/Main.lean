import InjectionLab.Cli.Program
import Std.Time.DateTime.Timestamp

/-!
The program: gathers what a run may look at, and prints what the run gives.
-/
namespace InjectionLab.Cli

/-- Some codes come with a minus sign. -/
def systemError (code : UInt32) (details : String) : FileError :=
  match min code.toNat (-code).toNat with
  | 2 => .notFound
  | 13 => .permissionDenied
  | 17 => .alreadyExists
  | 20 => .notDirectory
  | 21 => .isDirectory
  | 36 => .nameTooLong
  | code => .other (details.capitalize ++ " (os error " ++ toString code ++ ")")

def fileError : IO.Error → FileError
  | .noFileOrDirectory _ code details | .interrupted _ code details => systemError code details
  | .alreadyExists _ code details | .invalidArgument _ code details
  | .permissionDenied _ code details | .resourceExhausted _ code details
  | .inappropriateType _ code details | .noSuchThing _ code details => systemError code details
  | .otherError code details | .resourceBusy code details | .resourceVanished code details
  | .unsupportedOperation code details | .hardwareFault code details
  | .unsatisfiedConstraints code details | .illegalOperation code details
  | .protocolError code details | .timeExpired code details => systemError code details
  | .unexpectedEof => .other "unexpected end of file"
  | .userError message => .other message

def readFile (path : OsString) : IO (OsString × Bool × Except FileError ByteArray) := do
  let name := path.shown
  if name.toList.contains '\x00' then return (path, false, .error .nulInName)
  let present ← try
      discard (IO.FS.realPath name)
      pure true
    catch _ => pure false
  try
    return (path, present, .ok (← IO.FS.readBinFile name))
  catch e =>
    return (path, present, .error (fileError e))

def viewOf (found : List (OsString × Bool × Except FileError ByteArray)) : FileView where
  present path := (found.lookup path).any Prod.fst
  content path := ((found.lookup path).map Prod.snd).getD (.error .notFound)

def readEnvironment : IO Environment := do
  let values ← variableNames.mapM fun name => do return (name, ← IO.getEnv name)
  let texts : String → Option String := fun name => (values.lookup name).join
  return texts

def readStdin : IO ByteArray := do
  let stdin ← IO.getStdin
  let mut content := ByteArray.empty
  repeat
    let chunk ← stdin.read 65536
    if chunk.isEmpty then break
    content := content ++ chunk
  return content

def clock : IO Timestamp := do
  let moment ← Std.Time.Timestamp.now
  return .ofUnix moment.val.second.val.toNat moment.val.nano.val.toNat

def program (arguments : List String) : IO UInt32 := do
  let env ← readEnvironment
  let request := Request.ofArguments (env Config.pathVariable) arguments
  let found ← (request.files env).mapM readFile
  let stdin ← if request.readsStdin then readStdin else pure ByteArray.empty
  let terminal ← (← IO.getStdout).isTty
  let response := runRequest ⟨env, viewOf found, stdin, terminal, ← clock⟩ request
  IO.print response.stdout
  if let some message := response.error then IO.eprintln message
  return response.exit.toUInt32

end InjectionLab.Cli

def main (arguments : List String) : IO UInt32 := InjectionLab.Cli.program arguments
