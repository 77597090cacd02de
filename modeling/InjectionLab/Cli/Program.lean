import InjectionLab.Cli.Arguments
import InjectionLab.Cli.Script
import InjectionLab.Config.Load
import InjectionLab.Session

/-!
The program as a function from what it is started with to what it prints. Every run starts from the
seeded store.
-/
namespace InjectionLab.Cli

structure Surroundings where
  env : Environment
  files : FileView
  stdin : ByteArray
  /-- Whether output goes to a terminal. -/
  terminal : Bool
  now : Timestamp

structure Response where
  exit : Nat
  stdout : String
  error : Option String
deriving DecidableEq, Repr

inductive Failure where
  | config (cause : ConfigError)
  | opening (path : String) (cause : FileError)
  | reading (cause : FileError)
deriving DecidableEq, Repr

/-- Further lines of a cause are indented like its first one. -/
def indented (text : String) : String :=
  String.ofList (text.toList.flatMap fun c => if c = '\n' then ['\n', ' ', ' ', ' ', ' '] else [c])

def causedBy (what cause : String) : String :=
  "Error: " ++ what ++ "\n\nCaused by:\n    " ++ indented cause

def Failure.message : Failure → String
  | config cause => causedBy "loading configuration" cause.message
  | opening path cause => causedBy ("opening " ++ path) cause.message
  | reading cause => "Error: " ++ cause.message

def succeed (stdout : String) : Response := ⟨0, stdout, none⟩

def fail (stdout : String) (failure : Failure) : Response := ⟨1, stdout, some failure.message⟩

def versionText : String := "sqli-sim 0.1.0\n"

def usageText : String :=
  "Usage: sqli-sim [--config FILE] [--format table|json] COMMAND\n\n" ++
  "Commands:\n" ++
  "  query SQL      Fetch every row of a statement\n" ++
  "  get SQL        Fetch the first row of a statement\n" ++
  "  run SQL        Execute a mutating statement\n" ++
  "  script [FILE]  Execute one statement per line against the same store\n" ++
  "  stats          Show row counts of the seeded store\n"

def runScript (now : Timestamp) (medium : Medium) (content : ByteArray) : Response :=
  let (readable, whole) := readableStatements content
  let stdout := scriptReport now medium (.seeded now) readable
  if whole then succeed stdout else fail stdout (.reading .invalidUtf8)

/-- A directory can be opened, but not read. -/
def runScriptFile (around : Surroundings) (medium : Medium) (path : String) : Response :=
  match around.files.content path with
  | .ok content => runScript around.now medium content
  | .error .isDirectory => fail "" (.reading .isDirectory)
  | .error cause => fail "" (.opening path cause)

def runCommand (around : Surroundings) (medium : Medium) : Command → Response
  | .query sql =>
    succeed (rowReport medium (execute around.now sql (.seeded around.now)).outcome.rowList)
  | .get sql =>
    succeed (firstRowReport medium
      (execute around.now sql (.seeded around.now)).outcome.rowList.head?)
  | .run sql =>
    succeed (runReport medium (execute around.now sql (.seeded around.now)).outcome.runResult)
  | .script none => runScript around.now medium around.stdin
  | .script (some path) => runScriptFile around medium path
  | .stats => succeed (countReport medium (Store.seeded around.now).counts)

def runConfigured (around : Surroundings) (options : Options) (command : Command) : Response :=
  match Config.load around.files around.env options.config with
  | .error cause => fail "" (.config cause)
  | .ok c =>
    let medium : Medium :=
      ⟨options.format.getD c.output, usesColor around.env around.terminal⟩
    runCommand around medium command

def runRequest (around : Surroundings) : Request → Response
  | .command command options => runConfigured around options command
  | .version => succeed versionText
  | .help => succeed usageText
  | .misuse => ⟨2, "", some usageText⟩

def Request.files (env : Environment) : Request → List OsString
  | .command asked options =>
    let config := (options.config.or ((env "HOME").map Config.homeFile)).toList
    match asked with
    | .script (some path) => config ++ [.ofText path]
    | _ => config
  | _ => []

def Request.readsStdin : Request → Bool
  | .command (.script none) _ => true
  | _ => false

def variableNames : List String :=
  [Config.pathVariable, Config.logVariable, Config.outputVariable, "HOME", "CLICOLOR_FORCE",
    "NO_COLOR", "CLICOLOR"]

def run (around : Surroundings) (arguments : List String) : Response :=
  runRequest around (.ofArguments (around.env Config.pathVariable) arguments)

end InjectionLab.Cli
