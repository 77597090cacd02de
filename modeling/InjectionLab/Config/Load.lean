import InjectionLab.Config.Text

/-!
Finding and loading a configuration. The first source that applies is the only one that counts: the
path on the command line, the path in the environment, the default file if it is there, and last the
built-in defaults. A chosen file that cannot be used is an error.
-/
namespace InjectionLab.Config

def pathVariable : String := "SQLI_SIM_CONFIG"

def logVariable : String := "SQLI_SIM_LOG"

def outputVariable : String := "SQLI_SIM_OUTPUT"

def within (directory : OsString) (name : String) : OsString :=
  let slash := '/'.toUInt8
  if directory.bytes = [] ∨ directory.bytes.getLast? = some slash then
    ⟨directory.bytes ++ (OsString.ofText name).bytes⟩
  else ⟨directory.bytes ++ slash :: (OsString.ofText name).bytes⟩

def homeFile (home : OsString) : OsString := within (within home ".sqli-sim") "config.json"

/-- The default file as it is shown, if there is a home directory. -/
def defaultFile? (env : Environment) : Option String :=
  (env "HOME").map fun home => (homeFile home).shown

def source? (view : FileView) (env : Environment) (explicit : Option OsString) : Option OsString :=
  explicit.or ((env pathVariable).or (((env "HOME").map homeFile).filter view.present))

def fromFile (view : FileView) (path : OsString) : Except ConfigError Config :=
  match view.readText path with
  | .error cause => .error (.unreadable path cause)
  | .ok text =>
    match parse? text with
    | some c => .ok c
    | none => .error (.invalid path)

def isBlankText (text : String) : Bool := (Text.trim text.toList).isEmpty

/-- Applies a log filter, unless it is blank, and then an output format. A format that is not known
    is reported, and the filter stays applied. -/
def applyOverrides (logFilter output : Option String) (c : Config) : Config × Option ConfigError :=
  let c :=
    match logFilter with
    | some text => if isBlankText text then c else { c with logFilter := text }
    | none => c
  match output with
  | none => (c, none)
  | some text =>
    match OutputFormat.parse text with
    | .ok format => ({ c with output := format }, none)
    | .error e => (c, some e)

/-- A file that is chosen has to be usable. Overrides that are not text are passed over. -/
def load (view : FileView) (env : Environment) (explicit : Option OsString) :
    Except ConfigError Config :=
  let chosen :=
    match source? view env explicit with
    | some path => fromFile view path
    | none => .ok default
  match chosen with
  | .error e => .error e
  | .ok c =>
    match c.applyOverrides (env.text? logVariable) (env.text? outputVariable) with
    | (c, none) => .ok c
    | (_, some e) => .error e

def save (c : Config) (cwd : Location) (path : String) (t : FileTree) :
    Except ConfigError FileTree :=
  match t.save cwd path c.write.toUTF8 with
  | .ok written => .ok written
  | .error cause => .error (.unwritable cause)

end InjectionLab.Config
