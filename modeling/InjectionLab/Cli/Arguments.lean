import InjectionLab.Config

/-!
The command line: options that may stand before or after the command, the command, and its operand.
An option may be given once on either side of the command, and the one after the command wins.
-/
namespace InjectionLab.Cli

inductive Command where
  | query (sql : String)
  | get (sql : String)
  | run (sql : String)
  /-- Without a file the script is read from standard input. -/
  | script (file : Option String)
  | stats
deriving DecidableEq, Repr

structure Options where
  config : Option OsString
  format : Option OutputFormat
deriving DecidableEq, Repr

def Options.none : Options := ⟨Option.none, Option.none⟩

def Options.over (inner outer : Options) : Options :=
  ⟨inner.config.or outer.config, inner.format.or outer.format⟩

inductive Request where
  | command (command : Command) (options : Options)
  | version
  | help
  | misuse
deriving DecidableEq, Repr

inductive Word where
  /-- Everything after it is an operand. -/
  | endOfOptions
  | long (name : String) (value : Option String)
  | short (first : Char)
  | operand (text : String)
deriving DecidableEq, Repr

def longWord (text : List Char) : Word :=
  match text.dropWhile (· != '=') with
  | [] => .long (String.ofList text) none
  | _ :: value => .long (String.ofList (text.takeWhile (· != '='))) (some (String.ofList value))

def Word.ofArgument (argument : String) : Word :=
  match argument.toList with
  | ['-', '-'] => .endOfOptions
  | '-' :: '-' :: text => longWord text
  | '-' :: first :: _ => .short first
  | _ => .operand argument

/-- Records an option; a second time, an empty path and a format of another name are refused. -/
def Options.set? (options : Options) (name value : String) : Option Options :=
  match name with
  | "config" =>
    if options.config.isSome || value = "" then Option.none
    else some { options with config := some (.ofText value) }
  | "format" =>
    if options.format.isSome then Option.none
    else (OutputFormat.ofName? value).map fun format => { options with format := some format }
  | _ => Option.none

def takesValue (name : String) : Bool := name == "config" || name == "format"

inductive Tail where
  | parts (options : Options) (operands : List String)
  | help
  | misuse
deriving DecidableEq, Repr

/-- Whether a command takes this operand after those it has. No command takes two, and a script has
    no file without a name. -/
def takesOperand (name : String) (operands : List String) (text : String) : Bool :=
  operands.isEmpty && name != "stats" && !(name == "script" && text == "")

def readTail (name : String) (options : Options) (operands : List String) : List String → Tail
  | [] => .parts options operands
  | argument :: rest =>
    match Word.ofArgument argument with
    | .endOfOptions => .parts options (operands ++ rest)
    | .operand text =>
      if takesOperand name operands text then readTail name options (operands ++ [text]) rest
      else .misuse
    | .short first => if first = 'h' then .help else .misuse
    | .long "help" none => .help
    | .long option (some value) =>
      match options.set? option value with
      | some options => readTail name options operands rest
      | none => .misuse
    | .long option none =>
      if !takesValue option then .misuse
      else
        match rest with
        | value :: rest =>
          match Word.ofArgument value with
          | .operand value =>
            match options.set? option value with
            | some options => readTail name options operands rest
            | none => .misuse
          | _ => .misuse
        | [] => .misuse

def command? : String → List String → Option Command
  | "query", [sql] => some (.query sql)
  | "get", [sql] => some (.get sql)
  | "run", [sql] => some (.run sql)
  | "script", [] => some (.script none)
  | "script", [file] => if file = "" then none else some (.script (some file))
  | "stats", [] => some .stats
  | _, _ => none

def isCommand (name : String) : Bool := ["query", "get", "run", "script", "stats"].contains name

/-- Fills in the path from the environment where no option gives one. The variable is looked at on
    each side of the command that has no such option, and may not be empty there. -/
def withVariable (envPath : Option OsString) (outer inner : Options) (command : Command) : Request :=
  if envPath = some (.ofText "") ∧ ¬(outer.config.isSome ∧ inner.config.isSome) then .misuse
  else .command command (inner.over (outer.over ⟨envPath, none⟩))

def readTopic : List String → Request
  | [] => .help
  | [topic] => if topic = "help" || isCommand topic then .help else .misuse
  | _ => .misuse

def readCommand (envPath : Option OsString) (outer : Options) (name : String)
    (arguments : List String) : Request :=
  if name = "help" then readTopic arguments
  else if !isCommand name then .misuse
  else
    match readTail name .none [] arguments with
    | .help => .help
    | .misuse => .misuse
    | .parts inner operands =>
      match command? name operands with
      | some command => withVariable envPath outer inner command
      | none => .misuse

def readArguments (envPath : Option OsString) (options : Options) : List String → Request
  | [] => .misuse
  | argument :: rest =>
    match Word.ofArgument argument with
    | .endOfOptions => .misuse
    | .operand name => readCommand envPath options name rest
    | .short first => if first = 'V' then .version else if first = 'h' then .help else .misuse
    | .long "help" none => .help
    | .long "version" none => .version
    | .long name (some value) =>
      match options.set? name value with
      | some options => readArguments envPath options rest
      | none => .misuse
    | .long name none =>
      if !takesValue name then .misuse
      else
        match rest with
        | value :: rest =>
          match Word.ofArgument value with
          | .operand value =>
            match options.set? name value with
            | some options => readArguments envPath options rest
            | none => .misuse
          | _ => .misuse
        | [] => .misuse

def Request.ofArguments (envPath : Option OsString) (arguments : List String) : Request :=
  readArguments envPath .none arguments

end InjectionLab.Cli
