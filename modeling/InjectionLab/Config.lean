import InjectionLab.Files
import InjectionLab.Json.Record
import InjectionLab.Text.Class
import InjectionLab.Text.Lowercase

/-!
Settings and where they come from: one file at most, chosen by a fixed order of sources, and two
overrides from the environment that apply to any of them.
-/
namespace InjectionLab

inductive LogFormat where
  | pretty
  | json
deriving DecidableEq, Repr

inductive OutputFormat where
  | table
  | json
deriving DecidableEq, Repr

structure Config where
  logFilter : String
  logFormat : LogFormat
  output : OutputFormat
deriving DecidableEq, Repr

inductive ConfigError where
  | unreadable (path : OsString) (cause : FileError)
  | invalid (path : OsString)
  | unknownOutput (text : String)
  | unwritable (cause : FileError)
deriving DecidableEq, Repr

def ConfigError.message : ConfigError → String
  | unreadable path cause => "Configuration error: Cannot read " ++ path.shown ++ ": " ++ cause.message
  | invalid path => "Configuration error: Invalid config " ++ path.shown
  | unknownOutput text => "Configuration error: Unknown output format: " ++ text
  | unwritable cause => "IO error: " ++ cause.message

def LogFormat.name : LogFormat → String
  | pretty => "pretty"
  | json => "json"

namespace OutputFormat

def name : OutputFormat → String
  | table => "table"
  | json => "json"

def ofName? : String → Option OutputFormat
  | "table" => some table
  | "json" => some json
  | _ => none

def parse (text : String) : Except ConfigError OutputFormat :=
  let name := String.ofList (Text.lowercase (Text.trim text.toList))
  match ofName? name with
  | some format => .ok format
  | none => .error (.unknownOutput name)

end OutputFormat

def LogFormat.ofName? : String → Option LogFormat
  | "pretty" => some pretty
  | "json" => some json
  | _ => none

namespace Config

def default : Config := ⟨"sqli_sim=info", .pretty, .table⟩

/-! Documents -/

def columns : List String := ["log_filter", "log_format", "output"]

def toJson (c : Config) : Json :=
  .object [("log_filter", .string c.logFilter), ("log_format", .string c.logFormat.name),
    ("output", .string c.output.name)]

/-- The name of a choice: alone, or as the only member of an object, which then holds null. -/
def choiceName? : Json → Option String
  | .string name => some name
  | .object [(name, .null)] => some name
  | _ => none

def orDefault {α : Type} (otherwise : α) (read : Json → Option α) : Option Json → Option α
  | none => some otherwise
  | some json => read json

def ofJson? (json : Json) : Option Config :=
  match json.fields? columns with
  | some [logFilter, logFormat, output] => do
    some ⟨← orDefault default.logFilter Json.string? logFilter,
      ← orDefault default.logFormat (fun json => (choiceName? json).bind LogFormat.ofName?) logFormat,
      ← orDefault default.output (fun json => (choiceName? json).bind OutputFormat.ofName?) output⟩
  | _ => none

end Config
end InjectionLab
