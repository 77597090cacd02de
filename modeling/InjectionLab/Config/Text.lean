import InjectionLab.Config
import InjectionLab.Json.Reader
import InjectionLab.Json.Writer

/-!
The text of a configuration file. It is one JSON document; a member that names no setting is
skimmed, which asks only that it be well formed.
-/
namespace InjectionLab.Config
open Json

def write (c : Config) : String := c.toJson.prettyText

/-- Reads one member, and only skims its value if it names no setting. -/
def readMember (text : List Char) : Option ((String × Json) × List Char) :=
  match readName true text with
  | none => none
  | some (name, rest) =>
    (readValue (columns.contains name) (fuelFor rest) rest).map fun (value, rest) =>
      ((name, value), rest)

def readMembers : Nat → List Char → Option (List (String × Json) × List Char)
  | 0, _ => none
  | fuel + 1, text =>
    match skipSpace text with
    | '\x7d' :: rest => some ([], rest)
    | ',' :: rest =>
      match readMember (skipSpace rest) with
      | none => none
      | some (member, rest) =>
        (readMembers fuel rest).map fun (members, rest) => (member :: members, rest)
    | _ => none

def readObject (text : List Char) : Option (List (String × Json) × List Char) :=
  match skipSpace text with
  | '\x7d' :: rest => some ([], rest)
  | text =>
    match readMember text with
    | none => none
    | some (member, rest) =>
      (readMembers (fuelFor rest) rest).map fun (members, rest) => (member :: members, rest)

def parse? (text : String) : Option Config :=
  match skipSpace text.toList with
  | '\x7b' :: rest =>
    match readObject rest with
    | some (members, rest) => if (skipSpace rest).isEmpty then ofJson? (.object members) else none
    | none => none
  | text => (read? text).bind ofJson?

end InjectionLab.Config
