import InjectionLab.Json.Record
import InjectionLab.Predicate

/-!
Predicates as JSON documents: the name of the form alone, or an object whose only member is named
for the form and holds its parts.
-/
namespace InjectionLab.Predicate

mutual
def toJson : Predicate → Json
  | idIs id => .object [("IdEq", .ofInt64 id)]
  | equals field value => .object [("Eq", .array [.string field, value.json])]
  | atLeast field value => .object [("Gte", .array [.string field, value.json])]
  | atMost field value => .object [("Lte", .array [.string field, value.json])]
  | contains fields part =>
    .object [("Contains", .array [.array (fields.map .string), .string part])]
  | allOf parts => .object [("And", .array (partsToJson parts))]
  | always => .string "All"
  | never => .string "None"
def partsToJson : List Predicate → List Json
  | [] => []
  | p :: ps => toJson p :: partsToJson ps
end

def comparison? (make : String → Json.Value → Predicate) : Json → Option Predicate
  | .array [.string field, value] => (Json.Value.ofJson? value).map (make field)
  | _ => none

def contains? : Json → Option Predicate
  | .array [.array fields, .string part] =>
    (fields.mapM Json.string?).map fun fields => contains fields part
  | _ => none

mutual
def ofJson? : Json → Option Predicate
  | .string "All" => some always
  | .string "None" => some never
  | .object [("All", .null)] => some always
  | .object [("None", .null)] => some never
  | .object [("IdEq", id)] => id.int64?.map idIs
  | .object [("Eq", parts)] => comparison? equals parts
  | .object [("Gte", parts)] => comparison? atLeast parts
  | .object [("Lte", parts)] => comparison? atMost parts
  | .object [("Contains", parts)] => contains? parts
  | .object [("And", .array parts)] => (partsOfJson? parts).map allOf
  | _ => none
def partsOfJson? : List Json → Option (List Predicate)
  | [] => some []
  | json :: rest =>
    match ofJson? json with
    | none => none
    | some p => (partsOfJson? rest).map (p :: ·)
end

end InjectionLab.Predicate
