import InjectionLab.Json.Basic

/-!
Records as JSON: objects, or arrays of the fields in their order. Members that name no field are
passed over, and a field that stands twice is refused.
-/
namespace InjectionLab.Json

/-- The only member of this name, if there is one; refused if there are several. -/
def onlyNamed (members : List (String × Json)) (name : String) : Option (Option Json) :=
  match named name members with
  | [] => some none
  | [value] => some (some value)
  | _ => none

def fields? (names : List String) : Json → Option (List (Option Json))
  | object members => names.mapM (onlyNamed members)
  | array items =>
    if items.length ≤ names.length then
      some (items.map some ++ List.replicate (names.length - items.length) none)
    else none
  | _ => none

def allFields? (names : List String) (json : Json) : Option (List Json) :=
  (json.fields? names).bind fun fields => fields.mapM fun field => field

def string? : Json → Option String
  | string s => some s
  | _ => none

def integerIn? (least most : Int) : Json → Option Int
  | number (.integer n) => if least ≤ n ∧ n ≤ most then some n else none
  | _ => none

def signed? : Json → Option Int := integerIn? Int64.minValue.toInt Int64.maxValue.toInt

def unsigned? (json : Json) : Option Nat := (integerIn? 0 (UInt64.size - 1) json).map Int.toNat

def int64? (json : Json) : Option Int64 := json.signed?.map Int64.ofInt

def amount? : Json → Option Amount
  | number n => some n.amount
  | _ => none

end InjectionLab.Json
