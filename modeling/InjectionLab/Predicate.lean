import InjectionLab.Row

/-!
Filters over the rows of one relation. A field that a row lacks, or that cannot be compared with the
given value, matches nothing.
-/
namespace InjectionLab

inductive Predicate where
  | idIs (id : Int64)
  | equals (field : String) (value : Json.Value)
  | atLeast (field : String) (value : Json.Value)
  | atMost (field : String) (value : Json.Value)
  /-- Some field of text has this part, in the same case. -/
  | contains (fields : List String) (part : String)
  | allOf (parts : List Predicate)
  | always
  | never
deriving Repr

namespace Predicate

/-- Conjunction. `always` is absorbed on either side and a conjunction on the left is extended. -/
def and : Predicate → Predicate → Predicate
  | always, q => q
  | p, always => p
  | allOf ps, q => allOf (ps ++ [q])
  | p, q => allOf [p, q]

/-- Whether one value is at most another: numbers by size, text by code points, and nothing else. -/
def le? : Json → Json → Option Bool
  | .number a, .number b => some (a.amount.le b.amount)
  | .string a, .string b => some (a ≤ b)
  | _, _ => none

def occursIn (part text : List Char) : Bool :=
  part.isPrefixOf text ||
    match text with
    | [] => false
    | _ :: rest => occursIn part rest

def holdsPart (part : String) : Option Json → Bool
  | some (.string s) => occursIn part.toList s.toList
  | _ => false

mutual
def holds (r : Record) : Predicate → Bool
  | idIs id => r.id == id
  | equals field value => (r.field? field).any fun held => held.same value.json
  | atLeast field value => ((r.field? field).bind fun held => le? value.json held).getD false
  | atMost field value => ((r.field? field).bind fun held => le? held value.json).getD false
  | contains fields part => fields.any fun field => holdsPart part (r.field? field)
  | allOf parts => allHold r parts
  | always => true
  | never => false
def allHold (r : Record) : List Predicate → Bool
  | [] => true
  | p :: ps => holds r p && allHold r ps
end

def filter {α : Type} (record : α → Record) (p : Predicate) (rows : List α) : List α :=
  rows.filter fun row => holds (record row) p

end Predicate
end InjectionLab
