import InjectionLab.Json.Number

/-!
JSON documents. Members of an object keep the order in which they are written; `sorted` puts them in
the order of their names, each name once, which makes a document canonical.
-/
namespace InjectionLab

inductive Json where
  | null
  | bool (value : Bool)
  | number (value : Json.Number)
  | string (value : String)
  | array (items : List Json)
  | object (members : List (String × Json))
deriving Repr, Inhabited

namespace Json

def int (n : Int) : Json := .number (.integer n)

def ofInt64 (n : Int64) : Json := .int n.toInt

/-- An infinity has no number, so it is written as null. -/
def ofAmount : Amount → Json
  | .finite x => .number (.real x)
  | .infinite _ => .null

/-! Equality -/

mutual
def same : Json → Json → Bool
  | null, null => true
  | bool a, bool b => a == b
  | number a, number b => a.same b
  | string a, string b => a == b
  | array xs, array ys => sameItems xs ys
  | object ms, object ns => sameMembers ms ns
  | _, _ => false
def sameItems : List Json → List Json → Bool
  | [], [] => true
  | x :: xs, y :: ys => same x y && sameItems xs ys
  | _, _ => false
def sameMembers : List (String × Json) → List (String × Json) → Bool
  | [], [] => true
  | (a, x) :: ms, (b, y) :: ns => a == b && same x y && sameMembers ms ns
  | _, _ => false
end

/-! Canonical documents -/

def insertMember (name : String) (value : Json) : List (String × Json) → List (String × Json)
  | [] => [(name, value)]
  | (other, held) :: rest =>
    if name < other then (name, value) :: (other, held) :: rest
    else if name = other then (name, value) :: rest
    else (other, held) :: insertMember name value rest

mutual
/-- The document with the members of every object in name order. Of several members of one name the
    last one stays. -/
def sorted : Json → Json
  | array xs => array (sortedItems xs)
  | object ms => object (sortedMembers ms [])
  | value => value
def sortedItems : List Json → List Json
  | [] => []
  | x :: xs => sorted x :: sortedItems xs
def sortedMembers : List (String × Json) → List (String × Json) → List (String × Json)
  | [], done => done
  | (name, value) :: rest, done => sortedMembers rest (insertMember name (sorted value) done)
end

def Number.inRange : Number → Bool
  | .integer n => Int64.minValue.toInt ≤ n && n < UInt64.size
  | .real _ => true

def inOrder : List (String × Json) → Bool
  | (a, _) :: (b, y) :: rest => a < b && inOrder ((b, y) :: rest)
  | _ => true

mutual
def canonical : Json → Bool
  | number n => n.inRange
  | array xs => canonicalItems xs
  | object ms => inOrder ms && canonicalMembers ms
  | _ => true
def canonicalItems : List Json → Bool
  | [] => true
  | x :: xs => canonical x && canonicalItems xs
def canonicalMembers : List (String × Json) → Bool
  | [] => true
  | (_, v) :: rest => canonical v && canonicalMembers rest
end

/-- A canonical document: two of them that are equal as values are equal as documents, up to the
    sign of a zero. -/
structure Value where
  json : Json
  isCanonical : json.canonical = true
deriving Repr

namespace Value

def ofJson? (json : Json) : Option Value :=
  let value := json.sorted
  if h : value.canonical = true then some ⟨value, h⟩ else none

def ofText (s : String) : Value := ⟨.string s, rfl⟩

def ofAmount (x : Amount) : Value := ⟨.ofAmount x, by cases x <;> rfl⟩

end Value

def named (name : String) (members : List (String × Json)) : List Json :=
  (members.filter (·.1 == name)).map (·.2)

end Json
end InjectionLab
