import InjectionLab.Json.Basic
import InjectionLab.Json.Quoted

/-!
Text of a JSON document: compact, or laid out with one member or item to a line.
-/
namespace InjectionLab.Json

mutual
def compact : Json → List Char
  | null => ['n', 'u', 'l', 'l']
  | bool true => ['t', 'r', 'u', 'e']
  | bool false => ['f', 'a', 'l', 's', 'e']
  | number n => n.text
  | string s => Quoted.write s
  | array [] => ['[', ']']
  | array (x :: xs) => '[' :: compact x ++ compactItems xs
  | object [] => ['\x7b', '\x7d']
  | object ((name, v) :: ms) => '\x7b' :: Quoted.write name ++ ':' :: compact v ++ compactMembers ms
def compactItems : List Json → List Char
  | [] => [']']
  | x :: xs => ',' :: compact x ++ compactItems xs
def compactMembers : List (String × Json) → List Char
  | [] => ['\x7d']
  | (name, v) :: ms => ',' :: Quoted.write name ++ ':' :: compact v ++ compactMembers ms
end

def newLine (level : Nat) : List Char := '\n' :: List.replicate (2 * level) ' '

mutual
/-- The document as it stands at a level of indentation. Empty arrays and objects stay on one
    line. -/
def pretty (level : Nat) : Json → List Char
  | array [] => ['[', ']']
  | array (x :: xs) => '[' :: newLine (level + 1) ++ pretty (level + 1) x ++ prettyItems level xs
  | object [] => ['\x7b', '\x7d']
  | object ((name, v) :: ms) =>
    '\x7b' :: newLine (level + 1) ++ Quoted.write name ++ ':' :: ' ' :: pretty (level + 1) v ++
      prettyMembers level ms
  | value => compact value
def prettyItems (level : Nat) : List Json → List Char
  | [] => newLine level ++ [']']
  | x :: xs => ',' :: newLine (level + 1) ++ pretty (level + 1) x ++ prettyItems level xs
def prettyMembers (level : Nat) : List (String × Json) → List Char
  | [] => newLine level ++ ['\x7d']
  | (name, v) :: ms =>
    ',' :: newLine (level + 1) ++ Quoted.write name ++ ':' :: ' ' :: pretty (level + 1) v ++
      prettyMembers level ms
end

def compactText (value : Json) : String := String.ofList value.compact

def prettyText (value : Json) : String := String.ofList (value.pretty 0)

end InjectionLab.Json
