import InjectionLab.Json.Basic
import InjectionLab.Json.Quoted

/-!
Reading JSON text by RFC 8259. Nothing may stand before or after the document but white space, and
members are kept as they are written, those of one name included.
-/
namespace InjectionLab.Json

def isSpace (c : Char) : Bool := c == ' ' || c == '\n' || c == '\r' || c == '\t'

def skipSpace (text : List Char) : List Char := text.dropWhile isSpace

/-- Reads a number. One that no double is near to has no value: it is refused if `strict`. -/
def readNumber (strict : Bool) (text : List Char) : Option (Json × List Char) :=
  match Number.readLexeme text with
  | none => none
  | some (lexeme, rest) =>
    match lexeme.number? with
    | some n => some (number n, rest)
    | none => if strict then none else some (null, rest)

def readText (strict : Bool) (text : List Char) : Option (String × List Char) :=
  (Quoted.decode strict text).map fun (chars, rest) => (String.ofList chars, rest)

def readName (strict : Bool) : List Char → Option (String × List Char)
  | '"' :: text =>
    match readText strict text with
    | none => none
    | some (name, rest) =>
      match skipSpace rest with
      | ':' :: rest => some (name, skipSpace rest)
      | _ => none
  | _ => none

mutual
/-- Reads the value at the start of the text, and gives it and the text after it. Each value and
    each item takes one unit of `fuel`. With `strict` off the value is only skimmed: parts that
    are well formed but have no value are passed over. -/
def readValue (strict : Bool) : Nat → List Char → Option (Json × List Char)
  | 0, _ => none
  | fuel + 1, text =>
    match text with
    | 'n' :: 'u' :: 'l' :: 'l' :: rest => some (null, rest)
    | 't' :: 'r' :: 'u' :: 'e' :: rest => some (bool true, rest)
    | 'f' :: 'a' :: 'l' :: 's' :: 'e' :: rest => some (bool false, rest)
    | '"' :: rest => (readText strict rest).map fun (s, rest) => (string s, rest)
    | '[' :: rest =>
      match skipSpace rest with
      | ']' :: rest => some (array [], rest)
      | rest =>
        match readValue strict fuel rest with
        | none => none
        | some (x, rest) => (readItems strict fuel rest).map fun (xs, rest) => (array (x :: xs), rest)
    | '\x7b' :: rest =>
      match skipSpace rest with
      | '\x7d' :: rest => some (object [], rest)
      | rest =>
        match readName strict rest with
        | none => none
        | some (name, rest) =>
          match readValue strict fuel rest with
          | none => none
          | some (v, rest) =>
            (readMembers strict fuel rest).map fun (ms, rest) => (object ((name, v) :: ms), rest)
    | text => readNumber strict text
def readItems (strict : Bool) : Nat → List Char → Option (List Json × List Char)
  | 0, _ => none
  | fuel + 1, text =>
    match skipSpace text with
    | ']' :: rest => some ([], rest)
    | ',' :: rest =>
      match readValue strict fuel (skipSpace rest) with
      | none => none
      | some (x, rest) => (readItems strict fuel rest).map fun (xs, rest) => (x :: xs, rest)
    | _ => none
def readMembers (strict : Bool) : Nat → List Char → Option (List (String × Json) × List Char)
  | 0, _ => none
  | fuel + 1, text =>
    match skipSpace text with
    | '\x7d' :: rest => some ([], rest)
    | ',' :: rest =>
      match readName strict (skipSpace rest) with
      | none => none
      | some (name, rest) =>
        match readValue strict fuel rest with
        | none => none
        | some (v, rest) => (readMembers strict fuel rest).map fun (ms, rest) => ((name, v) :: ms, rest)
    | _ => none
end

/-- Every value and item takes a character of the text. -/
def fuelFor (text : List Char) : Nat := text.length + 1

def read? (text : List Char) : Option Json :=
  match readValue true (fuelFor text) (skipSpace text) with
  | some (value, rest) => if (skipSpace rest).isEmpty then some value else none
  | none => none

end InjectionLab.Json
