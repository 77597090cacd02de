import InjectionLab.Text.Class

/-!
Fragments of statement text. A pattern is a row of pieces, read one after the other. Each piece
takes as much text as it can and never gives any back: in every pattern of this library the text
after a piece starts with a character that the piece itself could not have taken.
-/
namespace InjectionLab.Text

inductive Piece where
  /-- A keyword letter, in either case. -/
  | letter (c : Char)
  /-- Exactly this character. -/
  | mark (c : Char)
  /-- One white-space character. -/
  | blank
  /-- Any number of white-space characters. -/
  | gap
  /-- One or more characters other than `stop`. -/
  | upTo (stop : Char)
  /-- One or more digits, after an optional minus if `signed` and before an optional fraction if
      `fraction`. -/
  | numeral (signed fraction : Bool)
deriving DecidableEq, Repr

abbrev Pattern := List Piece

def Piece.captured : Piece → Bool
  | .upTo _ | .numeral _ _ => true
  | _ => false

/-- Case folding against a lower-case letter. Beside its capital, the long s folds to s and the
    Kelvin sign to k. -/
def sameLetter (letter c : Char) : Bool :=
  c.toLower == letter || (letter == 's' && c == '\u017f') || (letter == 'k' && c == '\u212a')

def takeRun (inside : Char → Bool) (text : List Char) : Option (List Char × List Char) :=
  match text.takeWhile inside with
  | [] => none
  | run => some (run, text.dropWhile inside)

def takeSign : List Char → List Char × List Char
  | '-' :: rest => (['-'], rest)
  | text => ([], text)

/-- A point counts only when a digit follows it. -/
def takeFraction : List Char → List Char × List Char
  | '.' :: rest =>
    match takeRun isDigit rest with
    | some (digits, rest) => ('.' :: digits, rest)
    | none => ([], '.' :: rest)
  | text => ([], text)

def takeNumeral (signed fraction : Bool) (text : List Char) : Option (List Char × List Char) :=
  let (sign, afterSign) := if signed then takeSign text else ([], text)
  match takeRun isDigit afterSign with
  | none => none
  | some (digits, afterDigits) =>
    let (tail, rest) := if fraction then takeFraction afterDigits else ([], afterDigits)
    some (sign ++ digits ++ tail, rest)

def takeOne (fits : Char → Bool) : List Char → Option (List Char × List Char)
  | c :: rest => if fits c then some ([c], rest) else none
  | [] => none

def Piece.take? : Piece → List Char → Option (List Char × List Char)
  | .letter c, text => takeOne (sameLetter c) text
  | .mark c, text => takeOne (· == c) text
  | .blank, text => takeOne isBlank text
  | .gap, text => some (text.takeWhile isBlank, text.dropWhile isBlank)
  | .upTo stop, text => takeRun (· != stop) text
  | .numeral signed fraction, text => takeNumeral signed fraction text

namespace Pattern

def read? : Pattern → List Char → Option (List (List Char))
  | [], _ => some []
  | piece :: rest, text =>
    match piece.take? text with
    | none => none
    | some (token, after) =>
      match read? rest after with
      | none => none
      | some tokens => some (if piece.captured then token :: tokens else tokens)

def find? (pattern : Pattern) : List Char → Option (List (List Char))
  | [] => read? pattern []
  | c :: rest =>
    match read? pattern (c :: rest) with
    | some tokens => some tokens
    | none => find? pattern rest

def occursIn (pattern : Pattern) (text : List Char) : Bool := (find? pattern text).isSome

def word (letters : String) : Pattern := letters.toList.map .letter

def exactly (text : String) : Pattern := text.toList.map .mark

def quoted : Pattern := [.mark '\'', .upTo '\'', .mark '\'']

end Pattern
end InjectionLab.Text
