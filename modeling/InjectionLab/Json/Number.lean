import InjectionLab.Double

/-!
Numbers of a JSON document. Text without a fraction or an exponent is an integer as long as 64 bits
hold it, and everything else is a double. A double is written with the fewest digits that read back
as the same double.
-/
namespace InjectionLab.Json

inductive Number where
  /-- A whole number from -2^63 up to, but not including, 2^64. -/
  | integer (value : Int)
  | real (value : Double)
deriving DecidableEq, Repr

namespace Number

def amount : Number → Amount
  | integer n => .ofInt n
  | real x => .finite x

/-- Equality tells an integer from a double of the same value, but not the two zeros apart. -/
def same : Number → Number → Bool
  | integer m, integer n => m == n
  | real x, real y => x.scaled == y.scaled
  | _, _ => false

/-! Reading -/

structure Lexeme where
  negative : Bool
  whole : List Char
  fraction : Option (List Char)
  exponent : Option Int
deriving DecidableEq, Repr

def digitsValue (digits : List Char) : Nat := Nat.ofDigitChars 10 digits 0

def spanDigits (text : List Char) : List Char × List Char :=
  (text.takeWhile Char.isDigit, text.dropWhile Char.isDigit)

def readSign : List Char → Bool × List Char
  | '-' :: rest => (true, rest)
  | text => (false, text)

def readWhole (text : List Char) : Option (List Char × List Char) :=
  match spanDigits text with
  | ([], _) => none
  | (['0'], rest) => some (['0'], rest)
  | ('0' :: _, _) => none
  | (digits, rest) => some (digits, rest)

def readFraction : List Char → Option (Option (List Char) × List Char)
  | '.' :: text =>
    match spanDigits text with
    | ([], _) => none
    | (digits, rest) => some (some digits, rest)
  | text => some (none, text)

def readExponentSign : List Char → Bool × List Char
  | '+' :: rest => (false, rest)
  | text => readSign text

def readExponent : List Char → Option (Option Int × List Char)
  | mark :: text =>
    if mark = 'e' ∨ mark = 'E' then
      let (negative, text) := readExponentSign text
      match spanDigits text with
      | ([], _) => none
      | (digits, rest) =>
        let size : Int := digitsValue digits
        some (some (if negative then -size else size), rest)
    else some (none, mark :: text)
  | [] => some (none, [])

def readLexeme (text : List Char) : Option (Lexeme × List Char) := do
  let (negative, text) := readSign text
  let (whole, text) ← readWhole text
  let (fraction, text) ← readFraction text
  let (exponent, text) ← readExponent text
  some (⟨negative, whole, fraction, exponent⟩, text)

/-- The nearest double: numbers are taken to be read exactly, however long they are. -/
def Lexeme.amount (lexeme : Lexeme) : Amount :=
  let fraction := lexeme.fraction.getD []
  let digits := lexeme.whole ++ fraction
  .ofScientific lexeme.negative (digitsValue digits) digits.length
    (lexeme.exponent.getD 0 - fraction.length)

def Lexeme.integer? (lexeme : Lexeme) : Option Int :=
  if lexeme.fraction.isSome || lexeme.exponent.isSome then none
  else
    let size : Int := digitsValue lexeme.whole
    if lexeme.negative then if 0 < size ∧ Int64.minValue.toInt ≤ -size then some (-size) else none
    else if size < UInt64.size then some size else none

/-- A number beyond the range of doubles has no value. Minus zero is a double. -/
def Lexeme.number? (lexeme : Lexeme) : Option Number :=
  match lexeme.integer? with
  | some n => some (integer n)
  | none =>
    match lexeme.amount with
    | .finite x => some (real x)
    | .infinite _ => none

/-! Writing -/

/-- How a double is laid out: positional while the exponent of its first digit lies between `least`
    and `most`, and with an exponent otherwise. -/
structure Layout where
  least : Int
  most : Int
deriving DecidableEq, Repr

def layout : Layout := ⟨-5, 15⟩

def natText (n : Nat) : List Char := Nat.toDigits 10 n

def intText (n : Int) : List Char :=
  if n < 0 then '-' :: natText n.natAbs else natText n.natAbs

def positional (digits : List Char) (exponent : Int) : List Char :=
  if exponent < 0 then
    '0' :: '.' :: List.replicate (-exponent - 1).toNat '0' ++ digits
  else
    let places := exponent.toNat + 1
    let whole := digits.take places ++ List.replicate (places - digits.length) '0'
    match digits.drop places with
    | [] => whole ++ ['.', '0']
    | fraction => whole ++ '.' :: fraction

def scientific (digits : List Char) (exponent : Int) : List Char :=
  let mantissa :=
    match digits with
    | first :: second :: rest => first :: '.' :: second :: rest
    | short => short
  let sign := if exponent < 0 then '-' else '+'
  mantissa ++ 'e' :: sign :: natText exponent.natAbs

def stripZeros (digits : List Char) : List Char :=
  match (digits.reverse.dropWhile (· == '0')).reverse with
  | [] => ['0']
  | kept => kept

def Layout.text (layout : Layout) (negative : Bool) (digits : Nat) (exponent : Int) : List Char :=
  let written := natText digits
  let first : Int := if digits = 0 then 0 else exponent + written.length - 1
  let kept := stripZeros written
  let size :=
    if layout.least ≤ first ∧ first ≤ layout.most then positional kept first
    else scientific kept first
  if negative then '-' :: size else size

/-- Nearest multiples of a power of ten to a magnitude with the given decimal digits, the nearer one
    first and of two equally near ones the even one. -/
def neighbours (digits cut : Nat) : List Nat :=
  let below := digits / Nat.pow 10 cut
  let nearest := roundHalfEven digits (Nat.pow 10 cut)
  if nearest = below then [below, below + 1] else [below + 1, below]

/-- Texts of the decimals next to a double, from one digit up to seventeen. A magnitude of `units`
    multiples of 2^-1074 is `units · 5^1074` multiples of 10^-1074. -/
def candidates (x : Double) : List (List Char) :=
  let digits := x.units * Nat.pow 5 1074
  let width := (natText digits).length
  (List.range 17).flatMap fun n =>
    let cut := width - (n + 1)
    (neighbours digits cut).map fun size => layout.text x.negative size (cut - 1074)

def exactText (x : Double) : List Char :=
  (if x.negative then ['-'] else []) ++ natText (x.units * Nat.pow 5 1074) ++
    ['e', '-', '1', '0', '7', '4']

def readsAs (x : Double) (text : List Char) : Bool :=
  match readLexeme text with
  | some (lexeme, []) => lexeme.number? == some (real x)
  | _ => false

/-- The first candidate that reads back as the double. Seventeen digits suffice for that, so the
    exact text is never written: it only makes the function total. -/
def realText (x : Double) : List Char := ((candidates x).find? (readsAs x)).getD (exactText x)

def text : Number → List Char
  | integer n => intText n
  | real x => realText x

end Number
end InjectionLab.Json
