import InjectionLab.Double

/-!
Values of the numerals that patterns capture. A pattern takes the digits of every script, but only
ASCII digits have a value here, and an integer has to fit 64 bits.
-/
namespace InjectionLab.Numeral

def natural? (digits : List Char) : Option Nat :=
  if !digits.isEmpty && digits.all Char.isDigit then some (Nat.ofDigitChars 10 digits 0) else none

def splitSign : List Char → Bool × List Char
  | '-' :: rest => (true, rest)
  | token => (false, token)

def int64? (n : Int) : Option Int64 :=
  if Int64.minValue.toInt ≤ n ∧ n ≤ Int64.maxValue.toInt then some (Int64.ofInt n) else none

def integer? (token : List Char) : Option Int64 :=
  let (negative, digits) := splitSign token
  match natural? digits with
  | some n => int64? (if negative then -n else n)
  | none => none

def amount? (token : List Char) : Option Amount :=
  let (negative, size) := splitSign token
  let whole := size.takeWhile (· != '.')
  let fraction := (size.dropWhile (· != '.')).drop 1
  match natural? (whole ++ fraction) with
  | some n => some (.ofRatio negative n (Nat.pow 10 fraction.length))
  | none => none

end InjectionLab.Numeral
