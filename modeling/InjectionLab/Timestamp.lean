import InjectionLab.Text.Class

/-!
Moments in universal time, written by RFC 3339. Reading is more liberal than writing: fields need
no padding, white space may stand around the marks, a space or a small t may part date and time,
and the offset may be written UTC.
-/
namespace InjectionLab

/-- A second of 60 is a leap second. -/
structure Timestamp where
  year : Int
  month : Nat
  day : Nat
  hour : Nat
  minute : Nat
  second : Nat
  nano : Nat
deriving DecidableEq, Repr, Inhabited

namespace Timestamp
open Text

def isLeap (year : Int) : Bool := (year % 4 == 0 && year % 100 != 0) || year % 400 == 0

def daysIn (year : Int) : Nat → Nat
  | 2 => if isLeap year then 29 else 28
  | 4 | 6 | 9 | 11 => 30
  | _ => 31

def yearInRange (year : Int) : Bool := -262143 ≤ year && year ≤ 262142

def valid (t : Timestamp) : Bool :=
  yearInRange t.year && 1 ≤ t.month && t.month ≤ 12 && 1 ≤ t.day && t.day ≤ daysIn t.year t.month
    && t.hour < 24 && t.minute < 60 && t.second ≤ 60 && t.nano < 1000000000

/-! Writing -/

def padded (width n : Nat) : List Char :=
  let digits := Nat.toDigits 10 n
  List.replicate (width - digits.length) '0' ++ digits

def yearText (year : Int) : List Char :=
  if 0 ≤ year ∧ year ≤ 9999 then padded 4 year.toNat
  else (if year < 0 then '-' else '+') :: padded 4 year.natAbs

/-- Three, six or nine digits, as few of them as hold the fraction, and none for a whole second. -/
def fractionText (nano : Nat) : List Char :=
  if nano = 0 then []
  else if nano % 1000000 = 0 then '.' :: padded 3 (nano / 1000000)
  else if nano % 1000 = 0 then '.' :: padded 6 (nano / 1000)
  else '.' :: padded 9 nano

def text (t : Timestamp) : List Char :=
  yearText t.year ++ '-' :: padded 2 t.month ++ '-' :: padded 2 t.day ++ 'T' :: padded 2 t.hour ++
    ':' :: padded 2 t.minute ++ ':' :: padded 2 t.second ++ fractionText t.nano ++ ['Z']

/-! Reading -/

def readField (most : Nat) (text : List Char) : Option (Nat × List Char) :=
  let text := trimStart text
  let digits := (text.takeWhile Char.isDigit).take most
  if digits.isEmpty then none
  else some (Nat.ofDigitChars 10 digits 0, text.drop digits.length)

def readDigits (text : List Char) : Option (Nat × List Char) :=
  let digits := text.takeWhile Char.isDigit
  if digits.isEmpty then none
  else some (Nat.ofDigitChars 10 digits 0, text.drop digits.length)

def readYear (text : List Char) : Option (Int × List Char) :=
  match trimStart text with
  | '-' :: rest => (readDigits rest).map fun (n, rest) => (-(n : Int), rest)
  | '+' :: rest => (readDigits rest).map fun (n, rest) => ((n : Int), rest)
  | text => (readField 4 text).map fun (n, rest) => ((n : Int), rest)

def readMark (mark : Char) (text : List Char) : Option (List Char) :=
  match trimStart text with
  | c :: rest => if c == mark then some rest else none
  | [] => none

/-- A fraction of a second; digits after the ninth do not count. -/
def readFraction : List Char → Option (Nat × List Char)
  | '.' :: text =>
    let digits := text.takeWhile Char.isDigit
    if digits.isEmpty then none
    else
      let counted := digits.take 9
      some (Nat.ofDigitChars 10 counted 0 * Nat.pow 10 (9 - counted.length), text.drop digits.length)
  | text => some (0, text)

def twoDigits : List Char → Option (Nat × List Char)
  | a :: b :: rest =>
    if a.isDigit && b.isDigit then some (Nat.ofDigitChars 10 [a, b] 0, rest) else none
  | _ => none

def readOffsetSize (text : List Char) : Option (Nat × List Char) := do
  let (hours, rest) ← twoDigits text
  let (minutes, rest) ← twoDigits (rest.dropWhile fun c => c == ':' || isBlank c)
  if hours < 24 ∧ minutes < 60 then some (hours * 60 + minutes, rest) else none

def readOffset (text : List Char) : Option (Int × List Char) :=
  match trimStart text with
  | '+' :: rest => (readOffsetSize rest).map fun (size, rest) => ((size : Int), rest)
  | '-' :: rest => (readOffsetSize rest).map fun (size, rest) => (-(size : Int), rest)
  | '\u2212' :: rest => (readOffsetSize rest).map fun (size, rest) => (-(size : Int), rest)
  | c :: rest =>
    if c.toLower == 'z' then some (0, rest)
    else
      match (c :: rest.take 2).map Char.toLower with
      | ['u', 't', 'c'] => some (0, rest.drop 2)
      | _ => none
  | [] => none

def nextDay (t : Timestamp) : Timestamp :=
  if t.day < daysIn t.year t.month then { t with day := t.day + 1 }
  else if t.month < 12 then { t with month := t.month + 1, day := 1 }
  else { t with year := t.year + 1, month := 1, day := 1 }

def previousDay (t : Timestamp) : Timestamp :=
  if 1 < t.day then { t with day := t.day - 1 }
  else if 1 < t.month then { t with month := t.month - 1, day := daysIn t.year (t.month - 1) }
  else { t with year := t.year - 1, month := 12, day := 31 }

def epoch : Timestamp := ⟨1970, 1, 1, 0, 0, 0, 0⟩

def addDays : Nat → Timestamp → Timestamp
  | 0, t => t
  | days + 1, t => addDays days t.nextDay

def ofUnix (seconds nano : Nat) : Timestamp :=
  let within := seconds % 86400
  { addDays (seconds / 86400) epoch with
    hour := within / 3600, minute := within / 60 % 60, second := within % 60, nano := nano }

/-- Universal time of a local time that is `ahead` minutes ahead of it, by less than a day. -/
def toUniversal (t : Timestamp) (ahead : Int) : Timestamp :=
  let minutes := (t.hour * 60 + t.minute : Nat) - ahead
  let within := (minutes % 1440).toNat
  let moved := { t with hour := within / 60, minute := within % 60 }
  if minutes < 0 then moved.previousDay else if 1440 ≤ minutes then moved.nextDay else moved

def isSeparator (c : Char) : Bool := c == 'T' || c == 't' || c == ' '

def readSeparator : List Char → Option (List Char)
  | c :: rest => if isSeparator c then some rest else none
  | [] => none

def parse? (text : List Char) : Option Timestamp := do
  let (year, rest) ← readYear text
  let (month, rest) ← readField 2 (← readMark '-' rest)
  let (day, rest) ← readField 2 (← readMark '-' rest)
  let (hour, rest) ← readField 2 (← readSeparator rest)
  let (minute, rest) ← readField 2 (← readMark ':' rest)
  let (second, rest) ← readField 2 (← readMark ':' rest)
  let (nano, rest) ← readFraction rest
  let (ahead, rest) ← readOffset rest
  let clock : Timestamp := ⟨year, month, day, hour, minute, second, nano⟩
  let t := clock.toUniversal ahead
  if (trimStart rest).isEmpty && clock.valid && yearInRange t.year then some t else none

end Timestamp
end InjectionLab
