/-!
Quoted text of a JSON document. Writing escapes quotes, backslashes and the controls below a space,
and nothing else; reading takes every escape that RFC 8259 has.
-/
namespace InjectionLab.Json.Quoted

def hexDigit (n : Nat) : Char := Nat.digitChar n

def escape (c : Char) : List Char :=
  if c = '"' then ['\\', '"']
  else if c = '\\' then ['\\', '\\']
  else if c = '\x08' then ['\\', 'b']
  else if c = '\t' then ['\\', 't']
  else if c = '\n' then ['\\', 'n']
  else if c = '\x0c' then ['\\', 'f']
  else if c = '\r' then ['\\', 'r']
  else if c.toNat < 32 then
    ['\\', 'u', '0', '0', hexDigit (c.toNat / 16), hexDigit (c.toNat % 16)]
  else [c]

def encode (text : List Char) : List Char := text.flatMap escape

def write (text : String) : List Char := '"' :: encode text.toList ++ ['"']

def hexValue? (c : Char) : Option Nat :=
  if '0' ≤ c ∧ c ≤ '9' then some (c.toNat - '0'.toNat)
  else if 'a' ≤ c ∧ c ≤ 'f' then some (c.toNat - 'a'.toNat + 10)
  else if 'A' ≤ c ∧ c ≤ 'F' then some (c.toNat - 'A'.toNat + 10)
  else none

def unit? (a b c d : Char) : Option Nat := do
  some (((← hexValue? a) * 16 + (← hexValue? b)) * 256 + (← hexValue? c) * 16 + (← hexValue? d))

def shortEscape? : Char → Option Char
  | '"' => some '"'
  | '\\' => some '\\'
  | '/' => some '/'
  | 'b' => some '\x08'
  | 'f' => some '\x0c'
  | 'n' => some '\n'
  | 'r' => some '\r'
  | 't' => some '\t'
  | _ => none

def put (unit : Nat) : Option (List Nat × List Char) → Option (List Nat × List Char) :=
  Option.map fun (units, rest) => (unit :: units, rest)

/-- Reads up to the closing quote, and gives the code points and what follows the quote. An escape
    of four digits gives its number, which may be one half of a surrogate pair. -/
def units : List Char → Option (List Nat × List Char)
  | [] => none
  | '"' :: rest => some ([], rest)
  | '\\' :: 'u' :: a :: b :: c :: d :: rest =>
    match unit? a b c d with
    | none => none
    | some unit => put unit (units rest)
  | '\\' :: c :: rest =>
    match shortEscape? c with
    | none => none
    | some c => put c.toNat (units rest)
  | c :: rest => if c.toNat < 32 ∨ c = '\\' then none else put c.toNat (units rest)

def isHigh (unit : Nat) : Bool := 0xD800 ≤ unit && unit < 0xDC00
def isLow (unit : Nat) : Bool := 0xDC00 ≤ unit && unit < 0xE000

def paired (high low : Nat) : Char :=
  Char.ofNat (0x10000 + (high - 0xD800) * 0x400 + (low - 0xDC00))

/-- Joins surrogate pairs. A surrogate without its partner is refused if `strict`, and stands for
    the replacement character otherwise. -/
def join (strict : Bool) : List Nat → Option (List Char)
  | [] => some []
  | [unit] =>
    if isHigh unit || isLow unit then if strict then none else some ['\ufffd']
    else some [Char.ofNat unit]
  | unit :: next :: rest =>
    if isHigh unit && isLow next then (join strict rest).map (paired unit next :: ·)
    else if isHigh unit || isLow unit then
      if strict then none else (join strict (next :: rest)).map ('\ufffd' :: ·)
    else (join strict (next :: rest)).map (Char.ofNat unit :: ·)

def decode (strict : Bool) (text : List Char) : Option (List Char × List Char) :=
  match units text with
  | none => none
  | some (codes, rest) => (join strict codes).map fun chars => (chars, rest)

end InjectionLab.Json.Quoted
