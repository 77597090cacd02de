/-!
Binary doubles as exact numbers. The magnitude of a finite double is a whole multiple of the least
positive double, 2^-1074, so order and equality are those of integers and rounding is a division.
-/
namespace InjectionLab

/-- Number of multiples of 2^-1074 in one. -/
def unitsPerOne : Nat := Nat.pow 2 1074

/-- Multiples of 2^-1074 that are doubles: below 2^1024, and with at most 53 significant bits. -/
def Representable (units : Nat) : Prop :=
  units.log2 < 2098 ∧ units % Nat.pow 2 (units.log2 - 52) = 0

instance (units : Nat) : Decidable (Representable units) :=
  inferInstanceAs (Decidable (_ ∧ _))

structure Double where
  negative : Bool
  units : Nat
  representable : Representable units
deriving DecidableEq, Repr

namespace Double

def scaled (x : Double) : Int := if x.negative then -(x.units : Int) else x.units

def zero (negative : Bool) : Double := ⟨negative, 0, by decide⟩

end Double

def roundHalfEven (num den : Nat) : Nat :=
  let floor := num / den
  let twice := 2 * (num % den)
  if twice < den then floor
  else if den < twice then floor + 1
  else floor + floor % 2

/-- The double nearest to `num / den`, in multiples of 2^-1074 and with no upper limit: the last bit
    kept is the 53rd, or the last one there is. -/
def roundUnits (num den : Nat) : Nat :=
  let exact := num * unitsPerOne
  let dropped := (exact / den).log2 - 52
  let unit := Nat.pow 2 dropped
  roundHalfEven exact (den * unit) * unit

/-- A price or a total. A literal beyond the range of doubles becomes an infinity. -/
inductive Amount where
  | finite (value : Double)
  | infinite (negative : Bool)
deriving DecidableEq, Repr

namespace Amount

def ofRatio (negative : Bool) (num den : Nat) : Amount :=
  if h : Representable (roundUnits num den) then .finite ⟨negative, roundUnits num den, h⟩
  else .infinite negative

def ofInt (n : Int) : Amount := ofRatio (n < 0) n.natAbs 1

/-- Nearest amount to `digits · 10^exponent`, where `digits` is written with `width` digits. The two
    extremes are settled without the power: a product of 10^400 or more is beyond every double, and
    one below 10^-400 rounds to zero. -/
def ofScientific (negative : Bool) (digits width : Nat) (exponent : Int) : Amount :=
  if digits = 0 then .finite (Double.zero negative)
  else if 0 ≤ exponent then
    if exponent < 400 then ofRatio negative (digits * Nat.pow 10 exponent.toNat) 1
    else .infinite negative
  else if -exponent < width + 400 then ofRatio negative digits (Nat.pow 10 (-exponent).toNat)
  else .finite (Double.zero negative)

def le : Amount → Amount → Bool
  | .infinite true, _ => true
  | _, .infinite false => true
  | .finite x, .finite y => x.scaled ≤ y.scaled
  | _, _ => false

def same (x y : Amount) : Bool := x.le y && y.le x

end Amount
end InjectionLab
