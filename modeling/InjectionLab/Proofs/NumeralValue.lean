import InjectionLab.Numeral
import InjectionLab.Proofs.Rounding
import InjectionLab.Proofs.Text.Grammar
import Mathlib

/-!
What numerals denote. A numeral of ASCII digits has an exact value; an integer is read as that
value if 64 bits hold it, and an amount as the nearest double. A numeral with a digit of another
script has no value.
-/
namespace InjectionLab.Numeral
open Text

def Plain (digits : List Char) : Prop := digits ≠ [] ∧ ∀ c ∈ digits, c.isDigit = true

def natural (digits : List Char) : Nat := Nat.ofDigitChars 10 digits 0

inductive DenotesInteger : List Char → Int → Prop where
  | positive {digits : List Char} (plain : Plain digits) :
      DenotesInteger digits (natural digits)
  | negative {digits : List Char} (plain : Plain digits) :
      DenotesInteger ('-' :: digits) (-(natural digits : Int))

inductive Size : List Char → ℚ → Prop where
  | whole {digits : List Char} (plain : Plain digits) : Size digits (natural digits)
  | fraction {digits decimals : List Char} (plain : Plain digits) (plain' : Plain decimals) :
      Size (digits ++ '.' :: decimals)
        (natural digits + natural decimals / 10 ^ decimals.length)

inductive Denotes : List Char → Bool → ℚ → Prop where
  | positive {token : List Char} {size : ℚ} (unsigned : Size token size) :
      Denotes token false size
  | negative {token : List Char} {size : ℚ} (unsigned : Size token size) :
      Denotes ('-' :: token) true size

theorem whole_size {digits : List Char} {n : Nat} (plain : Plain digits)
    (value : natural digits = n) : Size digits n :=
  value ▸ .whole plain

theorem size_of_positive {token : List Char} {size : ℚ} (denoted : Denotes token false size) :
    Size token size := by
  cases denoted with
  | positive unsigned => exact unsigned

/-- A digit that has no value is among the characters. -/
def Foreign (token : List Char) : Prop := ∃ c ∈ token, isDigit c = true ∧ c.isDigit = false

theorem ascii_digit_code {c : Char} (digit : c.isDigit = true) : 48 ≤ c.toNat ∧ c.toNat < 58 := by
  simp only [Char.isDigit, UInt32.le_iff_toNat_le, Bool.and_eq_true, decide_eq_true_eq, ge_iff_le,
    Char.reduceVal, UInt32.reduceToNat, Char.toNat_val] at digit
  omega

theorem ascii_digit_is_digit {c : Char} (digit : c.isDigit = true) : isDigit c = true := by
  have code := ascii_digit_code digit
  simp only [isDigit, List.any_eq_true, Bool.and_eq_true, decide_eq_true_eq]
  exact ⟨0x30, by decide, by omega, by omega⟩

theorem plain_digits {digits : List Char} (plain : Plain digits) : Digits digits :=
  ⟨plain.1, fun c member => ascii_digit_is_digit (plain.2 c member)⟩

theorem plain_or_foreign {digits : List Char} (valid : Digits digits) :
    Plain digits ∨ Foreign digits := by
  by_cases plain : ∀ c ∈ digits, c.isDigit = true
  · exact Or.inl ⟨valid.1, plain⟩
  · simp only [not_forall, Bool.not_eq_true] at plain
    obtain ⟨c, member, other⟩ := plain
    exact Or.inr ⟨c, member, valid.2 c member, other⟩

theorem natural_plain {digits : List Char} (plain : Plain digits) :
    natural? digits = some (natural digits) := by
  obtain ⟨nonempty, all⟩ := plain
  simp [natural?, natural, nonempty, List.all_eq_true.mpr all]

theorem natural_foreign {digits : List Char} (foreign : Foreign digits) :
    natural? digits = none := by
  obtain ⟨c, member, _, other⟩ := foreign
  have mixed : digits.all Char.isDigit = false :=
    List.all_eq_false.mpr ⟨c, member, by simp [other]⟩
  simp [natural?, mixed]

theorem natural_append (digits decimals : List Char) :
    natural (digits ++ decimals) =
      10 ^ decimals.length * natural digits + natural decimals := by
  rw [natural, Nat.ofDigitChars_append, Nat.ofDigitChars_eq_ofDigitChars_zero]
  rfl

theorem foreign_append {front back : List Char} :
    Foreign (front ++ back) ↔ Foreign front ∨ Foreign back := by
  simp only [Foreign, List.mem_append, or_and_right, exists_or]

theorem foreign_of_cons {c : Char} {token : List Char} (mark : isDigit c = false) :
    Foreign (c :: token) ↔ Foreign token := by
  simp [Foreign, mark]

theorem plain_not_foreign {digits : List Char} (plain : Plain digits) : ¬ Foreign digits := by
  intro foreign
  obtain ⟨c, member, _, other⟩ := foreign
  simp [plain.2 c member] at other

/-! Integers -/

theorem int64_some_iff {n : Int} {k : Int64} : int64? n = some k ↔ k.toInt = n := by
  have least : Int64.minValue.toInt = -2 ^ 63 := rfl
  have most : Int64.maxValue.toInt = 2 ^ 63 - 1 := rfl
  simp only [int64?, Option.ite_none_right_eq_some, Option.some.injEq]
  constructor
  · intro held
    obtain ⟨range, rfl⟩ := held
    exact Int64.toInt_ofInt_of_le (by omega) (by omega)
  · intro value
    have low := k.le_toInt
    have high := k.toInt_lt
    exact ⟨by omega, by rw [← value, Int64.ofInt_toInt]⟩

theorem int64_none_iff {n : Int} :
    int64? n = none ↔ n < Int64.minValue.toInt ∨ Int64.maxValue.toInt < n := by
  simp only [int64?, ite_eq_right_iff, reduceCtorEq, imp_false]
  omega

theorem split_digits {digits : List Char} (valid : Digits digits) (rest : List Char) :
    splitSign (digits ++ rest) = (false, digits ++ rest) := by
  obtain ⟨d, more, starts, digit⟩ := digits_start valid rest
  rw [starts]
  simp [splitSign, digit_not_minus digit]

theorem integer_denoted {token : List Char} {n : Int} (denoted : DenotesInteger token n) :
    integer? token = int64? n := by
  cases denoted with
  | @positive digits plain =>
    have unsigned := split_digits (plain_digits plain) []
    rw [List.append_nil] at unsigned
    simp [integer?, unsigned, natural_plain plain]
  | negative plain => simp [integer?, splitSign, natural_plain plain]

theorem integer_text {token : List Char} (fits : NumeralText true false token) :
    (Foreign token ∧ integer? token = none) ∨ ¬ Foreign token ∧ ∃ n, DenotesInteger token n := by
  obtain ⟨sign, digits, tail, rfl, valid, signs, rfl | ⟨wrong, _⟩⟩ := fits
  · rcases plain_or_foreign valid with plain | foreign
    · refine Or.inr ?_
      rcases signs with rfl | ⟨_, rfl⟩
      · simpa using ⟨plain_not_foreign plain, _, DenotesInteger.positive plain⟩
      · refine ⟨?_, _, by simpa using DenotesInteger.negative plain⟩
        simpa [foreign_of_cons (show isDigit '-' = false by decide)] using plain_not_foreign plain
    · refine Or.inl ?_
      rcases signs with rfl | ⟨_, rfl⟩
      · have unsigned := split_digits valid []
        rw [List.append_nil] at unsigned
        simpa [integer?, unsigned, natural_foreign foreign] using foreign
      · simpa [integer?, splitSign, natural_foreign foreign,
          foreign_of_cons (show isDigit '-' = false by decide)] using foreign
  · simp at wrong

theorem integer_is_numeral {token : List Char} {n : Int} (denoted : DenotesInteger token n) :
    NumeralText true false token := by
  cases denoted with
  | positive plain => exact ⟨[], token, [], by simp, plain_digits plain, Or.inl rfl, Or.inl rfl⟩
  | @negative digits plain =>
    exact ⟨['-'], digits, [], by simp, plain_digits plain, Or.inr ⟨rfl, rfl⟩, Or.inl rfl⟩

theorem digits_of_natural (n : Nat) :
    Plain (Nat.toDigits 10 n) ∧ natural (Nat.toDigits 10 n) = n :=
  ⟨⟨Nat.toDigits_ne_nil, fun _ => Nat.isDigit_of_mem_toDigits (by decide) (by decide)⟩,
    Nat.ofDigitChars_toDigits (by decide) (by decide)⟩

theorem written_integer (n : Int) : DenotesInteger (toString n).toList n := by
  cases n with
  | ofNat n =>
    have ⟨plain, value⟩ := digits_of_natural n
    have written : (toString (Int.ofNat n)).toList = Nat.toDigits 10 n := Nat.toList_repr
    have denoted := DenotesInteger.positive plain
    rwa [value, ← written] at denoted
  | negSucc n =>
    have ⟨plain, value⟩ := digits_of_natural (n + 1)
    have written : (toString (Int.negSucc n)).toList = '-' :: Nat.toDigits 10 (n + 1) := by
      change ("-" ++ Nat.repr (n + 1)).toList = _
      rw [String.toList_append, Nat.toList_repr]
      rfl
    have denoted := DenotesInteger.negative plain
    rwa [value, ← written] at denoted

/-! Amounts -/

theorem point_ends_whole {digits tail : List Char} (valid : Digits digits)
    (tails : tail = [] ∨ ∃ decimals, tail = '.' :: decimals ∧ Digits decimals) :
    (digits ++ tail).takeWhile (· != '.') = digits ∧
      (digits ++ tail).dropWhile (· != '.') = tail := by
  refine span_iff.mpr ⟨rfl, fun c member => ?_, fun c more starts => ?_⟩
  · rw [bne_iff_ne]
    intro point
    subst point
    simpa [point_not_digit] using valid.2 '.' member
  · rcases tails with rfl | ⟨decimals, rfl, _⟩
    · simp at starts
    · obtain ⟨rfl, _⟩ := List.cons.inj starts
      decide

theorem amount_split {sign digits tail : List Char} (signs : sign = [] ∨ sign = ['-'])
    (valid : Digits digits)
    (tails : tail = [] ∨ ∃ decimals, tail = '.' :: decimals ∧ Digits decimals) :
    amount? (sign ++ digits ++ tail) = (natural? (digits ++ tail.drop 1)).map
      fun n => .ofRatio (!sign.isEmpty) n (Nat.pow 10 (tail.drop 1).length) := by
  obtain ⟨whole, rest⟩ := point_ends_whole valid tails
  have signed : splitSign (sign ++ digits ++ tail) = (!sign.isEmpty, digits ++ tail) := by
    rcases signs with rfl | rfl
    · exact split_digits valid tail
    · rfl
  simp only [amount?, signed, whole, rest]
  cases natural? (digits ++ tail.drop 1) <;> rfl

theorem size_parts {token : List Char} {size : ℚ} (unsigned : Size token size) :
    ∃ digits tail, token = digits ++ tail ∧ Digits digits ∧
      (tail = [] ∨ ∃ decimals, tail = '.' :: decimals ∧ Digits decimals) ∧
      ∃ n, natural? (digits ++ tail.drop 1) = some n ∧ size = n / 10 ^ (tail.drop 1).length := by
  cases unsigned with
  | whole plain =>
    refine ⟨token, [], by simp, plain_digits plain, Or.inl rfl, natural token, ?_, by simp⟩
    simpa using natural_plain plain
  | @fraction digits decimals plain plain' =>
    have both : Plain (digits ++ decimals) := by
      refine ⟨by simp [plain.1], fun c member => ?_⟩
      rcases List.mem_append.mp member with first | second
      · exact plain.2 c first
      · exact plain'.2 c second
    refine ⟨digits, '.' :: decimals, rfl, plain_digits plain,
      Or.inr ⟨decimals, rfl, plain_digits plain'⟩, _, natural_plain both, ?_⟩
    have scale : (10 : ℚ) ^ decimals.length ≠ 0 := by positivity
    rw [List.drop_one, List.tail_cons, natural_append]
    push_cast
    rw [add_div, mul_div_cancel_left₀ _ scale]

theorem denoted_parts {token : List Char} {negative : Bool} {size : ℚ}
    (denoted : Denotes token negative size) :
    ∃ sign digits tail, token = sign ++ digits ++ tail ∧ (sign = [] ∨ sign = ['-']) ∧
      negative = !sign.isEmpty ∧ Digits digits ∧
      (tail = [] ∨ ∃ decimals, tail = '.' :: decimals ∧ Digits decimals) ∧
      ∃ n, natural? (digits ++ tail.drop 1) = some n ∧ size = n / 10 ^ (tail.drop 1).length := by
  cases denoted with
  | positive unsigned =>
    obtain ⟨digits, tail, rfl, valid, tails, value⟩ := size_parts unsigned
    exact ⟨[], digits, tail, rfl, Or.inl rfl, rfl, valid, tails, value⟩
  | negative unsigned =>
    obtain ⟨digits, tail, rfl, valid, tails, value⟩ := size_parts unsigned
    exact ⟨['-'], digits, tail, rfl, Or.inr rfl, rfl, valid, tails, value⟩

theorem amount_denoted {token : List Char} {negative : Bool} {size : ℚ}
    (denoted : Denotes token negative size) :
    ∃ amount, amount? token = some amount ∧ amount.Nearest negative size := by
  obtain ⟨sign, digits, tail, rfl, signs, rfl, valid, tails, n, read, rfl⟩ := denoted_parts denoted
  have positive : 0 < Nat.pow 10 (tail.drop 1).length := Nat.pow_pos (by decide)
  have nearest := of_ratio_nearest (!sign.isEmpty) n positive
  rw [amount_split signs valid tails, read]
  exact ⟨_, rfl, by simpa only [Nat.pow_eq, Nat.cast_pow, Nat.cast_ofNat] using nearest⟩

theorem amount_read_iff {token : List Char} {negative : Bool} {size : ℚ}
    (denoted : Denotes token negative size) {amount : Amount} :
    amount? token = some amount ↔ amount.Nearest negative size := by
  obtain ⟨found, read, nearest⟩ := amount_denoted denoted
  rw [read, Option.some.injEq]
  constructor
  · intro same
    exact same ▸ nearest
  · exact nearest_unique nearest

theorem amount_is_numeral {token : List Char} {negative : Bool} {size : ℚ}
    (denoted : Denotes token negative size) : NumeralText true true token := by
  obtain ⟨sign, digits, tail, rfl, signs, _, valid, tails, _⟩ := denoted_parts denoted
  exact ⟨sign, digits, tail, rfl, valid, signs.imp_right fun minus => ⟨rfl, minus⟩,
    tails.imp_right fun pointed => ⟨rfl, pointed⟩⟩

theorem size_is_numeral {token : List Char} {size : ℚ} (unsigned : Size token size) :
    NumeralText false true token := by
  obtain ⟨digits, tail, rfl, valid, tails, -⟩ := size_parts unsigned
  exact ⟨[], digits, tail, rfl, valid, Or.inl rfl, tails.imp_right fun pointed => ⟨rfl, pointed⟩⟩

theorem amount_text {token : List Char} (fits : NumeralText true true token) :
    (Foreign token ∧ amount? token = none) ∨
      ¬ Foreign token ∧ ∃ negative size, Denotes token negative size := by
  obtain ⟨sign, digits, tail, rfl, valid, signs, tails⟩ := fits
  have signs : sign = [] ∨ sign = ['-'] := signs.imp_right And.right
  have tails : tail = [] ∨ ∃ decimals, tail = '.' :: decimals ∧ Digits decimals :=
    tails.imp_right And.right
  have unmarked : Foreign (sign ++ digits ++ tail) ↔ Foreign (digits ++ tail.drop 1) := by
    have minus : ¬ Foreign sign := by
      intro foreign
      obtain ⟨c, member, digit, _⟩ := foreign
      rcases signs with rfl | rfl
      · simp at member
      · obtain rfl : c = '-' := by simpa using member
        exact absurd digit (by decide)
    have point : Foreign tail ↔ Foreign (tail.drop 1) := by
      rcases tails with rfl | ⟨decimals, rfl, _⟩
      · rfl
      · exact foreign_of_cons point_not_digit
    rw [foreign_append, foreign_append, foreign_append, point]
    simp [minus]
  rw [unmarked, amount_split signs valid tails]
  have all : Digits (digits ++ tail.drop 1) := by
    refine ⟨by simp [valid.1], fun c member => ?_⟩
    rcases List.mem_append.mp member with first | second
    · exact valid.2 c first
    · rcases tails with rfl | ⟨decimals, rfl, valid'⟩
      · simp at second
      · exact valid'.2 c second
  rcases plain_or_foreign all with plain | foreign
  · refine Or.inr ⟨plain_not_foreign plain, ?_⟩
    have front : Plain digits := ⟨valid.1, fun c member => plain.2 c (by simp [member])⟩
    have unsigned : ∃ size, Size (digits ++ tail) size := by
      rcases tails with rfl | ⟨decimals, rfl, valid'⟩
      · exact ⟨_, by simpa using Size.whole front⟩
      · exact ⟨_, .fraction front ⟨valid'.1, fun c member => plain.2 c (by simp [member])⟩⟩
    obtain ⟨size, unsigned⟩ := unsigned
    rcases signs with rfl | rfl
    · exact ⟨false, size, .positive unsigned⟩
    · exact ⟨true, size, .negative unsigned⟩
  · exact Or.inl ⟨foreign, by rw [natural_foreign foreign]; rfl⟩

end InjectionLab.Numeral
