import InjectionLab.Json.Number
import InjectionLab.Json.Basic
import Mathlib.Data.List.Basic
import Mathlib.Tactic.ByContra
import Mathlib.Tactic.Ring

/-!
Numbers read back. The text of a number is read as that number, up to whatever cannot go on with it:
an integer by its digits, and a double because its text is chosen by reading it, or else is all of
its digits with a power of ten. No other characters are written.
-/
namespace InjectionLab.Json.Number

/-- No digit, point or exponent stands first, so that a number before it ends there. -/
def EndsNumber (rest : List Char) : Prop :=
  ∀ c, rest.head? = some c → c.isDigit = false ∧ c ≠ '.' ∧ c ≠ 'e' ∧ c ≠ 'E'

def Reads (n : Number) (text : List Char) : Prop :=
  ∃ lexeme, readLexeme text = some (lexeme, []) ∧ lexeme.number? = some n

def Whole (digits : List Char) : Prop := digits ≠ [] ∧ (digits.head? = some '0' → digits = ['0'])

theorem read_whole_iff {text whole left : List Char} :
    readWhole text = some (whole, left) ↔ spanDigits text = (whole, left) ∧ Whole whole := by
  rw [readWhole]
  generalize spanDigits text = span
  obtain ⟨digits, after⟩ := span
  rcases digits with _ | ⟨d, _ | ⟨d', more⟩⟩
  · simp +contextual [Whole]
  · by_cases zero : d = '0' <;> simp +contextual [Whole, zero, eq_comm]
  · by_cases zero : d = '0' <;> simp +contextual [Whole, zero, eq_comm]

theorem no_fraction {c : Char} {text : List Char} (other : c ≠ '.') :
    readFraction (c :: text) = some (none, c :: text) := by
  rw [readFraction]
  simpa using other

theorem sign_before (c : Char) (text rest : List Char) :
    readSign (c :: text ++ rest) = ((readSign (c :: text)).1, (readSign (c :: text)).2 ++ rest) := by
  by_cases minus : c = '-'
  · subst minus
    rfl
  · simp [readSign, minus]

theorem exponent_sign_before (c : Char) (text rest : List Char) :
    readExponentSign (c :: text ++ rest) =
      ((readExponentSign (c :: text)).1, (readExponentSign (c :: text)).2 ++ rest) := by
  by_cases plus : c = '+'
  · subst plus
    rfl
  · have unsigned (more : List Char) : readExponentSign (c :: more) = readSign (c :: more) := by
      simp [readExponentSign, plus]
    rw [List.cons_append, unsigned, unsigned, ← sign_before, List.cons_append]

/-! Text that goes on -/

section Continued
variable {rest : List Char} (ends : EndsNumber rest)
include ends

theorem span_digits_before {text digits left : List Char}
    (span : spanDigits text = (digits, left)) :
    spanDigits (text ++ rest) = (digits, left ++ rest) := by
  induction text generalizing digits with
  | nil =>
    cases span
    cases rest with
    | nil => rfl
    | cons c rest => simp [spanDigits, (ends c rfl).1]
  | cons c text ih =>
    simp only [spanDigits, Prod.mk.injEq] at ih span ⊢
    cases digit : c.isDigit with
    | true => simp_all
    | false =>
      rw [List.takeWhile_cons_of_neg (by simp [digit]), List.dropWhile_cons_of_neg (by simp [digit])]
        at span
      obtain ⟨rfl, rfl⟩ := span
      simp [digit]

theorem whole_before {text whole left : List Char} (read : readWhole text = some (whole, left)) :
    readWhole (text ++ rest) = some (whole, left ++ rest) := by
  rw [read_whole_iff] at read ⊢
  exact ⟨span_digits_before ends read.1, read.2⟩

theorem fraction_before {text left : List Char} {fraction : Option (List Char)}
    (read : readFraction text = some (fraction, left)) :
    readFraction (text ++ rest) = some (fraction, left ++ rest) := by
  cases text with
  | nil =>
    cases read
    cases rest with
    | nil => rfl
    | cons c rest => simp [readFraction, (ends c rfl).2.1]
  | cons c text =>
    by_cases point : c = '.'
    · subst point
      cases span : spanDigits text with
      | mk digits after =>
        have longer := span_digits_before ends span
        simp only [List.cons_append, readFraction, span, longer] at read ⊢
        cases digits <;> simp_all
    · rw [no_fraction point] at read
      cases read
      exact no_fraction point

theorem exponent_before {text left : List Char} {exponent : Option Int}
    (read : readExponent text = some (exponent, left)) :
    readExponent (text ++ rest) = some (exponent, left ++ rest) := by
  cases text with
  | nil =>
    cases read
    cases rest with
    | nil => rfl
    | cons c rest =>
      obtain ⟨_, _, small, large⟩ := ends c rfl
      simp [readExponent, small, large]
  | cons mark text =>
    by_cases exponential : mark = 'e' ∨ mark = 'E'
    · rw [readExponent, if_pos exponential] at read
      rw [List.cons_append, readExponent, if_pos exponential]
      cases text with
      | nil => simp [readExponentSign, readSign, spanDigits] at read
      | cons c text =>
        rw [exponent_sign_before]
        generalize readExponentSign (c :: text) = signed at read
        obtain ⟨negative, after⟩ := signed
        cases span : spanDigits after with
        | mk digits left' =>
          have longer := span_digits_before ends span
          simp only [span, longer] at read ⊢
          cases digits <;> simp_all
    · rw [readExponent, if_neg exponential] at read
      rw [List.cons_append, readExponent, if_neg exponential]
      cases read
      rfl

theorem lexeme_before {text left : List Char} {lexeme : Lexeme}
    (read : readLexeme text = some (lexeme, left)) :
    readLexeme (text ++ rest) = some (lexeme, left ++ rest) := by
  cases text with
  | nil => cases read
  | cons c text =>
    simp only [readLexeme, Option.bind_eq_bind, Option.bind_eq_some_iff, Prod.exists] at read ⊢
    rw [sign_before]
    obtain ⟨whole, afterWhole, readWhole, fraction, afterFraction, readFraction, exponent,
      afterExponent, readExponent, made⟩ := read
    cases made
    exact ⟨_, _, whole_before ends readWhole, _, _, fraction_before ends readFraction, _, _,
      exponent_before ends readExponent, rfl⟩

theorem reads_before {n : Number} {text : List Char} (reads : n.Reads text) :
    ∃ lexeme, readLexeme (text ++ rest) = some (lexeme, rest) ∧ lexeme.number? = some n := by
  obtain ⟨lexeme, read, number⟩ := reads
  exact ⟨lexeme, lexeme_before ends read, number⟩

end Continued

/-! Natural numbers -/

theorem span_digits_run {digits rest : List Char} (run : ∀ c ∈ digits, c.isDigit = true)
    (stops : ∀ c, rest.head? = some c → c.isDigit = false) :
    spanDigits (digits ++ rest) = (digits, rest) := by
  have front : rest.takeWhile Char.isDigit = [] ∧ rest.dropWhile Char.isDigit = rest := by
    cases rest with
    | nil => exact ⟨rfl, rfl⟩
    | cons c rest => simp [stops c rfl]
  rw [spanDigits, List.takeWhile_append_of_pos run, List.dropWhile_append_of_pos run, front.1,
    front.2, List.append_nil]

theorem nat_text_digits (n : Nat) : ∀ c ∈ natText n, c.isDigit = true := fun _ =>
  Nat.isDigit_of_mem_toDigits (by decide) (by decide)

theorem nat_text_value (n : Nat) : digitsValue (natText n) = n :=
  Nat.ofDigitChars_toDigits (by decide) (by decide)

theorem nat_text_whole (n : Nat) : Whole (natText n) := by
  refine ⟨Nat.toDigits_ne_nil, ?_⟩
  induction n using Nat.strongRecOn with
  | ind n ih =>
    intro zero
    rw [natText, Nat.toDigits_eq_if (by decide)] at zero ⊢
    split at zero
    · rename_i single
      rw [if_pos single]
      simpa using zero
    · rename_i several
      rw [List.head?_append_of_ne_nil _ Nat.toDigits_ne_nil] at zero
      have front := ih (n / 10) (by omega) zero
      have value := nat_text_value (n / 10)
      rw [front] at value
      have none : n / 10 = 0 := value.symm
      omega

theorem nat_text_starts (n : Nat) : ∃ d more, natText n = d :: more ∧ d.isDigit = true := by
  cases written : natText n with
  | nil => exact absurd written Nat.toDigits_ne_nil
  | cons d more => exact ⟨d, more, rfl, nat_text_digits n d (by simp [written])⟩

theorem read_nat_text (n : Nat) (rest : List Char)
    (stops : ∀ c, rest.head? = some c → c.isDigit = false) :
    readWhole (natText n ++ rest) = some (natText n, rest) :=
  read_whole_iff.mpr ⟨span_digits_run (nat_text_digits n) stops, nat_text_whole n⟩

theorem nat_text_unsigned (n : Nat) (rest : List Char) :
    readSign (natText n ++ rest) = (false, natText n ++ rest) := by
  obtain ⟨d, more, written, digit⟩ := nat_text_starts n
  have positive : d ≠ '-' := by
    rintro rfl
    exact absurd digit (by decide)
  rw [written]
  simp [readSign, positive]

theorem sign_of_digits (negative : Bool) (n : Nat) (rest : List Char) :
    readSign ((if negative then ['-'] else []) ++ natText n ++ rest) =
      (negative, natText n ++ rest) := by
  cases negative with
  | true => rfl
  | false => exact nat_text_unsigned n rest

/-! Integers -/

theorem read_int_text (n : Int) :
    readLexeme (intText n) = some (⟨decide (n < 0), natText n.natAbs, none, none⟩, []) := by
  have written : intText n =
      (if decide (n < 0) then ['-'] else []) ++ natText n.natAbs ++ [] := by
    by_cases negative : n < 0 <;> simp [intText, negative]
  have whole := read_nat_text n.natAbs [] (fun _ none => nomatch none)
  rw [written]
  simp only [readLexeme, Option.bind_eq_bind, sign_of_digits, whole, Option.bind_some, readFraction,
    readExponent]

theorem integer_of_digits {n : Int} (fits : (integer n).inRange = true) :
    Lexeme.integer? ⟨decide (n < 0), natText n.natAbs, none, none⟩ = some n := by
  simp only [Number.inRange, Bool.and_eq_true, decide_eq_true_eq] at fits
  simp only [Lexeme.integer?, nat_text_value, Option.isSome_none, Bool.or_self, Bool.false_eq_true,
    ↓reduceIte, decide_eq_true_eq]
  split
  · have size : 0 < (n.natAbs : Int) ∧ Int64.minValue.toInt ≤ -(n.natAbs : Int) := by omega
    rw [if_pos size, Option.some.injEq]
    omega
  · have size : (n.natAbs : Int) < UInt64.size := by omega
    rw [if_pos size, Option.some.injEq]
    omega

theorem integer_reads {n : Int} (fits : (integer n).inRange = true) :
    (integer n).Reads (intText n) :=
  ⟨_, read_int_text n, by rw [Lexeme.number?, integer_of_digits fits]⟩

/-! Doubles -/

theorem round_units_exact {units num den : Nat} (positive : 0 < den)
    (exact : num * unitsPerOne = units * den) (representable : Representable units) :
    roundUnits num den = units := by
  have place : 0 < Nat.pow 2 (units.log2 - 52) := Nat.two_pow_pos _
  obtain ⟨significand, split⟩ := Nat.dvd_of_mod_eq_zero representable.2
  simp only [roundUnits, exact, Nat.mul_div_cancel _ positive]
  generalize Nat.pow 2 (units.log2 - 52) = unit at place split
  have multiple : units * den = significand * (den * unit) := by
    rw [split]
    ring
  rw [roundHalfEven, multiple, Nat.mul_mod_left, Nat.mul_div_cancel _ (Nat.mul_pos positive place),
    if_pos (Nat.mul_pos positive place), split, Nat.mul_comm]

theorem ratio_exact {units num den : Nat} (positive : 0 < den)
    (exact : num * unitsPerOne = units * den) (negative : Bool)
    (representable : Representable units) :
    Amount.ofRatio negative num den = .finite ⟨negative, units, representable⟩ := by
  have kept := round_units_exact positive exact representable
  simp only [Amount.ofRatio, kept, representable, ↓reduceDIte]

theorem scientific_of_wide {negative : Bool} {digits width : Nat} (places : Nat) (nonzero : digits ≠ 0)
    (several : 0 < places) (wide : places < width + 400) :
    Amount.ofScientific negative digits width (-places) =
      .ofRatio negative digits (Nat.pow 10 places) := by
  rw [Amount.ofScientific, if_neg nonzero, if_neg (by omega), if_pos (by omega), Int.neg_neg,
    Int.toNat_natCast]

/-- The digits of a double that is not zero are too many for the power of ten to make it zero. -/
theorem product_wide {units fives width : Nat} (positive : 0 < units) (several : 0 < width)
    (large : Nat.pow 10 width ≤ fives) : width < (natText (units * fives)).length := by
  have product := Nat.le_trans large (Nat.le_mul_of_pos_left fives positive)
  by_contra short
  have small := (Nat.length_toDigits_le_iff (by decide) several).mp (Nat.not_lt.mp short)
  exact absurd small (Nat.not_lt.mpr product)

/-- A double is its digits divided by a power of ten, which is not worked out here. -/
theorem digits_over_power (x : Double) {fives places : Nat} (several : 400 < places)
    (product : fives * unitsPerOne = Nat.pow 10 places) (large : Nat.pow 10 (places - 400) ≤ fives) :
    Amount.ofScientific x.negative (x.units * fives) (natText (x.units * fives)).length (-places) =
      .finite x := by
  obtain ⟨negative, units, representable⟩ := x
  dsimp only
  rcases Nat.eq_zero_or_pos units with rfl | positive
  · rw [Nat.zero_mul, Amount.ofScientific, if_pos rfl]
    rfl
  · have wide := product_wide positive (by omega) large
    have nonzero : units * fives ≠ 0 := by
      intro none
      rw [none, natText, Nat.toDigits_zero, List.length_singleton] at wide
      omega
    rw [scientific_of_wide places nonzero (by omega) (by omega)]
    have tens : 0 < Nat.pow 10 places := Nat.pow_pos (by decide)
    exact ratio_exact tens (by rw [Nat.mul_assoc, product]) negative representable

theorem exact_amount (x : Double) :
    Amount.ofScientific x.negative (x.units * Nat.pow 5 1074)
      (natText (x.units * Nat.pow 5 1074)).length (-1074) = .finite x :=
  digits_over_power x (by decide) (by decide +kernel) (by decide +kernel)

theorem read_exact_text (negative : Bool) (n : Nat) :
    readLexeme ((if negative then ['-'] else []) ++ natText n ++ ['e', '-', '1', '0', '7', '4']) =
      some (⟨negative, natText n, none, some (-1074)⟩, []) := by
  have exponent : readExponent ['e', '-', '1', '0', '7', '4'] = some (some (-1074), []) := by
    decide +kernel
  have fraction : readFraction ['e', '-', '1', '0', '7', '4'] =
      some (none, ['e', '-', '1', '0', '7', '4']) := rfl
  have whole := read_nat_text n ['e', '-', '1', '0', '7', '4'] (fun c first => by cases first; rfl)
  simp only [readLexeme, Option.bind_eq_bind, sign_of_digits, whole, fraction, exponent,
    Option.bind_some]

theorem exact_value {negative : Bool} {n : Nat} {x : Double}
    (amount : Amount.ofScientific negative n (natText n).length (-1074) = .finite x) :
    Lexeme.number? ⟨negative, natText n, none, some (-1074)⟩ = some (real x) := by
  have integer : Lexeme.integer? ⟨negative, natText n, none, some (-1074)⟩ = none := rfl
  have same : Lexeme.amount ⟨negative, natText n, none, some (-1074)⟩ = .finite x := by
    simpa [Lexeme.amount, nat_text_value] using amount
  rw [Lexeme.number?, integer]
  simp only [same]

theorem exact_reads (x : Double) : (real x).Reads (exactText x) := by
  have amount := exact_amount x
  rw [exactText]
  generalize x.units * Nat.pow 5 1074 = n at amount ⊢
  exact ⟨_, read_exact_text x.negative n, exact_value amount⟩

theorem reads_as_iff {x : Double} {text : List Char} :
    readsAs x text = true ↔ (real x).Reads text := by
  rw [readsAs, Reads]
  cases readLexeme text with
  | none => simp
  | some read =>
    obtain ⟨lexeme, left⟩ := read
    cases left with
    | nil => simp
    | cons c left => simp

theorem text_reads {n : Number} (fits : n.inRange = true) : n.Reads n.text := by
  cases n with
  | integer n => exact integer_reads fits
  | real x =>
    rw [text, realText]
    cases found : (candidates x).find? (readsAs x) with
    | none => exact exact_reads x
    | some text => exact reads_as_iff.mp (List.find?_some found)

theorem reads_starts {n : Number} {text : List Char} (reads : n.Reads text) :
    ∃ c more, text = c :: more ∧ (c.isDigit = true ∨ c = '-') := by
  obtain ⟨lexeme, read, _⟩ := reads
  cases text with
  | nil => cases read
  | cons c more =>
    refine ⟨c, more, rfl, ?_⟩
    by_contra other
    obtain ⟨letter, positive⟩ := not_or.mp other
    have unsigned : readSign (c :: more) = (false, c :: more) := by simp [readSign, positive]
    simp [readLexeme, unsigned, readWhole, spanDigits, letter] at read

/-! Characters -/

def isNumeric (c : Char) : Bool := c.isDigit || ['-', '+', '.', 'e'].contains c

def Numeric (text : List Char) : Prop := ∀ c ∈ text, isNumeric c = true

theorem numeric_append {front back : List Char} :
    Numeric (front ++ back) ↔ Numeric front ∧ Numeric back := List.forall_mem_append

theorem numeric_cons {c : Char} {text : List Char} :
    Numeric (c :: text) ↔ isNumeric c = true ∧ Numeric text := List.forall_mem_cons

theorem nat_text_numeric (n : Nat) : Numeric (natText n) := by
  intro c member
  rw [isNumeric, nat_text_digits n c member, Bool.true_or]

theorem signed_numeric {text : List Char} (numeric : Numeric text) : Numeric ('-' :: text) :=
  List.forall_mem_cons.mpr ⟨rfl, numeric⟩

theorem zeros_numeric (n : Nat) : Numeric (List.replicate n '0') := by
  intro c member
  rw [List.eq_of_mem_replicate member]
  rfl

theorem strip_zeros_numeric {digits : List Char} (numeric : Numeric digits) :
    Numeric (stripZeros digits) := by
  unfold stripZeros
  split
  · exact zeros_numeric 1
  · intro c member
    have kept := List.mem_reverse.mp member
    exact numeric c (List.mem_reverse.mp ((List.dropWhile_suffix _).subset kept))

theorem positional_numeric {digits : List Char} (numeric : Numeric digits) (exponent : Int) :
    Numeric (positional digits exponent) := by
  unfold positional
  split_ifs
  · exact numeric_append.mpr ⟨numeric_cons.mpr ⟨rfl, numeric_cons.mpr ⟨rfl, zeros_numeric _⟩⟩, numeric⟩
  · have whole : Numeric (digits.take (exponent.toNat + 1) ++
        List.replicate (exponent.toNat + 1 - digits.length) '0') :=
      numeric_append.mpr ⟨fun c member => numeric c (List.mem_of_mem_take member), zeros_numeric _⟩
    have fraction : Numeric (digits.drop (exponent.toNat + 1)) := fun c member =>
      numeric c (List.mem_of_mem_drop member)
    dsimp only
    split
    · exact numeric_append.mpr ⟨whole, by simp [Numeric, isNumeric]⟩
    · exact numeric_append.mpr ⟨whole, numeric_cons.mpr ⟨rfl, fraction⟩⟩

theorem scientific_numeric {digits : List Char} (numeric : Numeric digits) (exponent : Int) :
    Numeric (scientific digits exponent) := by
  unfold scientific
  dsimp only
  refine numeric_append.mpr ⟨?_, numeric_cons.mpr ⟨rfl, numeric_cons.mpr ⟨?_, nat_text_numeric _⟩⟩⟩
  · split
    · obtain ⟨first, rest⟩ := numeric_cons.mp numeric
      exact numeric_cons.mpr ⟨first, numeric_cons.mpr ⟨rfl, rest⟩⟩
    · exact numeric
  · split_ifs <;> rfl

theorem layout_numeric (layout : Layout) (negative : Bool) (digits : Nat) (exponent : Int) :
    Numeric (layout.text negative digits exponent) := by
  have kept := strip_zeros_numeric (nat_text_numeric digits)
  have size : ∀ first : Int, Numeric (if layout.least ≤ first ∧ first ≤ layout.most then
      positional (stripZeros (natText digits)) first
      else scientific (stripZeros (natText digits)) first) := by
    intro first
    split_ifs
    · exact positional_numeric kept first
    · exact scientific_numeric kept first
  unfold Layout.text
  cases negative with
  | true => exact signed_numeric (size _)
  | false => exact size _

theorem int_text_numeric (n : Int) : Numeric (intText n) := by
  unfold intText
  split_ifs
  · exact signed_numeric (nat_text_numeric n.natAbs)
  · exact nat_text_numeric n.natAbs

theorem text_numeric (n : Number) : Numeric n.text := by
  cases n with
  | integer n => exact int_text_numeric n
  | real x =>
    rw [text, realText]
    cases found : (candidates x).find? (readsAs x) with
    | none =>
      refine numeric_append.mpr ⟨numeric_append.mpr ⟨?_, nat_text_numeric _⟩, ?_⟩
      · split_ifs <;> simp [Numeric, isNumeric]
      · simp [Numeric, isNumeric]
    | some candidate =>
      have listed := List.mem_of_find?_eq_some found
      simp only [candidates, List.mem_flatMap, List.mem_map] at listed
      obtain ⟨_, _, _, _, rfl⟩ := listed
      exact layout_numeric _ _ _ _

end InjectionLab.Json.Number
