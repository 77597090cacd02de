import InjectionLab.Timestamp
import InjectionLab.Proofs.NumeralValue

/-!
Moments read back. The text of a moment of the calendar, leap seconds and years of more than four
digits included, is read as that moment: each field has as many digits as its reader takes, or ends
at a mark that is no digit.
-/
namespace InjectionLab.Timestamp
open Text

/-! Fields -/

theorem padded_digits (width n : Nat) : ∀ c ∈ padded width n, c.isDigit = true := by
  intro c member
  rcases List.mem_append.mp member with zero | digit
  · rw [List.eq_of_mem_replicate zero]
    rfl
  · exact Nat.isDigit_of_mem_toDigits (by decide) (by decide) digit

theorem padded_value (width n : Nat) : Nat.ofDigitChars 10 (padded width n) 0 = n := by
  rw [padded, Nat.ofDigitChars_append, Nat.ofDigitChars_replicate_zero, Nat.mul_zero,
    Nat.ofDigitChars_toDigits (by decide) (by decide)]

theorem padded_length {width n : Nat} (several : 0 < width) (fits : n < 10 ^ width) :
    (padded width n).length = width := by
  have short := (Nat.length_toDigits_le_iff (by decide) several).mpr fits
  rw [padded, List.length_append, List.length_replicate]
  omega

theorem padded_nonempty (width n : Nat) : padded width n ≠ [] := by
  simp [padded, Nat.toDigits_ne_nil]

theorem trim_start_kept {c : Char} {text : List Char} (mark : isBlank c = false) :
    trimStart (c :: text) = c :: text := by
  rw [trimStart, List.dropWhile_cons_of_neg (by simp [mark])]

theorem digits_taken {digits rest : List Char} (run : ∀ c ∈ digits, c.isDigit = true)
    (stops : ∀ c, rest.head? = some c → c.isDigit = false) :
    (digits ++ rest).takeWhile Char.isDigit = digits := by
  rw [List.takeWhile_append_of_pos run]
  cases rest with
  | nil => simp
  | cons c rest => simp [stops c rfl]

theorem padded_starts (width n : Nat) : ∃ d more, padded width n = d :: more ∧ d.isDigit = true := by
  cases written : padded width n with
  | nil => exact absurd written (padded_nonempty width n)
  | cons d more => exact ⟨d, more, rfl, padded_digits width n d (by simp [written])⟩

theorem trim_start_padded (width n : Nat) (rest : List Char) :
    trimStart (padded width n ++ rest) = padded width n ++ rest := by
  obtain ⟨d, more, written, digit⟩ := padded_starts width n
  have mark := digit_not_blank (Numeral.ascii_digit_is_digit digit)
  rw [written, List.cons_append, trim_start_kept mark]

theorem read_field_padded (width : Nat) {n : Nat} (several : 0 < width) (fits : n < 10 ^ width)
    (rest : List Char) : readField width (padded width n ++ rest) = some (n, rest) := by
  have length := padded_length several fits
  have taken : ((padded width n ++ rest).takeWhile Char.isDigit).take width = padded width n := by
    rw [List.takeWhile_append_of_pos (padded_digits width n)]
    exact List.take_left' length
  rw [readField, trim_start_padded]
  simp only [taken, List.isEmpty_iff, padded_nonempty, ↓reduceIte, padded_value, List.drop_left]

theorem read_digits_padded (width n : Nat) {rest : List Char}
    (stops : ∀ c, rest.head? = some c → c.isDigit = false) :
    readDigits (padded width n ++ rest) = some (n, rest) := by
  have taken := digits_taken (padded_digits width n) stops
  simp only [readDigits, taken, List.isEmpty_iff, padded_nonempty, ↓reduceIte, padded_value,
    List.drop_left]

theorem read_mark_written {mark : Char} (unblank : isBlank mark = false) (rest : List Char) :
    readMark mark (mark :: rest) = some rest := by
  rw [readMark, trim_start_kept unblank]
  simp

/-! The parts of a moment -/

theorem read_year_text (year : Int) {rest : List Char}
    (stops : ∀ c, rest.head? = some c → c.isDigit = false) :
    readYear (yearText year ++ rest) = some (year, rest) := by
  rw [yearText]
  split
  · rename_i plain
    obtain ⟨d, more, written, digit⟩ := padded_starts 4 year.toNat
    have field := read_field_padded 4 (by decide)
      (show year.toNat < 10 ^ 4 by omega) rest
    have unsigned : d ≠ '-' ∧ d ≠ '+' := by
      constructor <;> (rintro rfl; exact absurd digit (by decide))
    rw [readYear, trim_start_padded]
    rw [written, List.cons_append] at field ⊢
    split
    · simp_all
    · simp_all
    · rw [field, Option.map_some, Option.some.injEq, Prod.mk.injEq]
      exact ⟨by omega, rfl⟩
  · split
    · rename_i negative
      rw [List.cons_append, readYear, trim_start_kept (by decide)]
      simp only [read_digits_padded 4 _ stops, Option.map_some, Option.some.injEq, Prod.mk.injEq]
      exact ⟨by omega, trivial⟩
    · rename_i positive
      rw [List.cons_append, readYear, trim_start_kept (by decide)]
      simp only [read_digits_padded 4 _ stops, Option.map_some, Option.some.injEq, Prod.mk.injEq]
      exact ⟨by omega, trivial⟩

theorem read_fraction_padded {width n : Nat} (several : 0 < width) (most : width ≤ 9)
    (fits : n < 10 ^ width) :
    readFraction ('.' :: padded width n ++ ['Z']) = some (n * Nat.pow 10 (9 - width), ['Z']) := by
  have taken : (padded width n ++ ['Z']).takeWhile Char.isDigit = padded width n :=
    digits_taken (padded_digits width n) (by simp)
  have length := padded_length several fits
  have counted : (padded width n).take 9 = padded width n := List.take_of_length_le (by omega)
  have left : (padded width n ++ ['Z']).drop width = ['Z'] := List.drop_left' length
  simp only [List.cons_append, readFraction, taken, List.isEmpty_iff, padded_nonempty, ↓reduceIte,
    counted, padded_value, length, left]

theorem read_fraction_text {nano : Nat} (bound : nano < 1000000000) :
    readFraction (fractionText nano ++ ['Z']) = some (nano, ['Z']) := by
  rw [fractionText]
  split
  · rename_i whole
    rw [whole]
    rfl
  · split
    · rename_i millis
      rw [read_fraction_padded (by decide) (by decide) (by omega)]
      simp only [Nat.reduceSub, Nat.pow_eq, Nat.reducePow]
      rw [Nat.div_mul_cancel (Nat.dvd_of_mod_eq_zero millis)]
    · split
      · rename_i micros
        rw [read_fraction_padded (by decide) (by decide) (by omega)]
        simp only [Nat.reduceSub, Nat.pow_eq, Nat.reducePow]
        rw [Nat.div_mul_cancel (Nat.dvd_of_mod_eq_zero micros)]
      · rw [read_fraction_padded (by decide) (by decide) (by omega)]
        simp

theorem to_universal_zero {t : Timestamp} (hour : t.hour < 24) (minute : t.minute < 60) :
    t.toUniversal 0 = t := by
  have within : (((t.hour * 60 + t.minute : Nat) - 0 : Int) % 1440).toNat =
      t.hour * 60 + t.minute := by omega
  simp only [toUniversal, within]
  rw [if_neg (by omega), if_neg (by omega), show (t.hour * 60 + t.minute) / 60 = t.hour by omega,
    show (t.hour * 60 + t.minute) % 60 = t.minute by omega]

theorem days_in_month (year : Int) (month : Nat) : daysIn year month ≤ 31 := by
  rw [daysIn.eq_def]
  split
  · split <;> decide
  all_goals decide

/-- What a moment writes is read as that moment. -/
theorem parse_text {t : Timestamp} (valid : t.valid = true) : parse? t.text = some t := by
  have fields := valid
  simp only [Timestamp.valid, Bool.and_eq_true, decide_eq_true_eq] at fields
  obtain ⟨⟨⟨⟨⟨⟨⟨⟨year, _⟩, month⟩, _⟩, day⟩, hour⟩, minute⟩, second⟩, nano⟩ := fields
  have days := days_in_month t.year t.month
  have pair {n : Nat} (fits : n < 100) (rest : List Char) :
      readField 2 (padded 2 n ++ rest) = some (n, rest) := read_field_padded 2 (by decide) fits rest
  have offset : readOffset ['Z'] = some (0, []) := by decide
  have laid : t.text = yearText t.year ++ '-' :: (padded 2 t.month ++ '-' :: (padded 2 t.day ++
      'T' :: (padded 2 t.hour ++ ':' :: (padded 2 t.minute ++ ':' :: (padded 2 t.second ++
        (fractionText t.nano ++ ['Z'])))))) := by
    simp [text]
  rw [laid, parse?]
  refine Option.bind_eq_some_iff.mpr ⟨_, read_year_text t.year (by simp), ?_⟩
  refine Option.bind_eq_some_iff.mpr ⟨_, read_mark_written (by decide) _, ?_⟩
  refine Option.bind_eq_some_iff.mpr ⟨_, pair (by omega) _, ?_⟩
  refine Option.bind_eq_some_iff.mpr ⟨_, read_mark_written (by decide) _, ?_⟩
  refine Option.bind_eq_some_iff.mpr ⟨_, pair (by omega) _, ?_⟩
  refine Option.bind_eq_some_iff.mpr ⟨_, rfl, ?_⟩
  refine Option.bind_eq_some_iff.mpr ⟨_, pair (by omega) _, ?_⟩
  refine Option.bind_eq_some_iff.mpr ⟨_, read_mark_written (by decide) _, ?_⟩
  refine Option.bind_eq_some_iff.mpr ⟨_, pair (by omega) _, ?_⟩
  refine Option.bind_eq_some_iff.mpr ⟨_, read_mark_written (by decide) _, ?_⟩
  refine Option.bind_eq_some_iff.mpr ⟨_, pair (by omega) _, ?_⟩
  refine Option.bind_eq_some_iff.mpr ⟨_, read_fraction_text nano, ?_⟩
  refine Option.bind_eq_some_iff.mpr ⟨_, offset, ?_⟩
  have read : (trimStart []).isEmpty && t.valid && yearInRange (t.toUniversal 0).year := by
    rw [to_universal_zero hour minute, valid, year]
    rfl
  exact (if_pos read).trans (congrArg some (to_universal_zero hour minute))

end InjectionLab.Timestamp
