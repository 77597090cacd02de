import InjectionLab.Proofs.Text.Search
import InjectionLab.Text.Pattern
import Mathlib.Data.List.Forall2
import Mathlib.Data.List.TakeWhile

/-!
Patterns as grammars. Each piece stands for certain texts and a pattern for the texts put together
from them, one for each piece. Reading takes the longest text of every piece. In a determinate
pattern nothing else is possible: what follows a piece never starts as the piece could go on.
-/
namespace InjectionLab.Text

def Blanks (text : List Char) : Prop := ∀ c ∈ text, isBlank c = true

def Digits (text : List Char) : Prop := text ≠ [] ∧ ∀ c ∈ text, isDigit c = true

/-- Digits, after an optional minus if `signed` and before an optional fraction if `fraction`. -/
def NumeralText (signed fraction : Bool) (text : List Char) : Prop :=
  ∃ sign digits tail, text = sign ++ digits ++ tail ∧ Digits digits ∧
    (sign = [] ∨ signed = true ∧ sign = ['-']) ∧
    (tail = [] ∨ fraction = true ∧ ∃ decimals, tail = '.' :: decimals ∧ Digits decimals)

def Piece.Fits : Piece → List Char → Prop
  | .letter c, text => ∃ d, text = [d] ∧ sameLetter c d = true
  | .mark c, text => text = [c]
  | .blank, text => ∃ c, text = [c] ∧ isBlank c = true
  | .gap, text => Blanks text
  | .upTo stop, text => text ≠ [] ∧ ∀ c ∈ text, (c != stop) = true
  | .numeral signed fraction, text => NumeralText signed fraction text

def Outside (inside : Char → Bool) (text : List Char) : Prop :=
  ∀ c rest, text = c :: rest → inside c = false

/-- No longer token than this one was possible before `rest`. -/
def Piece.Ends : Piece → List Char → List Char → Prop
  | .gap, _, rest => Outside isBlank rest
  | .upTo stop, _, rest => Outside (· != stop) rest
  | .numeral _ fraction, token, rest => Outside isDigit rest ∧
      (fraction = true → '.' ∉ token → ∀ more, rest = '.' :: more → Outside isDigit more)
  | .letter _, _, _ | .mark _, _, _ | .blank, _, _ => True

/-! Runs -/

theorem span_iff {inside : Char → Bool} {text run rest : List Char} :
    (text.takeWhile inside = run ∧ text.dropWhile inside = rest) ↔
      text = run ++ rest ∧ (∀ c ∈ run, inside c = true) ∧ Outside inside rest := by
  constructor
  · rintro ⟨rfl, rfl⟩
    refine ⟨(List.takeWhile_append_dropWhile).symm, fun c => List.mem_takeWhile_imp, ?_⟩
    intro c more starts
    have first := List.head_dropWhile_not inside (l := text) (by simp [starts])
    simpa [starts] using first
  · rintro ⟨rfl, all, outside⟩
    rw [List.takeWhile_append_of_pos all, List.dropWhile_append_of_pos all]
    cases rest with
    | nil => simp
    | cons c more => simp [outside c more rfl]

theorem take_run_iff {inside : Char → Bool} {text run rest : List Char} :
    takeRun inside text = some (run, rest) ↔
      text = run ++ rest ∧ run ≠ [] ∧ (∀ c ∈ run, inside c = true) ∧ Outside inside rest := by
  have span := @span_iff inside text run rest
  simp only [takeRun]
  generalize text.takeWhile inside = taken at span
  cases taken with
  | nil =>
    simp only [reduceCtorEq, false_iff]
    rintro ⟨split, nonempty, all, outside⟩
    exact nonempty (span.mpr ⟨split, all, outside⟩).1.symm
  | cons c taken =>
    simp only [Option.some.injEq, Prod.mk.injEq, span]
    constructor
    · rintro ⟨split, all, outside⟩
      have taken := (span.mpr ⟨split, all, outside⟩).1
      exact ⟨split, by simp [← taken], all, outside⟩
    · rintro ⟨split, _, all, outside⟩
      exact ⟨split, all, outside⟩

theorem take_one_iff {fits : Char → Bool} {text token rest : List Char} :
    takeOne fits text = some (token, rest) ↔
      text = token ++ rest ∧ ∃ c, token = [c] ∧ fits c = true := by
  cases text with
  | nil =>
    simp only [takeOne, reduceCtorEq, false_iff]
    rintro ⟨split, c, rfl, _⟩
    simp at split
  | cons c more =>
    simp only [takeOne, Option.ite_none_right_eq_some, Option.some.injEq, Prod.mk.injEq]
    constructor
    · rintro ⟨fit, rfl, rfl⟩
      exact ⟨rfl, c, rfl, fit⟩
    · rintro ⟨split, d, rfl, fit⟩
      obtain ⟨rfl, rfl⟩ : c = d ∧ more = rest := by simpa using split
      exact ⟨fit, rfl, rfl⟩

theorem no_blanks : Blanks [] := by
  intro c member
  cases member

theorem one_blank : Blanks [' '] := by
  intro c member
  obtain rfl := List.mem_singleton.mp member
  decide

/-! Numerals -/

theorem digits_start {digits : List Char} (valid : Digits digits) (rest : List Char) :
    ∃ d more, digits ++ rest = d :: more ∧ isDigit d = true := by
  cases digits with
  | nil => exact absurd rfl valid.1
  | cons d more => exact ⟨d, more ++ rest, rfl, valid.2 d (by simp)⟩

theorem take_digits_iff {text run rest : List Char} :
    takeRun isDigit text = some (run, rest) ↔
      text = run ++ rest ∧ Digits run ∧ Outside isDigit rest := by
  rw [take_run_iff, Digits, and_assoc]

theorem take_fraction_iff {text tail rest : List Char} :
    takeFraction text = (tail, rest) ↔ text = tail ++ rest ∧
      ((∃ decimals, tail = '.' :: decimals ∧ Digits decimals ∧ Outside isDigit rest) ∨
        tail = [] ∧ ∀ more, rest = '.' :: more → Outside isDigit more) := by
  by_cases point : ∃ more, text = '.' :: more
  · obtain ⟨more, rfl⟩ := point
    simp only [takeFraction]
    cases run : takeRun isDigit more with
    | none =>
      -- The point stays where it is: no digits follow it that a fraction could have.
      have none_taken : ∀ decimals after, Digits decimals → Outside isDigit after →
          more ≠ decimals ++ after := by
        intro decimals after digits outside split
        have taken := take_digits_iff.mpr ⟨split, digits, outside⟩
        simp [run] at taken
      simp only [Prod.mk.injEq]
      constructor
      · rintro ⟨rfl, rfl⟩
        refine ⟨rfl, Or.inr ⟨rfl, ?_⟩⟩
        intro more' same d after starts
        obtain rfl : more = more' := List.tail_eq_of_cons_eq same
        by_contra digit
        simp only [Bool.not_eq_false] at digit
        refine none_taken (more.takeWhile isDigit) (more.dropWhile isDigit) ?_ ?_ ?_
        · exact ⟨by simp [starts, digit], fun c => List.mem_takeWhile_imp⟩
        · exact (span_iff.mp ⟨rfl, rfl⟩).2.2
        · exact (List.takeWhile_append_dropWhile).symm
      · rintro ⟨split, ⟨decimals, rfl, digits, outside⟩ | ⟨rfl, _⟩⟩
        · exact absurd (by simpa using split) (none_taken decimals rest digits outside)
        · exact ⟨rfl, split⟩
    | some parts =>
      obtain ⟨digits, after⟩ := parts
      obtain ⟨rfl, valid, outside⟩ := take_digits_iff.mp run
      simp only [Prod.mk.injEq]
      constructor
      · rintro ⟨rfl, rfl⟩
        exact ⟨rfl, Or.inl ⟨digits, rfl, valid, outside⟩⟩
      · rintro ⟨split, ⟨decimals, rfl, valid', outside'⟩ | ⟨rfl, stopped⟩⟩
        · have split : digits ++ after = decimals ++ rest := by simpa using split
          have same := run.symm.trans (take_digits_iff.mpr ⟨split, valid', outside'⟩)
          simpa using same
        · obtain ⟨d, more, starts, digit⟩ := digits_start valid after
          have closed := stopped (digits ++ after) split.symm d more starts
          simp [digit] at closed
  · have unpointed : takeFraction text = ([], text) := by
      unfold takeFraction
      split
      · exact absurd ⟨_, rfl⟩ point
      · rfl
    rw [unpointed, Prod.mk.injEq]
    constructor
    · rintro ⟨rfl, rfl⟩
      exact ⟨rfl, Or.inr ⟨rfl, fun more starts => absurd ⟨more, starts⟩ point⟩⟩
    · rintro ⟨rfl, ⟨decimals, rfl, _⟩ | ⟨rfl, _⟩⟩
      · exact absurd ⟨_, rfl⟩ point
      · exact ⟨rfl, rfl⟩

theorem digit_not_minus {c : Char} (digit : isDigit c = true) : c ≠ '-' := by
  rintro rfl
  revert digit
  decide

theorem point_not_digit : isDigit '.' = false := by decide

theorem take_sign_iff {signed : Bool} {text sign rest : List Char} (digit : ∃ d more,
    rest = d :: more ∧ isDigit d = true) :
    (if signed then takeSign text else ([], text)) = (sign, rest) ↔
      text = sign ++ rest ∧ (sign = [] ∨ signed = true ∧ sign = ['-']) := by
  obtain ⟨d, more, rfl, digit⟩ := digit
  have first := digit_not_minus digit
  cases signed with
  | false =>
    simp only [Bool.false_eq_true, ↓reduceIte, Prod.mk.injEq, false_and, or_false]
    constructor
    · rintro ⟨rfl, rfl⟩
      exact ⟨rfl, rfl⟩
    · rintro ⟨rfl, rfl⟩
      exact ⟨rfl, rfl⟩
  | true =>
    simp only [↓reduceIte, true_and]
    constructor
    · intro taken
      unfold takeSign at taken
      split at taken
      · obtain ⟨rfl, rfl⟩ := Prod.mk.inj taken
        exact ⟨rfl, Or.inr rfl⟩
      · obtain ⟨rfl, rfl⟩ := Prod.mk.inj taken
        exact ⟨rfl, Or.inl rfl⟩
    · rintro ⟨rfl, rfl | rfl⟩
      · simp [takeSign, first]
      · rfl

theorem take_tail_iff {fraction : Bool} {text tail rest : List Char} :
    (if fraction then takeFraction text else ([], text)) = (tail, rest) ↔ text = tail ++ rest ∧
      ((fraction = true ∧ ∃ decimals, tail = '.' :: decimals ∧ Digits decimals ∧
          Outside isDigit rest) ∨
        tail = [] ∧ (fraction = true → ∀ more, rest = '.' :: more → Outside isDigit more)) := by
  cases fraction with
  | true => simp only [↓reduceIte, take_fraction_iff, true_and, forall_const]
  | false =>
    simp only [Bool.false_eq_true, ↓reduceIte, Prod.mk.injEq, false_and, false_or, false_implies,
      and_true]
    constructor
    · rintro ⟨rfl, rfl⟩
      exact ⟨rfl, rfl⟩
    · rintro ⟨rfl, rfl⟩
      exact ⟨rfl, rfl⟩

theorem point_free {sign digits : List Char} {signed : Bool}
    (signs : sign = [] ∨ signed = true ∧ sign = ['-']) (valid : Digits digits) :
    '.' ∉ sign ++ digits := by
  intro member
  rcases List.mem_append.mp member with first | second
  · rcases signs with rfl | ⟨_, rfl⟩ <;> simp at first
  · simpa [point_not_digit] using valid.2 '.' second

theorem unsigned_numeral {fraction : Bool} {text : List Char} : NumeralText false fraction text ↔
    ∃ digits tail, text = digits ++ tail ∧ Digits digits ∧
      (tail = [] ∨ fraction = true ∧ ∃ decimals, tail = '.' :: decimals ∧ Digits decimals) := by
  constructor
  · intro fits
    obtain ⟨sign, digits, tail, rfl, valid, signs, tails⟩ := fits
    obtain rfl : sign = [] := by simpa using signs
    exact ⟨digits, tail, by simp, valid, tails⟩
  · intro fits
    obtain ⟨digits, tail, rfl, valid, tails⟩ := fits
    exact ⟨[], digits, tail, by simp, valid, Or.inl rfl, tails⟩

theorem bare_numeral {text : List Char} : NumeralText false false text ↔ Digits text := by
  rw [unsigned_numeral]
  constructor
  · intro fits
    obtain ⟨digits, tail, rfl, valid, tails⟩ := fits
    obtain rfl : tail = [] := by simpa using tails
    simpa using valid
  · intro valid
    exact ⟨text, [], by simp, valid, Or.inl rfl⟩

theorem take_numeral_iff {signed fraction : Bool} {text token rest : List Char} :
    takeNumeral signed fraction text = some (token, rest) ↔ text = token ++ rest ∧
      (Piece.numeral signed fraction).Fits token ∧
      (Piece.numeral signed fraction).Ends token rest := by
  simp only [Piece.Fits, Piece.Ends, NumeralText]
  constructor
  · intro taken
    simp only [takeNumeral] at taken
    generalize signs : (if signed then takeSign text else ([], text)) = parts at taken
    obtain ⟨sign, afterSign⟩ := parts
    simp only at taken
    cases run : takeRun isDigit afterSign with
    | none => simp [run] at taken
    | some parts =>
      obtain ⟨digits, afterDigits⟩ := parts
      simp only [run, Option.some.injEq] at taken
      generalize ending : (if fraction then takeFraction afterDigits else ([], afterDigits)) = parts
        at taken
      obtain ⟨tail, after⟩ := parts
      obtain ⟨rfl, rfl⟩ := Prod.mk.inj taken
      obtain ⟨rfl, valid, outside⟩ := take_digits_iff.mp run
      obtain ⟨rfl, signs'⟩ := (take_sign_iff (digits_start valid _)).mp signs
      obtain ⟨rfl, decimal | whole⟩ := take_tail_iff.mp ending
      · obtain ⟨allowed, decimals, rfl, fits, outside⟩ := decimal
        refine ⟨by simp, ⟨sign, digits, _, rfl, valid, signs', Or.inr ⟨allowed, decimals, rfl, fits⟩⟩,
          outside, fun _ pointless => absurd (by simp) pointless⟩
      · obtain ⟨rfl, stopped⟩ := whole
        exact ⟨by simp, ⟨sign, digits, [], rfl, valid, signs', Or.inl rfl⟩, outside,
          fun allowed _ => stopped allowed⟩
  · rintro ⟨rfl, ⟨sign, digits, tail, rfl, valid, signs, tails⟩, outside, stopped⟩
    have bounded : Outside isDigit (tail ++ rest) := by
      rcases tails with rfl | ⟨_, decimals, rfl, _⟩
      · exact outside
      · rintro c more starts
        obtain rfl : '.' = c := by simpa using congrArg List.head? starts
        exact point_not_digit
    have first := (@take_sign_iff signed (sign ++ (digits ++ (tail ++ rest))) sign _
      (digits_start valid _)).mpr ⟨rfl, signs⟩
    have second := take_digits_iff.mpr ⟨rfl, valid, bounded⟩
    have third : (if fraction then takeFraction (tail ++ rest) else ([], tail ++ rest)) =
        (tail, rest) := by
      rw [take_tail_iff]
      refine ⟨rfl, ?_⟩
      rcases tails with rfl | ⟨allowed, decimals, rfl, fits⟩
      · exact Or.inr ⟨rfl, fun allowed => stopped allowed (by simpa using point_free signs valid)⟩
      · exact Or.inl ⟨allowed, decimals, rfl, fits, outside⟩
    simp only [takeNumeral, List.append_assoc, first, second, third]

theorem take_iff {piece : Piece} {text token rest : List Char} :
    piece.take? text = some (token, rest) ↔
      text = token ++ rest ∧ piece.Fits token ∧ piece.Ends token rest := by
  cases piece with
  | letter c => simp only [Piece.take?, take_one_iff, Piece.Fits, Piece.Ends, and_true]
  | mark c => simp only [Piece.take?, take_one_iff, Piece.Fits, Piece.Ends, and_true, beq_iff_eq,
      exists_eq_right]
  | blank => simp only [Piece.take?, take_one_iff, Piece.Fits, Piece.Ends, and_true]
  | gap => simp only [Piece.take?, Option.some.injEq, Prod.mk.injEq, span_iff, Piece.Fits,
      Piece.Ends, Blanks]
  | upTo stop => simp only [Piece.take?, take_run_iff, Piece.Fits, Piece.Ends, and_assoc]
  | numeral signed fraction => exact take_numeral_iff

/-! Patterns -/

namespace Pattern

/-- A way to read the front of a text: the texts of the pieces, each as long as can be, and what is
    left after them. -/
inductive Reads : Pattern → List (List Char) → List Char → Prop where
  | nil (rest : List Char) : Reads [] [] rest
  | cons {piece : Piece} {pattern : Pattern} {part : List Char} {parts : List (List Char)}
      {rest : List Char} (fits : piece.Fits part) (ends : piece.Ends part (parts.flatten ++ rest))
      (later : Reads pattern parts rest) : Reads (piece :: pattern) (part :: parts) rest

def captures : Pattern → List (List Char) → List (List Char)
  | piece :: pattern, part :: parts =>
    if piece.captured then part :: captures pattern parts else captures pattern parts
  | _, _ => []

theorem read_iff {pattern : Pattern} {text : List Char} {tokens : List (List Char)} :
    pattern.read? text = some tokens ↔
      ∃ parts rest, text = parts.flatten ++ rest ∧ pattern.Reads parts rest ∧
        tokens = pattern.captures parts := by
  induction pattern generalizing text tokens with
  | nil =>
    simp only [read?, Option.some.injEq]
    constructor
    · rintro rfl
      exact ⟨[], text, rfl, .nil text, rfl⟩
    · rintro ⟨_, _, _, ⟨⟩, rfl⟩
      rfl
  | cons piece pattern ih =>
    simp only [read?]
    constructor
    · intro read
      cases taken : piece.take? text with
      | none => simp [taken] at read
      | some pair =>
        obtain ⟨part, after⟩ := pair
        obtain ⟨rfl, fits, ends⟩ := take_iff.mp taken
        cases later : read? pattern after with
        | none => simp [taken, later] at read
        | some more =>
          obtain ⟨parts, rest, rfl, reads, rfl⟩ := ih.mp later
          simp only [taken, later, Option.some.injEq] at read
          exact ⟨part :: parts, rest, by simp, .cons fits ends reads, read.symm⟩
    · rintro ⟨_, rest, rfl, reads, rfl⟩
      obtain _ | @⟨_, _, part, parts, _, fits, ends, reads⟩ := reads
      have taken := take_iff.mpr ⟨rfl, fits, ends⟩
      have later := ih.mpr ⟨parts, rest, rfl, reads, rfl⟩
      simp only [List.flatten_cons, List.append_assoc, taken, later, captures]

theorem captures_subset (pattern : Pattern) (parts : List (List Char)) :
    pattern.captures parts ⊆ parts := by
  induction pattern generalizing parts with
  | nil => simp [captures]
  | cons piece pattern ih =>
    cases parts with
    | nil => simp [captures]
    | cons part parts =>
      rw [captures]
      split
      · exact List.cons_subset_cons part (ih parts)
      · exact List.subset_cons_of_subset part (ih parts)

theorem read_within {pattern : Pattern} {text : List Char} {tokens : List (List Char)}
    (read : pattern.read? text = some tokens) : ∀ token ∈ tokens, token <:+: text := by
  intro token member
  obtain ⟨parts, rest, rfl, -, rfl⟩ := read_iff.mp read
  have part := List.infix_of_mem_flatten (captures_subset pattern parts member)
  exact part.trans (List.prefix_append _ _).isInfix

theorem reads_unique {pattern : Pattern} {parts parts' : List (List Char)} {rest rest' : List Char}
    (reads : pattern.Reads parts rest) (reads' : pattern.Reads parts' rest')
    (same : parts.flatten ++ rest = parts'.flatten ++ rest') : parts = parts' ∧ rest = rest' := by
  induction reads generalizing parts' rest' with
  | nil =>
    cases reads'
    exact ⟨rfl, same⟩
  | @cons piece pattern part parts rest fits ends later ih =>
    cases reads' with
    | @cons _ _ part' parts' _ fits' ends' later' =>
      have first := take_iff.mpr ⟨rfl, fits, ends⟩
      have second := take_iff.mpr ⟨rfl, fits', ends'⟩
      simp only [List.flatten_cons, List.append_assoc] at same
      obtain ⟨rfl, rest⟩ : part = part' ∧ _ = _ := by simpa [same, second, eq_comm] using first
      obtain ⟨rfl, rfl⟩ := ih later' rest
      exact ⟨rfl, rfl⟩

theorem reads_fit {pattern : Pattern} {parts : List (List Char)} {rest : List Char}
    (reads : pattern.Reads parts rest) : List.Forall₂ Piece.Fits pattern parts := by
  induction reads with
  | nil => exact .nil
  | cons fits _ _ ih => exact .cons fits ih

theorem reads_end {pattern : Pattern} {parts : List (List Char)} {rest : List Char}
    (reads : pattern.Reads parts rest) {piece : Piece} {part : List Char}
    (last : pattern.getLast? = some piece) (partLast : parts.getLast? = some part) :
    piece.Ends part rest := by
  induction reads with
  | nil => cases last
  | @cons first pattern firstPart parts rest fits ends later ih =>
    cases later with
    | nil =>
      cases last
      cases partLast
      exact ends
    | cons nextFits nextEnds later =>
      rw [List.getLast?_cons_cons] at last partLast
      exact ih last partLast

end Pattern

/-! Determinate patterns -/

def Piece.goesOn : Piece → Char → Bool
  | .gap, c => isBlank c
  | .upTo stop, c => c != stop
  | .numeral _ fraction, c => isDigit c || (fraction && c == '.')
  | .letter _, _ | .mark _, _ | .blank, _ => false

def Piece.isNumeral : Piece → Bool
  | .numeral _ _ => true
  | _ => false

/-- Whether every text of the pattern starts with a character that the piece cannot go on with. -/
def Pattern.bars (piece : Piece) : Pattern → Bool
  | .mark c :: _ => !piece.goesOn c
  | .gap :: pattern => piece.isNumeral && bars piece pattern
  | .numeral _ _ :: _ => piece == .gap
  | _ => false

def Pattern.determinate : Pattern → Bool
  | [] => true
  | piece :: pattern =>
    (pattern.isEmpty || (match piece with
      | .letter _ | .mark _ | .blank => true
      | _ => bars piece pattern)) && determinate pattern

theorem blank_not_digit {c : Char} (blank : isBlank c = true) : isDigit c = false := by
  have apart : ∀ run ∈ blankRuns, ∀ start ∈ decimalZeros, run.2 < start ∨ start + 10 ≤ run.1 := by
    decide
  simp only [isBlank, List.any_eq_true, Bool.and_eq_true, decide_eq_true_eq] at blank
  obtain ⟨run, listed, low, high⟩ := blank
  simp only [isDigit, List.any_eq_false, Bool.and_eq_true, decide_eq_true_eq]
  intro start member
  have clear := apart run listed start member
  omega

theorem digit_not_blank {c : Char} (digit : isDigit c = true) : isBlank c = false := by
  by_contra blank
  simp only [Bool.not_eq_false] at blank
  simp [blank_not_digit blank] at digit

theorem numeral_starts {signed fraction : Bool} {token : List Char}
    (fits : NumeralText signed fraction token) :
    ∃ c more, token = c :: more ∧ (c = '-' ∨ isDigit c = true) := by
  obtain ⟨sign, digits, tail, rfl, valid, signs, _⟩ := fits
  obtain ⟨d, more, starts, digit⟩ := digits_start valid tail
  rcases signs with rfl | ⟨_, rfl⟩
  · exact ⟨d, more, by simpa using starts, Or.inr digit⟩
  · exact ⟨'-', d :: more, by simpa using starts, Or.inl rfl⟩

theorem numeral_characters {signed fraction : Bool} {token : List Char}
    (fits : NumeralText signed fraction token) :
    ∀ c ∈ token, isDigit c = true ∨ c = '-' ∨ c = '.' := by
  obtain ⟨sign, digits, tail, rfl, valid, signs, tails⟩ := fits
  intro c member
  simp only [List.mem_append] at member
  rcases member with (first | second) | third
  · rcases signs with rfl | ⟨_, rfl⟩
    · simp at first
    · exact Or.inr (Or.inl (List.mem_singleton.mp first))
  · exact Or.inl (valid.2 c second)
  · rcases tails with rfl | ⟨_, decimals, rfl, valid'⟩
    · simp at third
    · rcases List.mem_cons.mp third with point | decimal
      · exact Or.inr (Or.inr point)
      · exact Or.inl (valid'.2 c decimal)

theorem ends_where_barred {piece : Piece} {token rest : List Char}
    (barred : Outside piece.goesOn rest) : piece.Ends token rest := by
  cases piece with
  | letter c => trivial
  | mark c => trivial
  | blank => trivial
  | gap => exact barred
  | upTo stop => exact barred
  | numeral signed fraction =>
    have clear : ∀ c more, rest = c :: more → isDigit c = false ∧ (fraction && c == '.') = false :=
      fun c more starts => by simpa only [Piece.goesOn, Bool.or_eq_false_iff] using barred c more starts
    refine ⟨fun c more starts => (clear c more starts).1, ?_⟩
    intro allowed _ more starts
    have point := (clear '.' more starts).2
    simp [allowed] at point

namespace Pattern

theorem barred_start (piece : Piece) {pattern : Pattern} {parts : List (List Char)}
    (bar : pattern.bars piece = true) (fits : List.Forall₂ Piece.Fits pattern parts)
    (rest : List Char) : Outside piece.goesOn (parts.flatten ++ rest) := by
  induction fits with
  | nil => simp [bars] at bar
  | @cons first part pattern parts fit later ih =>
    intro c more starts
    cases first with
    | mark d =>
      obtain rfl : part = [d] := fit
      obtain rfl : d = c := by simpa using congrArg List.head? starts
      simpa [bars] using bar
    | gap =>
      simp only [bars, Bool.and_eq_true] at bar
      cases part with
      | nil => exact ih bar.2 c more starts
      | cons d tail =>
        obtain rfl : d = c := by simpa using congrArg List.head? starts
        have blank : isBlank d = true := fit d (by simp)
        have point : (d == '.') = false := by
          rw [beq_eq_false_iff_ne]
          rintro rfl
          revert blank
          decide
        cases piece <;> simp_all [Piece.isNumeral, Piece.goesOn, blank_not_digit]
    | numeral signed fraction =>
      obtain rfl : piece = .gap := by simpa [bars] using bar
      obtain ⟨d, tail, rfl, sign⟩ := numeral_starts fit
      obtain rfl : d = c := by simpa using congrArg List.head? starts
      rcases sign with rfl | digit
      · decide
      · exact digit_not_blank digit
    | letter d => simp [bars] at bar
    | blank => simp [bars] at bar
    | upTo stop => simp [bars] at bar

theorem determinate_cons (piece : Piece) (pattern : Pattern) :
    determinate (piece :: pattern) = ((pattern.isEmpty || (match piece with
      | .letter _ | .mark _ | .blank => true
      | _ => bars piece pattern)) && determinate pattern) := rfl

/-- In a determinate pattern only the last part could have been longer. -/
theorem reads_of_fits {pattern : Pattern} {parts : List (List Char)} {rest : List Char}
    (determined : pattern.determinate = true) (fits : List.Forall₂ Piece.Fits pattern parts)
    (last : ∀ piece part, pattern.getLast? = some piece → parts.getLast? = some part →
      piece.Ends part rest) : pattern.Reads parts rest := by
  induction fits with
  | nil => exact .nil rest
  | @cons piece part pattern parts fit later ih =>
    rw [determinate_cons, Bool.and_eq_true, Bool.or_eq_true, List.isEmpty_iff] at determined
    obtain ⟨here, determined⟩ := determined
    cases later with
    | nil => exact .cons fit (last piece part rfl rfl) (.nil rest)
    | @cons next nextPart pattern parts nextFit later =>
      have reads := ih determined fun piece part atEnd partAtEnd =>
        last piece part (List.getLast?_cons_cons.trans atEnd)
          (List.getLast?_cons_cons.trans partAtEnd)
      refine .cons fit ?_ reads
      have here := here.resolve_left (List.cons_ne_nil _ _)
      -- The bar rules out that the piece could go on into the text of the next ones.
      have barred := fun bar => barred_start piece bar (.cons nextFit later) rest
      cases piece with
      | letter c => trivial
      | mark c => trivial
      | blank => trivial
      | gap => exact ends_where_barred (barred here)
      | upTo stop => exact ends_where_barred (barred here)
      | numeral signed fraction => exact ends_where_barred (barred here)

theorem reads_to_end {pattern : Pattern} {parts : List (List Char)}
    (determined : pattern.determinate = true) (fits : List.Forall₂ Piece.Fits pattern parts) :
    pattern.Reads parts [] := by
  refine reads_of_fits determined fits fun piece part _ _ => ends_where_barred ?_
  intro c rest starts
  cases starts

/-! Search -/

theorem find_none_iff {pattern : Pattern} {text : List Char} :
    pattern.find? text = none ↔ ∀ before after, text = before ++ after → pattern.read? after = none
    := by
  rw [← Option.not_isSome_iff_eq_none, show (find? pattern text).isSome = pattern.occursIn text
    from rfl, occurs_iff]
  constructor
  · intro nowhere before after split
    rw [← Option.not_isSome_iff_eq_none]
    exact fun readable => nowhere ⟨after, ⟨before, split.symm⟩, readable⟩
  · rintro nowhere ⟨after, ⟨before, split⟩, readable⟩
    simp [nowhere before after split.symm] at readable

theorem find_some_iff {pattern : Pattern} {text : List Char} {tokens : List (List Char)} :
    pattern.find? text = some tokens ↔ ∃ before after, text = before ++ after ∧
      pattern.read? after = some tokens ∧
      ∀ earlier later, text = earlier ++ later → pattern.read? later ≠ none →
        before.length ≤ earlier.length := by
  induction text with
  | nil =>
    simp only [find?, List.nil_eq, List.append_eq_nil_iff]
    constructor
    · intro read
      exact ⟨[], [], ⟨rfl, rfl⟩, read, fun _ _ _ _ => Nat.zero_le _⟩
    · rintro ⟨_, _, ⟨rfl, rfl⟩, read, _⟩
      exact read
  | cons c text ih =>
    simp only [find?]
    cases here : read? pattern (c :: text) with
    | some found =>
      simp only [Option.some.injEq]
      constructor
      · rintro rfl
        exact ⟨[], c :: text, rfl, here, fun _ _ _ _ => Nat.zero_le _⟩
      · rintro ⟨before, after, split, read, first⟩
        have empty := first [] (c :: text) rfl (by simp [here])
        obtain rfl : before = [] := by simpa using empty
        obtain rfl : c :: text = after := split
        simpa [here] using read
    | none =>
      rw [ih]
      constructor
      · rintro ⟨before, after, rfl, read, first⟩
        refine ⟨c :: before, after, rfl, read, ?_⟩
        intro earlier later split readable
        cases earlier with
        | nil => exact absurd here (by simpa [split] using readable)
        | cons d earlier =>
          have later := first earlier later (by simpa using (List.cons.inj split).2) readable
          simpa using later
      · rintro ⟨before, after, split, read, first⟩
        cases before with
        | nil => simp [← (show c :: text = after from split), here] at read
        | cons d before =>
          obtain ⟨rfl, inner⟩ := List.cons.inj split
          refine ⟨before, after, inner, read, ?_⟩
          intro earlier later split readable
          simpa using first (c :: earlier) later (by simp [split]) readable

theorem find_of_read {pattern : Pattern} {text : List Char} {tokens : List (List Char)}
    (read : pattern.read? text = some tokens) : pattern.find? text = some tokens := by
  cases text with
  | nil => exact read
  | cons c text => simp only [find?, read]

theorem find_behind {letter : Char} {front : List Char}
    (clear : ∀ c ∈ front, sameLetter letter c = false) (pattern : Pattern) (rest : List Char) :
    find? (.letter letter :: pattern) (front ++ rest) = find? (.letter letter :: pattern) rest := by
  induction front with
  | nil => rfl
  | cons c front ih =>
    have other := clear c (by simp)
    simp only [List.cons_append, find?, read?, Piece.take?, takeOne, other, Bool.false_eq_true,
      ↓reduceIte]
    exact ih fun d member => clear d (by simp [member])

end Pattern
end InjectionLab.Text
