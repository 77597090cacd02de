import InjectionLab.Text.Lowercase
import InjectionLab.Text.Pattern
import InjectionLab.Text.Uppercase
import Mathlib

/-!
Text up to the case of ASCII letters. The three ways in which case is disregarded agree on it: whole
texts that differ only in such letters have the same lower-case and the same upper-case form, and a
pattern without literal letters reads both at the same places.
-/
namespace InjectionLab.Text

abbrev Alike : List Char → List Char → Prop :=
  List.Forall₂ fun c d => c.toLower = d.toLower

def IgnoresCase {β : Type} (f : Char → β) : Prop :=
  ∀ c d : Char, c.toLower = d.toLower → f c = f d

theorem alike_refl (s : List Char) : Alike s s := List.forall₂_same.mpr fun _ _ => rfl

theorem letter_code {c : Char} (letter : c.isAlpha = true) :
    65 ≤ c.toNat ∧ c.toNat ≤ 90 ∨ 97 ≤ c.toNat ∧ c.toNat ≤ 122 := by
  simp only [Char.isAlpha, Char.isUpper, Char.isLower, UInt32.le_iff_toNat_le, Bool.or_eq_true,
    Bool.and_eq_true, decide_eq_true_eq, Char.reduceVal, UInt32.reduceToNat,
    Char.toNat_val] at letter
  omega

theorem letter_is_ascii {c : Char} (letter : c.isAlpha = true) : c.toNat < 128 := by
  have := letter_code letter
  omega

theorem same_or_letters {c d : Char} (same : c.toLower = d.toLower) :
    c = d ∨ c.isAlpha = true ∧ d.isAlpha = true := by
  have kind : c.isAlpha = d.isAlpha := by
    rw [← Char.isAlpha_toLower_eq_isAlpha c, same, Char.isAlpha_toLower_eq_isAlpha]
  by_cases letter : c.isAlpha = true
  · exact Or.inr ⟨letter, kind ▸ letter⟩
  · have other : ∀ e : Char, ¬ e.isAlpha = true → e.toLower = e := fun e h =>
      Char.toLower_eq_of_not_isUpper fun upper => h (by simp [Char.isAlpha, upper])
    rw [other c letter, other d (kind ▸ letter)] at same
    exact Or.inl same

/-- Nothing but the letters has two cases, so a property that is one value on them ignores case. -/
theorem ignores_case_of_letters {β : Type} {f : Char → β} (value : β)
    (letters : ∀ c : Char, c.isAlpha = true → f c = value) : IgnoresCase f := by
  intro c d same
  rcases same_or_letters same with eq | ⟨hc, hd⟩
  · rw [eq]
  · rw [letters c hc, letters d hd]

def letterFree (runs : List (Nat × Nat)) : Bool :=
  runs.all fun run => run.2 < 65 || (90 < run.1 && run.2 < 97) || 122 < run.1

theorem letter_outside_runs {runs : List (Nat × Nat)} (free : letterFree runs = true) (c : Char)
    (letter : c.isAlpha = true) : inRuns runs c = false := by
  have code := letter_code letter
  simp only [inRuns, List.any_eq_false]
  intro run member
  have clear := List.all_eq_true.mp free run member
  simp only [Bool.or_eq_true, Bool.and_eq_true, decide_eq_true_eq] at clear ⊢
  omega

theorem letter_not_blank {c : Char} (letter : c.isAlpha = true) : isBlank c = false :=
  letter_outside_runs (by decide : letterFree blankRuns = true) c letter

theorem blank_ignores_case : IgnoresCase isBlank :=
  ignores_case_of_letters false fun _ => letter_not_blank

theorem ignorable_ignores_case : IgnoresCase isIgnorable :=
  ignores_case_of_letters false
    (letter_outside_runs (by decide +kernel : letterFree ignorableRuns = true))

theorem cased_ignores_case : IgnoresCase isCased := by
  refine ignores_case_of_letters true fun c letter => ?_
  simp only [isCased, inRuns, List.any_eq_true, Bool.and_eq_true, decide_eq_true_eq]
  rcases letter_code letter with upper | lower
  · exact ⟨(0x0041, 0x005A), by decide +kernel, upper⟩
  · exact ⟨(0x0061, 0x007A), by decide +kernel, lower⟩

theorem letter_not_decimal {c : Char} (letter : c.isAlpha = true) : isDigit c = false := by
  have code := letter_code letter
  have apart : ∀ start ∈ decimalZeros, start + 10 ≤ 65 ∨ 122 < start := by decide
  simp only [isDigit, List.any_eq_false]
  intro start member
  have clear := apart start member
  simp only [Bool.and_eq_true, decide_eq_true_eq]
  omega

theorem digit_ignores_case : IgnoresCase isDigit :=
  ignores_case_of_letters false fun _ => letter_not_decimal

theorem other_character_ignores_case {stop : Char} (unlettered : stop.isAlpha = false) :
    IgnoresCase (· == stop) := by
  refine ignores_case_of_letters false fun c letter => ?_
  simp only [beq_eq_false_iff_ne]
  rintro rfl
  simp [letter] at unlettered

theorem stop_ignores_case {stop : Char} (unlettered : stop.isAlpha = false) :
    IgnoresCase (· != stop) := by
  intro c d same
  have equal : (c == stop) = (d == stop) := other_character_ignores_case unlettered c d same
  simp only [bne, equal]

theorem keyword_letter_ignores_case (letter : Char) : IgnoresCase (sameLetter letter) := by
  intro c d same
  have long : (c == '\u017f') = (d == '\u017f') := other_character_ignores_case rfl c d same
  have kelvin : (c == '\u212a') = (d == '\u212a') := other_character_ignores_case rfl c d same
  simp only [sameLetter, same, long, kelvin]

/-! Whole texts in lower and in upper case -/

theorem starts_cased_cons (c : Char) (rest : List Char) :
    startsCased (c :: rest) = if isIgnorable c then startsCased rest else isCased c := by
  by_cases ignorable : isIgnorable c <;> simp [startsCased, ignorable]

theorem starts_cased_alike {s t : List Char} (alike : Alike s t) :
    startsCased s = startsCased t := by
  induction alike with
  | nil => rfl
  | @cons c d s t same rest ih =>
    rw [starts_cased_cons, starts_cased_cons, ih, ignorable_ignores_case c d same,
      cased_ignores_case c d same]

theorem lower_form_ignores_case : IgnoresCase lowerForm := by
  intro c d same
  rcases same_or_letters same with eq | ⟨hc, hd⟩
  · rw [eq]
  · simp only [lowerForm, letter_is_ascii hc, letter_is_ascii hd, ↓reduceIte, same]

theorem upper_form_ignores_case : IgnoresCase upperForm := by
  intro c d same
  rcases same_or_letters same with eq | ⟨hc, hd⟩
  · rw [eq]
  · have upper : c.toUpper = d.toUpper := by
      rw [← Char.toUpper_toLower_eq_toUpper c, same, Char.toUpper_toLower_eq_toUpper]
    simp only [upperForm, letter_is_ascii hc, letter_is_ascii hd, ↓reduceIte, upper]

theorem lowercase_after_alike {before before' s t : List Char} (past : Alike before before')
    (alike : Alike s t) : lowercaseAfter before s = lowercaseAfter before' t := by
  -- The form of a sigma depends on both sides of it, so what is passed is kept alike as well.
  induction alike generalizing before before' with
  | nil => rfl
  | @cons c d s t same rest ih =>
    have sigma : (c == '\u03a3') = (d == '\u03a3') := other_character_ignores_case rfl c d same
    have sigma : c = '\u03a3' ↔ d = '\u03a3' := by
      rw [← beq_iff_eq, sigma, beq_iff_eq]
    simp only [lowercaseAfter, sigma, starts_cased_alike past, starts_cased_alike rest,
      lower_form_ignores_case c d same, ih (List.Forall₂.cons same past)]

theorem lowercase_alike {s t : List Char} (alike : Alike s t) : lowercase s = lowercase t :=
  lowercase_after_alike .nil alike

theorem uppercase_alike {s t : List Char} (alike : Alike s t) : uppercase s = uppercase t := by
  induction alike with
  | nil => rfl
  | cons same rest ih =>
    simp only [uppercase, List.flatMap_cons] at ih ⊢
    rw [ih, upper_form_ignores_case _ _ same]

/-! Patterns -/

def AlikeParts (x y : List Char × List Char) : Prop := Alike x.1 y.1 ∧ Alike x.2 y.2

theorem run_alike {inside : Char → Bool} (respects : IgnoresCase inside) {s t : List Char}
    (alike : Alike s t) :
    AlikeParts (s.takeWhile inside, s.dropWhile inside)
      (t.takeWhile inside, t.dropWhile inside) := by
  induction alike with
  | nil => exact ⟨.nil, .nil⟩
  | @cons c d s t same rest ih =>
    by_cases taken : inside c = true
    · have taken' : inside d = true := respects c d same ▸ taken
      simp only [List.takeWhile_cons, List.dropWhile_cons, taken, taken', ↓reduceIte]
      exact ⟨.cons same ih.1, ih.2⟩
    · have taken' : ¬ inside d = true := respects c d same ▸ taken
      simp only [List.takeWhile_cons, List.dropWhile_cons, taken, taken']
      exact ⟨.nil, .cons same rest⟩

theorem take_run_alike {inside : Char → Bool} (respects : IgnoresCase inside) {s t : List Char}
    (alike : Alike s t) : Option.Rel AlikeParts (takeRun inside s) (takeRun inside t) := by
  obtain ⟨taken, left⟩ := run_alike respects alike
  simp only [takeRun]
  generalize s.takeWhile inside = run at taken
  generalize t.takeWhile inside = run' at taken
  cases taken with
  | nil => exact .none
  | cons same rest => exact .some ⟨.cons same rest, left⟩

theorem take_one_alike {fits : Char → Bool} (respects : IgnoresCase fits) {s t : List Char}
    (alike : Alike s t) : Option.Rel AlikeParts (takeOne fits s) (takeOne fits t) := by
  cases alike with
  | nil => exact .none
  | @cons c d s t same rest =>
    simp only [takeOne, respects c d same]
    split
    · exact .some ⟨.cons same .nil, rest⟩
    · exact .none

theorem take_sign_cons (c : Char) (rest : List Char) :
    takeSign (c :: rest) = if c == '-' then (['-'], rest) else ([], c :: rest) := by
  by_cases minus : c = '-' <;> simp [takeSign, minus]

theorem take_sign_alike {s t : List Char} (alike : Alike s t) :
    AlikeParts (takeSign s) (takeSign t) := by
  cases alike with
  | nil => exact ⟨.nil, .nil⟩
  | @cons c d s t same rest =>
    have minus : (c == '-') = (d == '-') := other_character_ignores_case rfl c d same
    simp only [take_sign_cons, minus]
    split
    · exact ⟨alike_refl ['-'], rest⟩
    · exact ⟨.nil, .cons same rest⟩

theorem take_fraction_cons (c : Char) (rest : List Char) :
    takeFraction (c :: rest) =
      if c == '.' then
        match takeRun isDigit rest with
        | some (digits, after) => ('.' :: digits, after)
        | none => ([], '.' :: rest)
      else ([], c :: rest) := by
  by_cases point : c = '.'
  · subst point
    rfl
  · simp [takeFraction, point]

theorem take_fraction_alike {s t : List Char} (alike : Alike s t) :
    AlikeParts (takeFraction s) (takeFraction t) := by
  cases alike with
  | nil => exact ⟨.nil, .nil⟩
  | @cons c d s t same rest =>
    have point : (c == '.') = (d == '.') := other_character_ignores_case rfl c d same
    have digits := take_run_alike digit_ignores_case rest
    simp only [take_fraction_cons, point]
    split
    · generalize takeRun isDigit s = x at digits
      generalize takeRun isDigit t = y at digits
      cases digits with
      | none => exact ⟨.nil, .cons rfl rest⟩
      | some parts => exact ⟨.cons rfl parts.1, parts.2⟩
    · exact ⟨.nil, .cons same rest⟩

theorem take_numeral_alike (signed fraction : Bool) {s t : List Char} (alike : Alike s t) :
    Option.Rel AlikeParts (takeNumeral signed fraction s) (takeNumeral signed fraction t) := by
  have sign : AlikeParts (if signed then takeSign s else ([], s))
      (if signed then takeSign t else ([], t)) := by
    split
    · exact take_sign_alike alike
    · exact ⟨.nil, alike⟩
  have digits := take_run_alike digit_ignores_case sign.2
  simp only [takeNumeral]
  generalize takeRun isDigit (if signed then takeSign s else ([], s)).2 = x at digits
  generalize takeRun isDigit (if signed then takeSign t else ([], t)).2 = y at digits
  cases digits with
  | none => exact .none
  | @some x y parts =>
    have tail : AlikeParts (if fraction then takeFraction x.2 else ([], x.2))
        (if fraction then takeFraction y.2 else ([], y.2)) := by
      split
      · exact take_fraction_alike parts.2
      · exact ⟨.nil, parts.2⟩
    exact .some ⟨List.rel_append (List.rel_append sign.1 parts.1) tail.1, tail.2⟩

def Piece.IsUnlettered : Piece → Prop
  | .mark c | .upTo c => c.isAlpha = false
  | .letter _ | .blank | .gap | .numeral _ _ => True

instance : (piece : Piece) → Decidable piece.IsUnlettered
  | .mark c | .upTo c => inferInstanceAs (Decidable (c.isAlpha = false))
  | .letter _ | .blank | .gap | .numeral _ _ => inferInstanceAs (Decidable True)

theorem take_alike {piece : Piece} (unlettered : piece.IsUnlettered) {s t : List Char}
    (alike : Alike s t) : Option.Rel AlikeParts (piece.take? s) (piece.take? t) := by
  cases piece with
  | letter c => exact take_one_alike (keyword_letter_ignores_case c) alike
  | mark c => exact take_one_alike (other_character_ignores_case unlettered) alike
  | blank => exact take_one_alike blank_ignores_case alike
  | gap => exact .some (run_alike blank_ignores_case alike)
  | upTo stop => exact take_run_alike (stop_ignores_case unlettered) alike
  | numeral signed fraction => exact take_numeral_alike signed fraction alike

namespace Pattern

theorem read_alike {pattern : Pattern} (unlettered : ∀ piece ∈ pattern, piece.IsUnlettered)
    {s t : List Char} (alike : Alike s t) :
    Option.Rel (List.Forall₂ Alike) (pattern.read? s) (pattern.read? t) := by
  induction pattern generalizing s t with
  | nil => exact .some .nil
  | cons piece pattern ih =>
    have first := take_alike (unlettered piece (by simp)) alike
    simp only [read?]
    generalize piece.take? s = x at first
    generalize piece.take? t = y at first
    cases first with
    | none => exact .none
    | @some x y parts =>
      have later := ih (fun piece member => unlettered piece (by simp [member])) parts.2
      simp only
      generalize read? pattern x.2 = xs at later
      generalize read? pattern y.2 = ys at later
      cases later with
      | none => exact .none
      | some tokens =>
        refine .some ?_
        split
        · exact .cons parts.1 tokens
        · exact tokens

theorem find_alike {pattern : Pattern} (unlettered : ∀ piece ∈ pattern, piece.IsUnlettered)
    {s t : List Char} (alike : Alike s t) :
    Option.Rel (List.Forall₂ Alike) (pattern.find? s) (pattern.find? t) := by
  induction alike with
  | nil => exact read_alike unlettered .nil
  | @cons c d s t same rest ih =>
    have here := read_alike unlettered (List.Forall₂.cons same rest)
    simp only [find?]
    generalize read? pattern (c :: s) = x at here
    generalize read? pattern (d :: t) = y at here
    cases here with
    | none => exact ih
    | some tokens => exact .some tokens

end Pattern
end InjectionLab.Text
