import InjectionLab.Proofs.LiteralList
import InjectionLab.Proofs.Text.Lowercase

/-!
Patterns around an operator. Where such a pattern is found, its front ends right before the operator
and the rest can be read right after it. So the last character before an operator that is no white
space tells which fronts can end there, and the search goes from operator to operator until the rest
can be read as well.
-/
namespace InjectionLab.Text

theorem split_at_first {α : Type} {mark : α} {front back before after : List α}
    (absent : mark ∉ front) (split : front ++ mark :: back = before ++ mark :: after) :
    (before = front ∧ after = back) ∨ ∃ between, before = front ++ mark :: between ∧
      back = between ++ mark :: after := by
  rcases List.append_eq_append_iff.mp split with ⟨more, rfl, rest⟩ | ⟨more, rfl, rest⟩
  · cases more with
    | nil => exact Or.inl ⟨List.append_nil _, (List.cons.inj rest).2.symm⟩
    | cons c between =>
      obtain ⟨rfl, rfl⟩ := List.cons.inj rest
      exact Or.inr ⟨between, rfl, rfl⟩
  · cases more with
    | nil => exact Or.inl ⟨(List.append_nil _).symm, (List.cons.inj rest).2⟩
    | cons c between =>
      obtain ⟨rfl, _⟩ := List.cons.inj rest
      simp at absent

def lastSolid (text : List Char) : Option Char := (text.filter fun c => !isBlank c).getLast?

theorem last_solid_append (front back : List Char) :
    lastSolid (front ++ back) = (lastSolid back).or (lastSolid front) := by
  rw [lastSolid, List.filter_append, List.getLast?_append]
  rfl

theorem last_solid_of_blanks {text : List Char} (blank : Blanks text) : lastSolid text = none := by
  rw [lastSolid, List.getLast?_eq_none_iff, List.filter_eq_nil_iff]
  intro c member
  simp [blank c member]

theorem same_letter_solid {letter c : Char} (lower : letter.isLower = true)
    (same : sameLetter letter c = true) : isBlank c = false := by
  simp only [sameLetter, Bool.or_eq_true, Bool.and_eq_true, beq_iff_eq] at same
  rcases same with (low | ⟨_, rfl⟩) | ⟨_, rfl⟩
  · refine letter_not_blank ?_
    rw [← Char.isAlpha_toLower_eq_isAlpha, low, Char.isAlpha, lower, Bool.or_true]
  · decide
  · decide

def Piece.mayHold (m : Char) : Piece → Bool
  | .letter c => sameLetter c m
  | .mark c => m == c
  | .blank | .gap => isBlank m
  | .upTo stop => m != stop
  | .numeral _ _ => isDigit m || m == '-' || m == '.'

theorem fitting_characters {piece : Piece} {text : List Char} (fits : piece.Fits text) :
    ∀ c ∈ text, piece.mayHold c = true := by
  intro c member
  cases piece with
  | letter d =>
    obtain ⟨_, rfl, same⟩ := fits
    obtain rfl := List.mem_singleton.mp member
    exact same
  | mark d =>
    obtain rfl : text = [d] := fits
    exact beq_iff_eq.mpr (List.mem_singleton.mp member)
  | blank =>
    obtain ⟨_, rfl, blank⟩ := fits
    obtain rfl := List.mem_singleton.mp member
    exact blank
  | gap => exact fits c member
  | upTo stop => exact fits.2 c member
  | numeral signed fraction =>
    simpa [Piece.mayHold, or_assoc] using numeral_characters fits c member

theorem absent_from_parts {front : Pattern} {m : Char}
    (unheld : ∀ piece ∈ front, piece.mayHold m = false) {parts : List (List Char)}
    (fits : List.Forall₂ Piece.Fits front parts) : m ∉ parts.flatten := by
  induction fits with
  | nil => simp
  | @cons piece part front parts fit later ih =>
    rw [List.flatten_cons, List.mem_append, not_or]
    refine ⟨fun member => ?_, ih fun piece member => unheld piece (by simp [member])⟩
    cases (unheld piece (by simp)).symm.trans (fitting_characters fit m member)

namespace Pattern

theorem read_through {front back : Pattern} (silent : ∀ piece ∈ front, piece.captured = false)
    {text : List Char} {tokens : List (List Char)}
    (read : (front ++ back).read? text = some tokens) : ∃ parts rest,
      text = parts.flatten ++ rest ∧ List.Forall₂ Piece.Fits front parts ∧
        back.read? rest = some tokens := by
  induction front generalizing text with
  | nil => exact ⟨[], text, rfl, .nil, read⟩
  | cons piece front ih =>
    have quiet := silent piece (by simp)
    rw [List.cons_append, read?] at read
    cases taken : piece.take? text with
    | none => simp [taken] at read
    | some pair =>
      obtain ⟨part, after⟩ := pair
      obtain ⟨rfl, fits, -⟩ := take_iff.mp taken
      cases later : read? (front ++ back) after with
      | none => simp [taken, later] at read
      | some found =>
        obtain rfl : found = tokens := by simpa [taken, later, quiet] using read
        obtain ⟨parts, rest, rfl, fits', read'⟩ :=
          ih (fun piece member => silent piece (by simp [member])) later
        exact ⟨part :: parts, rest, by simp, .cons fits fits', read'⟩

theorem read_after {front back : Pattern} {parts tokens : List (List Char)} {rest : List Char}
    (reads : front.Reads parts rest) (read : back.read? rest = some tokens) :
    (front ++ back).read? (parts.flatten ++ rest) = some (front.captures parts ++ tokens) := by
  induction reads with
  | nil => exact read
  | @cons piece front part parts rest fits ends _ ih =>
    have taken := take_iff.mpr ⟨rfl, fits, ends⟩
    rw [List.cons_append, List.flatten_cons, List.append_assoc, read?, taken]
    simp only [ih read, captures]
    split <;> rfl

theorem read_to_close {pattern : Pattern} {m : Char} (determined : pattern.determinate = true)
    (closing : pattern.getLast? = some (.mark m)) {parts : List (List Char)}
    (fits : List.Forall₂ Piece.Fits pattern parts) (later : List Char) :
    pattern.read? (parts.flatten ++ later) = some (pattern.captures parts) := by
  have reads : pattern.Reads parts later := by
    refine reads_of_fits determined fits fun piece part last _ => ?_
    obtain rfl := Option.some.inj (closing.symm.trans last)
    trivial
  exact read_iff.mpr ⟨parts, later, rfl, reads, rfl⟩

theorem reads_to_solid {pattern : Pattern} (determined : pattern.determinate = true)
    (ending : pattern.getLast? = some .gap) {parts : List (List Char)}
    (fits : List.Forall₂ Piece.Fits pattern parts) {m : Char} (solid : isBlank m = false)
    (rest : List Char) : pattern.Reads parts (m :: rest) := by
  refine reads_of_fits determined fits fun piece part last _ => ends_where_barred ?_
  intro c more starts
  obtain ⟨rfl, -⟩ := List.cons.inj starts
  obtain rfl := Option.some.inj (ending.symm.trans last)
  exact solid

theorem found_at_mark {front back : Pattern} {m : Char}
    (silent : ∀ piece ∈ front, piece.captured = false) {text : List Char}
    {tokens : List (List Char)} (found : (front ++ .mark m :: back).find? text = some tokens) :
    ∃ start parts rest, text = start ++ parts.flatten ++ m :: rest ∧
      List.Forall₂ Piece.Fits front parts ∧ back.read? rest = some tokens := by
  obtain ⟨start, after, rfl, read, -⟩ := find_some_iff.mp found
  obtain ⟨parts, _, rfl, fits, read⟩ := read_through silent read
  obtain ⟨rest, rfl, behind⟩ := (@read_word_iff [m] _ back _).mp read
  exact ⟨start, parts, rest, by simp, fits, behind⟩

theorem silent_captures {front : Pattern} (silent : ∀ piece ∈ front, piece.captured = false)
    {parts : List (List Char)} : front.captures parts = [] := by
  induction front generalizing parts with
  | nil => simp [captures]
  | cons piece front ih =>
    cases parts with
    | nil => rfl
    | cons part parts =>
      simp [captures, silent piece, ih fun piece member => silent piece (by simp [member])]

section FirstMark
variable {front back : Pattern} {m : Char} (silent : ∀ piece ∈ front, piece.captured = false)
  (unheld : ∀ piece ∈ front, piece.mayHold m = false)
include silent unheld

theorem read_to_mark {word rest : List Char} (absent : m ∉ word) {tokens : List (List Char)}
    (read : (front ++ .mark m :: back).read? (word ++ m :: rest) = some tokens) :
    ∃ parts, word = parts.flatten ∧ List.Forall₂ Piece.Fits front parts ∧
      back.read? rest = some tokens := by
  obtain ⟨parts, _, split, fits, read⟩ := read_through silent read
  obtain ⟨rest', rfl, behind⟩ := (@read_word_iff [m] _ back _).mp read
  rcases split_at_first absent split with ⟨rfl, rfl⟩ | ⟨between, inside, -⟩
  · exact ⟨parts, rfl, fits, behind⟩
  · exact absurd (by simp [inside]) (absent_from_parts unheld fits)

/-- A mark where nothing is found is skipped, with all that is before it. -/
theorem find_past_mark {word rest : List Char} (absent : m ∉ word)
    (blocked : ∀ start parts, word = start ++ parts.flatten → List.Forall₂ Piece.Fits front parts →
      back.read? rest = none) :
    (front ++ .mark m :: back).find? (word ++ m :: rest) =
      (front ++ .mark m :: back).find? rest := by
  have unread {later : List Char} (inside : later <:+ word) :
      (front ++ .mark m :: back).read? (later ++ m :: rest) = none := by
    rw [Option.eq_none_iff_forall_ne_some]
    intro tokens read
    obtain ⟨parts, rfl, fits, behind⟩ :=
      read_to_mark silent unheld (fun member => absent (inside.subset member)) read
    obtain ⟨start, split⟩ := inside
    cases (blocked start parts split.symm fits).symm.trans behind
  have skipped (later : List Char) (inside : later <:+ word) :
      (front ++ .mark m :: back).find? (later ++ m :: rest) =
        (front ++ .mark m :: back).find? rest := by
    induction later with
    | nil =>
      have here := unread inside
      rw [List.nil_append] at here ⊢
      rw [find?, here]
    | cons c later ih =>
      have here := unread inside
      rw [List.cons_append] at here ⊢
      rw [find?, here]
      exact ih ((List.suffix_cons c later).trans inside)
  exact skipped word List.suffix_rfl

/-- Text that can be read right before the first mark and behind it is found. -/
theorem find_at_mark {start rest : List Char} {parts : List (List Char)} (absent : m ∉ start)
    (reads : front.Reads parts (m :: rest)) {tokens : List (List Char)}
    (behind : back.read? rest = some tokens) :
    (front ++ .mark m :: back).find? (start ++ (parts.flatten ++ m :: rest)) = some tokens := by
  induction start with
  | nil =>
    have read := read_after reads ((@read_word_iff [m] _ back _).mpr ⟨rest, rfl, behind⟩)
    rw [silent_captures silent] at read
    exact find_of_read read
  | cons c start ih =>
    rw [List.cons_append, find?]
    cases here : (front ++ .mark m :: back).read? (c :: (start ++ (parts.flatten ++ m :: rest))) with
    | none => exact ih fun member => absent (by simp [member])
    | some found =>
      have clear : m ∉ c :: start ++ parts.flatten := by
        rw [List.mem_append, not_or]
        exact ⟨absent, absent_from_parts unheld (reads_fit reads)⟩
      rw [← List.append_assoc, ← List.cons_append, ← List.cons_append] at here
      obtain ⟨_, _, _, behind'⟩ := read_to_mark silent unheld clear here
      exact behind'.symm.trans behind

end FirstMark

theorem word_closes {front : Pattern} {letter : Char} (lower : letter.isLower = true)
    {parts : List (List Char)} (start : List Char)
    (fits : List.Forall₂ Piece.Fits (front ++ [.letter letter, .gap]) parts) :
    ∃ c, sameLetter letter c = true ∧ lastSolid (start ++ parts.flatten) = some c := by
  obtain ⟨before, _, rfl, -, ending⟩ := fits_append.mp fits
  simp only [List.forall₂_cons_left_iff, List.forall₂_nil_left_iff] at ending
  obtain ⟨_, _, ⟨c, rfl, same⟩, ⟨gap, _, blank, rfl, rfl⟩, rfl⟩ := ending
  refine ⟨c, same, ?_⟩
  have solid := same_letter_solid lower same
  have last : lastSolid [c] = some c := by simp [lastSolid, solid]
  have blanks := last_solid_of_blanks blank
  have split : start ++ (before ++ [[c], gap]).flatten = start ++ before.flatten ++ [c] ++ gap := by
    simp
  rw [split, last_solid_append, last_solid_append, blanks, last]
  rfl

theorem mark_closes {front : Pattern} {m : Char} (solid : isBlank m = false)
    {parts : List (List Char)} (start : List Char)
    (fits : List.Forall₂ Piece.Fits (front ++ [.gap, .mark m]) parts) :
    lastSolid (start ++ parts.flatten) = some m := by
  obtain ⟨before, _, rfl, -, ending⟩ := fits_append.mp fits
  simp only [List.forall₂_cons_left_iff, List.forall₂_nil_left_iff] at ending
  obtain ⟨gap, _, -, ⟨_, _, rfl, rfl, rfl⟩, rfl⟩ := ending
  have last : lastSolid [m] = some m := by simp [lastSolid, solid]
  have split : start ++ (before ++ [gap, [m]]).flatten = start ++ before.flatten ++ gap ++ [m] := by
    simp
  rw [split, last_solid_append, last]
  rfl

end Pattern
end InjectionLab.Text
