import InjectionLab.Statement.Kind
import Mathlib.Data.List.TakeWhile

/-!
Search in statement text. A pattern occurs where some end of the text can be read, words occur as
substrings, and a relation is named by a keyword, white space and its name, whatever stands around.
-/
namespace InjectionLab
open Text

namespace Text.Pattern

theorem read_word_iff {word text : List Char} {pattern : Pattern} {tokens : List (List Char)} :
    read? (word.map .mark ++ pattern) text = some tokens ↔
      ∃ after, text = word ++ after ∧ read? pattern after = some tokens := by
  induction word generalizing text with
  | nil => simp
  | cons c word ih =>
    cases text with
    | nil => simp [read?, Piece.take?, takeOne]
    | cons d text =>
      by_cases same : d = c
      · subst d
        have step : read? ((c :: word).map .mark ++ pattern) (c :: text) =
            read? (word.map .mark ++ pattern) text := by
          simp only [List.map_cons, List.cons_append, read?, Piece.take?, takeOne, beq_self_eq_true,
            ↓reduceIte, Piece.captured]
          split <;> simp_all
        rw [step, ih]
        simp
      · simp [read?, Piece.take?, takeOne, same]

theorem occurs_iff (pattern : Pattern) (text : List Char) :
    pattern.occursIn text = true ↔ ∃ after, after <:+ text ∧ (read? pattern after).isSome := by
  induction text with
  | nil => simp [occursIn, find?]
  | cons c rest ih =>
    have step : pattern.occursIn (c :: rest) = true ↔
        (read? pattern (c :: rest)).isSome ∨ pattern.occursIn rest = true := by
      simp only [occursIn, find?]
      split <;> simp_all
    rw [step, ih]
    simp only [List.suffix_cons_iff, or_and_right, exists_or, exists_eq_left]

theorem word_read_iff (word : String) (text : List Char) :
    ((exactly word).read? text).isSome ↔ word.toList <+: text := by
  have read := fun tokens => @read_word_iff word.toList text [] tokens
  simp only [List.append_nil] at read
  simp only [exactly, Option.isSome_iff_exists, read, read?, Option.some.injEq]
  constructor
  · rintro ⟨_, after, split, _⟩
    exact ⟨after, split.symm⟩
  · rintro ⟨after, split⟩
    exact ⟨[], after, split.symm, rfl⟩

theorem word_occurs_iff (word : String) (text : List Char) :
    (exactly word).occursIn text = true ↔ word.toList <:+: text := by
  simp only [occurs_iff, word_read_iff, List.infix_iff_prefix_suffix, and_comm]

end Text.Pattern

def Relation.NamedIn (keyword : String) (text : List Char) (r : Relation) : Prop :=
  ∃ gap, gap ≠ [] ∧ (∀ c ∈ gap, isBlank c = true) ∧
    keyword.toList ++ gap ++ r.name.toList <:+: text

theorem named_in_infix {keyword : String} {r : Relation} {inner outer : List Char}
    (inside : inner <:+: outer) (named : r.NamedIn keyword inner) : r.NamedIn keyword outer := by
  obtain ⟨gap, nonempty, blank, found⟩ := named
  exact ⟨gap, nonempty, blank, found.trans inside⟩

theorem relation_name_starts_unblank (r : Relation) :
    ∃ c rest, r.name.toList = c :: rest ∧ isBlank c = false := by
  cases r
  · exact ⟨'u', "sers".toList, rfl, by decide⟩
  · exact ⟨'p', "roducts".toList, rfl, by decide⟩
  · exact ⟨'o', "rders".toList, rfl, by decide⟩

/-- The gap gives nothing back, because no name starts with white space. -/
theorem gap_read_iff (r : Relation) (text : List Char) :
    (Pattern.read? (.blank :: .gap :: Pattern.exactly r.name) text).isSome ↔
      ∃ gap, gap ≠ [] ∧ (∀ c ∈ gap, isBlank c = true) ∧ gap ++ r.name.toList <+: text := by
  have skipped : ∀ (c : Char) (rest : List Char), isBlank c = true →
      ((Pattern.read? (.blank :: .gap :: Pattern.exactly r.name) (c :: rest)).isSome ↔
        r.name.toList <+: rest.dropWhile isBlank) := by
    intro c rest blank
    rw [← Pattern.word_read_iff]
    simp only [Pattern.read?, Piece.take?, takeOne, blank, ↓reduceIte, Piece.captured]
    cases Pattern.read? (Pattern.exactly r.name) (rest.dropWhile isBlank) <;> simp
  constructor
  · intro found
    cases text with
    | nil => simp [Pattern.read?, Piece.take?, takeOne] at found
    | cons c rest =>
      by_cases blank : isBlank c = true
      · refine ⟨c :: rest.takeWhile isBlank, by simp, ?_, ?_⟩
        · intro d member
          rcases List.mem_cons.mp member with same | later
          · exact same ▸ blank
          · exact List.mem_takeWhile_imp later
        · obtain ⟨after, split⟩ := (skipped c rest blank).mp found
          refine ⟨after, ?_⟩
          simp [split, List.takeWhile_append_dropWhile]
      · simp [Pattern.read?, Piece.take?, takeOne, blank] at found
  · rintro ⟨gap, nonempty, blank, after, split⟩
    obtain ⟨head, tail, name, unblank⟩ := relation_name_starts_unblank r
    cases gap with
    | nil => contradiction
    | cons b gap =>
      have ends : (gap ++ (r.name.toList ++ after)).dropWhile isBlank = r.name.toList ++ after := by
        rw [List.dropWhile_append_of_pos (fun c member => blank c (by simp [member]))]
        simp [name, unblank]
      rw [← split, List.append_assoc, List.cons_append, skipped _ _ (blank b (by simp)), ends]
      exact List.prefix_append _ _

theorem named_iff_occurs (keyword : String) (r : Relation) (text : List Char) :
    (r.pattern keyword).occursIn text = true ↔ r.NamedIn keyword text := by
  have reads : ∀ after, ((r.pattern keyword).read? after).isSome ↔
      ∃ rest, after = keyword.toList ++ rest ∧
        (Pattern.read? (.blank :: .gap :: Pattern.exactly r.name) rest).isSome := by
    intro after
    simp only [Relation.pattern, Pattern.exactly, List.append_assoc, Option.isSome_iff_exists,
      Pattern.read_word_iff]
    exact ⟨fun ⟨tokens, rest, split, read⟩ => ⟨rest, split, tokens, read⟩,
      fun ⟨rest, split, tokens, read⟩ => ⟨tokens, rest, split, read⟩⟩
  simp only [Pattern.occurs_iff, reads, gap_read_iff, Relation.NamedIn]
  constructor
  · rintro ⟨after, ⟨before, rfl⟩, rest, rfl, gap, nonempty, blank, last, rfl⟩
    exact ⟨gap, nonempty, blank, before, last, by simp⟩
  · rintro ⟨gap, nonempty, blank, before, last, rfl⟩
    exact ⟨_, ⟨before, List.append_assoc _ _ _ |>.symm⟩, gap ++ r.name.toList ++ last, by simp, gap,
      nonempty, blank, last, rfl⟩

end InjectionLab
