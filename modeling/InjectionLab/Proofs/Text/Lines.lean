import InjectionLab.Text.Class
import InjectionLab.Text.Split
import Mathlib

/-!
Lines of a text and the white space around what they hold. Cutting at a separator undoes joining
with it, and trimming leaves the part between white space that itself neither begins nor ends with
any.
-/
namespace InjectionLab.Text

/-! Lines -/

theorem split_at_eq {α : Type} [DecidableEq α] (separator : α) (text : List α) :
    splitAt separator text = text.splitOn separator := by
  induction text with
  | nil => rfl
  | cons c rest ih =>
    have parted : rest.splitOn separator ≠ [] := List.splitOn_ne_nil separator rest
    rw [splitAt, List.splitOn_cons_eq_if_modifyHead, ih]
    by_cases same : c = separator
    · simp [same]
    · simp only [same, if_false, beq_iff_eq]
      cases parts : rest.splitOn separator with
      | nil => exact absurd parts parted
      | cons first others => rfl

theorem separator_in_no_part {α : Type} [DecidableEq α] {separator : α} {text part : List α}
    (member : part ∈ text.splitOn separator) : separator ∉ part := by
  induction text generalizing part with
  | nil =>
    rw [List.splitOn_nil, List.mem_singleton] at member
    simp [member]
  | cons c rest ih =>
    rw [List.splitOn_cons_eq_if_modifyHead] at member
    split_ifs at member with same
    · rcases List.mem_cons.mp member with rfl | later
      · exact List.not_mem_nil
      · exact ih later
    · cases parts : rest.splitOn separator with
      | nil => simp [parts] at member
      | cons first others =>
        rw [parts] at ih
        rw [parts, List.modifyHead_cons] at member
        rcases List.mem_cons.mp member with rfl | later
        · have apart := ih List.mem_cons_self
          have other : separator ≠ c := fun equal => same (beq_iff_eq.mpr equal.symm)
          exact List.not_mem_cons_of_ne_of_not_mem other apart
        · exact ih (List.mem_cons_of_mem first later)

/-! White space -/

def Blank (text : List Char) : Prop := ∀ c ∈ text, isBlank c = true

structure Unpadded (text : List Char) : Prop where
  starts : ∀ c, text.head? = some c → isBlank c = false
  ends : ∀ c, text.getLast? = some c → isBlank c = false

theorem trim_end_eq (text : List Char) : trimEnd text = text.rdropWhile isBlank := by
  induction text with
  | nil => rfl
  | cons c rest ih =>
    rw [trimEnd, ih, List.rdropWhile, List.rdropWhile, List.reverse_cons, List.dropWhile_append]
    cases kept : rest.reverse.dropWhile isBlank with
    | nil => cases blank : isBlank c <;> simp [blank]
    | cons d more =>
      have some : (d :: more).reverse ≠ [] := by simp
      simp only [List.isEmpty_cons, Bool.false_eq_true, if_false, List.reverse_append,
        List.reverse_singleton, List.singleton_append]

theorem trim_start_padded {before core : List Char} (blank : Blank before)
    (starts : ∀ c, core.head? = some c → isBlank c = false) : trimStart (before ++ core) = core := by
  rw [trimStart, List.dropWhile_append_of_pos blank]
  cases core with
  | nil => rfl
  | cons c core => rw [List.dropWhile_cons_of_neg (by simp [starts c rfl])]

theorem trim_end_padded {core after : List Char} (blank : Blank after)
    (ends : ∀ c, core.getLast? = some c → isBlank c = false) : trimEnd (core ++ after) = core := by
  have reversed : trimStart (after.reverse ++ core.reverse) = core.reverse := by
    apply trim_start_padded
    · intro c member
      exact blank c (List.mem_reverse.mp member)
    · intro c first
      exact ends c (by rw [← List.head?_reverse, first])
  rw [trim_end_eq, List.rdropWhile, List.reverse_append, ← trimStart, reversed,
    List.reverse_reverse]

theorem blanks_before (text : List Char) :
    ∃ before, text = before ++ trimStart text ∧ Blank before ∧
      ∀ c, (trimStart text).head? = some c → isBlank c = false := by
  refine ⟨text.takeWhile isBlank, ?_, ?_, ?_⟩
  · rw [trimStart, List.takeWhile_append_dropWhile]
  · intro c member
    exact List.mem_takeWhile_imp member
  · intro c first
    have stopped := List.head?_dropWhile_not isBlank text
    rw [← trimStart, first] at stopped
    exact stopped

theorem blanks_after (text : List Char) :
    ∃ after, text = trimEnd text ++ after ∧ Blank after ∧
      ∀ c, (trimEnd text).getLast? = some c → isBlank c = false := by
  rw [trim_end_eq]
  refine ⟨text.rtakeWhile isBlank, ?_, ?_, ?_⟩
  · rw [List.rdropWhile_append_rtakeWhile]
  · intro c member
    exact List.mem_rtakeWhile_imp member
  · intro c last
    have some : text.rdropWhile isBlank ≠ [] := by
      intro none
      rw [none] at last
      cases last
    have stopped := List.rdropWhile_last_not isBlank text some
    rw [List.getLast?_eq_some_getLast some, Option.some.injEq] at last
    rwa [last, Bool.not_eq_true] at stopped

theorem trim_iff {text core : List Char} :
    trim text = core ↔ ∃ before after, text = before ++ core ++ after ∧ Blank before ∧ Blank after ∧
      Unpadded core := by
  constructor
  · intro trimmed
    obtain ⟨before, opening, blank, starts⟩ := blanks_before text
    obtain ⟨after, closing, blank', ends⟩ := blanks_after (trimStart text)
    rw [← trim, trimmed] at closing ends
    refine ⟨before, after, ?_, blank, blank', ?_, ends⟩
    · rw [List.append_assoc, ← closing, ← opening]
    · intro c first
      apply starts
      rw [closing, List.head?_append, first]
      rfl
  · intro parts
    obtain ⟨before, after, rfl, blank, blank', unpadded⟩ := parts
    cases core with
    | nil =>
      have nothing : trimStart (before ++ [] ++ after) = [] := by
        rw [trimStart, List.dropWhile_eq_nil_iff, List.append_nil]
        intro c member
        exact (List.mem_append.mp member).elim (blank c) (blank' c)
      rw [trim, nothing, trimEnd]
    | cons c core =>
      have started : trimStart (before ++ (c :: core ++ after)) = c :: core ++ after :=
        trim_start_padded blank unpadded.starts
      rw [trim, List.append_assoc, started, trim_end_padded blank' unpadded.ends]

end InjectionLab.Text
