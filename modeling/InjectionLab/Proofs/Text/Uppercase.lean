import InjectionLab.Proofs.Text.Lowercase
import InjectionLab.Statement.Trigger

/-!
Marks in the upper-case form of a text. Upper-casing makes several characters of one and letters of
other characters, but it makes no other character of ASCII, so the form can be cut at a mark just
where the text can.
-/
namespace InjectionLab.Text

def capitalOrWide (code : Int) : Bool := 128 ≤ code || (65 ≤ code && code ≤ 90)

/-- The table leads to nothing else, and to a capital only from a single character. -/
def leadsToCapitals : Nat × Nat × Nat × Int → Bool
  | (first, last, _, shift) =>
    decide (128 ≤ first + shift) || (first == last && capitalOrWide (first + shift))

theorem upper_runs_lead_to_capitals : upperRuns.all leadsToCapitals = true := by decide +kernel

theorem upper_expansions_lead_to_capitals :
    (upperExpansions.all fun entry => entry.2.all fun code =>
      capitalOrWide code && (Char.ofNat code).toNat == code) = true := by
  decide +kernel

def IsMark (c : Char) : Prop := 32 ≤ c.toNat ∧ c.toNat < 128 ∧ c.isAlpha = false

instance (c : Char) : Decidable (IsMark c) := inferInstanceAs (Decidable (_ ∧ _))

theorem mark_no_capital {m : Char} (mark : IsMark m) : capitalOrWide m.toNat = false := by
  by_contra capital
  simp only [capitalOrWide, Bool.not_eq_false, Bool.or_eq_true, Bool.and_eq_true,
    decide_eq_true_eq] at capital
  have upper : m.isUpper = true := by
    simp only [Char.isUpper, UInt32.le_iff_toNat_le, decide_eq_true_eq, ge_iff_le, Char.reduceVal,
      UInt32.reduceToNat, Char.toNat_val]
    have wide := mark.2.1
    omega
  have letter := mark.2.2
  simp [Char.isAlpha, upper] at letter

theorem upper_letter_of_ascii {c m : Char} (mark : IsMark m) (upper : c.toUpper = m) : c = m := by
  by_cases lower : c.isLower = true
  · have letter : c.toUpper.isAlpha = true := by
      rw [Char.isAlpha_toUpper_eq_isAlpha, Char.isAlpha]
      simp [lower]
    rw [upper, mark.2.2] at letter
    cases letter
  · rw [← upper, Char.toUpper_eq_of_not_isLower lower]

theorem shifted_no_mark {c : Char} (wide : ¬ c.toNat < 128) : ¬ IsMark (shifted upperRuns c) := by
  intro mark
  have low := mark_no_capital mark
  obtain ⟨printed, ascii, -⟩ := mark
  simp only [shifted, caseShift] at printed ascii low
  split at ascii
  · rename_i first last step shift found
    have listed := List.mem_of_find?_eq_some found
    have inside := List.find?_some found
    have leads := List.all_eq_true.mp upper_runs_lead_to_capitals _ listed
    simp only [Bool.and_eq_true, decide_eq_true_eq] at inside
    simp only [leadsToCapitals, capitalOrWide, Bool.or_eq_true, Bool.and_eq_true, beq_iff_eq,
      decide_eq_true_eq] at leads
    rw [found] at low printed
    simp only [capitalOrWide, Bool.or_eq_false_iff, Bool.and_eq_false_iff,
      decide_eq_false_iff_not] at low
    rcases of_nat_code ((c.toNat : Int) + shift).toNat with code | null
    · omega
    · simp [null] at printed
  · rw [Int.add_zero, Int.toNat_natCast, Char.ofNat_toNat] at ascii
    exact wide ascii

theorem upper_form_mark {c m : Char} (mark : IsMark m) (member : m ∈ upperForm c) : c = m := by
  rw [upperForm] at member
  split at member
  · exact upper_letter_of_ascii mark (List.mem_singleton.mp member).symm
  · rename_i wide
    exfalso
    split at member
    · rename_i form entry
      obtain ⟨code, listed, rfl⟩ := List.mem_map.mp member
      obtain ⟨front, back, table, -⟩ := List.lookup_eq_some_iff.mp entry
      have leads := List.all_eq_true.mp upper_expansions_lead_to_capitals (c.toNat, form)
        (by rw [table]; simp)
      have capital := List.all_eq_true.mp leads code listed
      simp only [Bool.and_eq_true, beq_iff_eq] at capital
      have low := mark_no_capital mark
      rw [capital.2, capital.1] at low
      cases low
    · obtain rfl := List.mem_singleton.mp member
      exact shifted_no_mark wide mark

theorem mark_form {m : Char} (mark : IsMark m) : upperForm m = [m] := by
  rw [upperForm, if_pos mark.2.1, Char.toUpper_eq_of_not_isLower]
  intro lower
  have letter := mark.2.2
  simp [Char.isAlpha, lower] at letter

end InjectionLab.Text

namespace InjectionLab
open Text

/-- A mark that is no quote stands in the normalized text just where it stands in the text. -/
theorem normalized_split {m : Char} (mark : IsMark m) (unquoted : m ≠ '\'')
    {text front back : List Char} (split : (uppercase text).map singleQuote = front ++ m :: back) :
    ∃ before after, text = before ++ m :: after ∧ (uppercase before).map singleQuote = front ∧
      (uppercase after).map singleQuote = back := by
  simp only [uppercase] at split ⊢
  induction text generalizing front with
  | nil => simp at split
  | cons c text ih =>
    have behind {form rest : List Char} (here : (upperForm c).map singleQuote = form)
        (later : (text.flatMap upperForm).map singleQuote = rest ++ m :: back) :
        ∃ before after, c :: text = before ++ m :: after ∧
          (before.flatMap upperForm).map singleQuote = form ++ rest ∧
          (after.flatMap upperForm).map singleQuote = back := by
      obtain ⟨before, after, rfl, rfl, rfl⟩ := ih later
      exact ⟨c :: before, after, rfl, by simp [here], rfl⟩
    rw [List.flatMap_cons, List.map_append] at split
    rcases List.append_eq_append_iff.mp split with ⟨more, rfl, later⟩ | ⟨more, here, later⟩
    · exact behind rfl later
    · cases more with
      | nil =>
        rw [List.append_nil] at here
        have starts : (text.flatMap upperForm).map singleQuote = [] ++ m :: back := later.symm
        simpa using behind here starts
      | cons d more =>
        obtain ⟨rfl, rfl⟩ := List.cons.inj later
        -- The mark comes from one character, which is the mark itself.
        obtain ⟨e, listed, quoted⟩ := List.mem_map.mp
          (show m ∈ (upperForm c).map singleQuote by rw [here]; simp)
        obtain rfl : e = m := by
          simp only [singleQuote] at quoted
          split at quoted
          · exact absurd quoted.symm unquoted
          · exact quoted
        obtain rfl := upper_form_mark mark listed
        rw [mark_form mark, List.map_singleton, quoted] at here
        obtain ⟨rfl, same⟩ | ⟨_, empty⟩ := List.singleton_eq_append_iff.mp here
        · obtain rfl : more = [] := (List.cons.inj same).2
          exact ⟨[], text, rfl, rfl, rfl⟩
        · cases empty

end InjectionLab
