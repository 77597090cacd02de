import InjectionLab.Proofs.Text.Grammar
import InjectionLab.Proofs.Text.LetterCase
import Mathlib

/-!
Words in the lower-case form of a text. Lower-casing changes what stands around an ASCII letter in
many ways, yet a word of ordinary letters and white space stands in the lower-case form just where
it stands in the text itself up to ASCII case.
-/
namespace InjectionLab.Text

/-- Characters that nothing but themselves and their capitals lead to. The Kelvin sign leads to k.
    -/
def plain (c : Char) : Bool := (c.isLower && c != 'k') || isBlank c

/-- What the table of lower-case forms does to white space and to letters: nothing leads to white
    space, white space to nothing else, and to letters only the Kelvin sign. -/
def keepsApart : Nat × Nat × Nat × Int → Bool
  | (first, last, _, shift) =>
    (first == 0x212A && last == 0x212A && shift == -8383) ||
      (decide (128 ≤ first + shift) && blankRuns.all fun run =>
        (decide (last < run.1) || decide (run.2 < first)) &&
          (decide (last + shift < run.1) || decide (run.2 < first + shift)))

theorem lower_runs_keep_apart : lowerRuns.all keepsApart = true := by decide +kernel

theorem lower_letter_code {c : Char} (lower : c.isLower = true) :
    97 ≤ c.toNat ∧ c.toNat ≤ 122 := by
  simp only [Char.isLower, UInt32.le_iff_toNat_le, Bool.and_eq_true, decide_eq_true_eq, ge_iff_le,
    Char.reduceVal, UInt32.reduceToNat, Char.toNat_val] at lower
  exact lower

theorem of_nat_code (n : Nat) : (Char.ofNat n).toNat = n ∨ Char.ofNat n = '\u0000' := by
  by_cases valid : n.isValidChar
  · exact Or.inl (by simp [Char.ofNat, valid, Char.toNat, Char.ofNatAux])
  · refine Or.inr ?_
    unfold Char.ofNat
    rw [dif_neg valid]
    rfl

theorem blank_code {c : Char} : isBlank c = true ↔
    ∃ run ∈ blankRuns, run.1 ≤ c.toNat ∧ c.toNat ≤ run.2 := by
  simp only [isBlank, List.any_eq_true, Bool.and_eq_true, decide_eq_true_eq]

theorem shifted_plain {c : Char}
    (reached : plain (shifted lowerRuns c) = true ∨ isBlank c = true) :
    shifted lowerRuns c = c := by
  simp only [shifted, caseShift] at reached ⊢
  split at reached
  · rename_i first last step shift found
    -- No entry of the table qualifies but the Kelvin sign's, and k is not plain.
    exfalso
    have listed := List.mem_of_find?_eq_some found
    have inside := List.find?_some found
    have apart := List.all_eq_true.mp lower_runs_keep_apart _ listed
    simp only [Bool.and_eq_true, decide_eq_true_eq] at inside
    simp only [keepsApart, Bool.or_eq_true, Bool.and_eq_true, beq_iff_eq, decide_eq_true_eq,
      List.all_eq_true] at apart
    rcases apart with ⟨⟨rfl, rfl⟩, rfl⟩ | ⟨wide, apart⟩
    · obtain rfl : c = '\u212a' := Char.toNat_inj.mp (by
        change c.toNat = 0x212A
        omega)
      revert reached
      decide
    · rcases reached with reached | blank
      · rcases of_nat_code ((c.toNat : Int) + shift).toNat with code | null
        · simp only [plain, Bool.or_eq_true, Bool.and_eq_true] at reached
          rcases reached with ⟨lower, _⟩ | blank
          · have bounds := lower_letter_code lower
            omega
          · obtain ⟨run, member, low, high⟩ := blank_code.mp blank
            have clear := (apart run member).2
            omega
        · rw [null] at reached
          revert reached
          decide
      · obtain ⟨run, member, low, high⟩ := blank_code.mp blank
        have clear := (apart run member).1
        omega
  · simp

theorem sigma_not_plain : plain '\u03c3' = false ∧ plain '\u03c2' = false := by decide

theorem wide_keeps {c : Char} (wide : ¬ c.toNat < 128) : c.toLower = c := by
  apply Char.toLower_eq_of_not_isUpper
  intro upper
  have ascii := letter_is_ascii (c := c) (by simp [Char.isAlpha, upper])
  omega

theorem lower_form_plain {c x : Char} (low : c.toLower = x) (ordinary : plain x = true)
    (before rest : List Char) :
    lowercaseAfter before (c :: rest) = x :: lowercaseAfter (c :: before) rest := by
  have sigma : c ≠ '\u03a3' := by
    intro same
    subst same
    revert ordinary
    rw [← low]
    decide
  simp only [lowercaseAfter, sigma, ↓reduceIte, lowerForm]
  split
  · rw [low]
    rfl
  · rename_i wide
    rw [wide_keeps wide] at low
    subst low
    have blank : isBlank c = true := by
      simp only [plain, Bool.or_eq_true, Bool.and_eq_true] at ordinary
      rcases ordinary with ⟨lower, _⟩ | blank
      · have bounds := lower_letter_code lower
        omega
      · exact blank
    split
    · rename_i dotted
      rw [dotted] at blank
      exact absurd blank (by decide)
    · rw [shifted_plain (Or.inr blank)]
      rfl

theorem plain_lower_form {before text rest : List Char} {x : Char}
    (starts : lowercaseAfter before text = x :: rest) (ordinary : plain x = true)
    (undotted : x = 'i' → rest.head? ≠ some '\u0307') :
    ∃ c more, text = c :: more ∧ c.toLower = x ∧ rest = lowercaseAfter (c :: before) more := by
  cases text with
  | nil => simp [lowercaseAfter] at starts
  | cons c more =>
    refine ⟨c, more, rfl, ?_⟩
    simp only [lowercaseAfter] at starts
    split at starts
    · exfalso
      split at starts
      · obtain ⟨rfl, _⟩ := List.cons.inj starts
        simp [sigma_not_plain.2] at ordinary
      · obtain ⟨rfl, _⟩ := List.cons.inj starts
        simp [sigma_not_plain.1] at ordinary
    · simp only [lowerForm] at starts
      split at starts
      · obtain ⟨rfl, rfl⟩ := List.cons.inj starts
        exact ⟨rfl, rfl⟩
      · rename_i wide
        split at starts
        · obtain ⟨rfl, rfl⟩ := List.cons.inj starts
          exact absurd rfl (undotted rfl)
        · obtain ⟨rfl, rfl⟩ := List.cons.inj starts
          exact ⟨by rw [shifted_plain (Or.inl ordinary), wide_keeps wide], rfl⟩

/-- A word of plain characters. It does not end in i, whose dot would be lost. -/
def PlainWord (word : List Char) : Prop :=
  (∀ c ∈ word, plain c = true) ∧ word.getLast? ≠ some 'i'

theorem plain_word_tail {x : Char} {word : List Char} (ordinary : PlainWord (x :: word)) :
    PlainWord word := by
  obtain ⟨all, ending⟩ := ordinary
  refine ⟨fun c member => all c (by simp [member]), ?_⟩
  cases word with
  | nil => simp
  | cons y word => simpa using ending

theorem plain_word_prefix {word text before : List Char} (ordinary : PlainWord word)
    (starts : word <+: lowercaseAfter before text) :
    ∃ spelt, spelt <+: text ∧ spelt.map Char.toLower = word := by
  induction word generalizing text before with
  | nil => exact ⟨[], List.nil_prefix, rfl⟩
  | cons x word ih =>
    obtain ⟨rest, split⟩ := starts
    have undotted : x = 'i' → (word ++ rest).head? ≠ some '\u0307' := by
      intro dotted same
      subst dotted
      cases word with
      | nil => exact ordinary.2 rfl
      | cons y word =>
        obtain rfl : y = '\u0307' := by simpa using same
        exact absurd (ordinary.1 '\u0307' (by simp)) (by decide)
    obtain ⟨c, more, rfl, low, later⟩ :=
      plain_lower_form split.symm (ordinary.1 x (by simp)) undotted
    obtain ⟨spelt, front, lowered⟩ := ih (plain_word_tail ordinary) ⟨rest, later⟩
    exact ⟨c :: spelt, List.cons_prefix_cons.mpr ⟨rfl, front⟩, by rw [List.map_cons, low, lowered]⟩

theorem lower_form_shape (before rest : List Char) (c : Char) : ∃ form,
    lowercaseAfter before (c :: rest) = form ++ lowercaseAfter (c :: before) rest ∧
      ((∃ d, form = [d]) ∨ form = ['i', '\u0307']) := by
  refine ⟨_, rfl, ?_⟩
  simp only [lowerForm]
  split
  · split
    · exact Or.inl ⟨_, rfl⟩
    · exact Or.inl ⟨_, rfl⟩
  · split
    · exact Or.inl ⟨_, rfl⟩
    · split
      · exact Or.inr rfl
      · exact Or.inl ⟨_, rfl⟩

theorem lowercase_split (before front back : List Char) : ∃ lowered,
    lowercaseAfter before (front ++ back) =
      lowered ++ lowercaseAfter (front.reverse ++ before) back := by
  induction front generalizing before with
  | nil => exact ⟨[], rfl⟩
  | cons c front ih =>
    obtain ⟨lowered, split⟩ := ih (c :: before)
    obtain ⟨form, step, _⟩ := lower_form_shape before (front ++ back) c
    exact ⟨form ++ lowered, by simp [step, split]⟩

theorem spelt_lowercase {spelt before : List Char} (ordinary : ∀ c ∈ spelt, plain c.toLower = true)
    (rest : List Char) : lowercaseAfter before (spelt ++ rest) =
      spelt.map Char.toLower ++ lowercaseAfter (spelt.reverse ++ before) rest := by
  induction spelt generalizing before with
  | nil => rfl
  | cons c spelt ih =>
    rw [List.cons_append, lower_form_plain rfl (ordinary c (by simp)),
      ih fun d member => ordinary d (by simp [member])]
    simp

theorem plain_word_infix {word text before : List Char} (ordinary : PlainWord word)
    (nonempty : word ≠ []) (inside : word <:+: lowercaseAfter before text) :
    ∃ spelt, spelt <:+: text ∧ spelt.map Char.toLower = word := by
  induction text generalizing before with
  | nil => exact absurd (by simpa [lowercaseAfter] using inside) nonempty
  | cons c text ih =>
    have later : word <:+: lowercaseAfter (c :: before) text →
        ∃ spelt, spelt <:+: c :: text ∧ spelt.map Char.toLower = word := by
      intro inside
      obtain ⟨spelt, found, lowered⟩ := ih inside
      exact ⟨spelt, found.trans (List.suffix_cons c text).isInfix, lowered⟩
    by_cases starts : word <+: lowercaseAfter before (c :: text)
    · obtain ⟨spelt, front, lowered⟩ := plain_word_prefix ordinary starts
      exact ⟨spelt, front.isInfix, lowered⟩
    · obtain ⟨form, split, ⟨d, rfl⟩ | rfl⟩ := lower_form_shape before text c
      · rw [split] at starts inside
        exact later ((List.infix_cons_iff.mp inside).resolve_left starts)
      · rw [split] at starts inside
        have inside := (List.infix_cons_iff.mp inside).resolve_left starts
        rcases List.infix_cons_iff.mp inside with dot | inside
        -- The word would start with the dot that the dotted capital I leaves.
        · exfalso
          cases word with
          | nil => exact nonempty rfl
          | cons x word =>
            obtain ⟨rfl, _⟩ := List.cons_prefix_cons.mp dot
            exact absurd (ordinary.1 '\u0307' (by simp)) (by decide)
        · exact later inside

theorem plain_word_infix_iff {word text : List Char} (ordinary : PlainWord word)
    (nonempty : word ≠ []) :
    word <:+: lowercase text ↔ ∃ spelt, spelt <:+: text ∧ spelt.map Char.toLower = word := by
  constructor
  · exact plain_word_infix ordinary nonempty
  · intro found
    obtain ⟨spelt, ⟨front, back, rfl⟩, rfl⟩ := found
    have ordinary : ∀ c ∈ spelt, plain c.toLower = true := fun c member =>
      ordinary.1 _ (List.mem_map_of_mem member)
    obtain ⟨lowered, split⟩ := lowercase_split [] front (spelt ++ back)
    rw [lowercase, List.append_assoc, split, spelt_lowercase ordinary]
    exact ⟨lowered, _, List.append_assoc _ _ _⟩

end InjectionLab.Text
