import InjectionLab.Json.Quoted

/-!
Quoted text read back. Every character stands in quotes for its code point, escaped or not, and no
code point of a character is half of a surrogate pair, so reading what was written gives the same
text, whether it is strict or not.
-/
namespace InjectionLab.Json.Quoted

theorem hex_digit_value : ∀ n < 16, hexValue? (hexDigit n) = some n := by decide

theorem control_unit {code : Nat} (control : code < 32) :
    unit? '0' '0' (hexDigit (code / 16)) (hexDigit (code % 16)) = some code := by
  have zero : hexValue? '0' = some 0 := by decide
  have high := hex_digit_value (code / 16) (by omega)
  have low := hex_digit_value (code % 16) (by omega)
  have sum : (0 * 16 + 0) * 256 + code / 16 * 16 + code % 16 = code := by omega
  simp only [unit?, zero, high, low, Option.bind_eq_bind, Option.bind_some, sum]

theorem units_escape (c : Char) (rest : List Char) :
    units (escape c ++ rest) = put c.toNat (units rest) := by
  by_cases quote : c = '"'
  · subst quote
    rfl
  by_cases backslash : c = '\\'
  · subst backslash
    rfl
  by_cases backspace : c = '\x08'
  · subst backspace
    rfl
  by_cases tab : c = '\t'
  · subst tab
    rfl
  by_cases newline : c = '\n'
  · subst newline
    rfl
  by_cases feed : c = '\x0c'
  · subst feed
    rfl
  by_cases carriage : c = '\r'
  · subst carriage
    rfl
  simp only [escape, quote, backslash, backspace, tab, newline, feed, carriage, ↓reduceIte]
  split
  · rename_i control
    simp only [List.cons_append, List.nil_append, units, control_unit control]
  · rename_i printable
    simp [units, backslash, printable]

theorem units_encode (text rest : List Char) :
    units (encode text ++ '"' :: rest) = some (text.map Char.toNat, rest) := by
  induction text with
  | nil => rfl
  | cons c text ih =>
    rw [encode, List.flatMap_cons, List.append_assoc, units_escape, ← encode, ih]
    rfl

theorem character_unpaired (c : Char) : isHigh c.toNat = false ∧ isLow c.toNat = false := by
  have valid : c.toNat < 0xD800 ∨ 0xDFFF < c.toNat ∧ c.toNat < 0x110000 := c.valid
  simp only [isHigh, isLow, Bool.and_eq_false_iff, decide_eq_false_iff_not]
  omega

theorem join_characters (strict : Bool) (text : List Char) :
    join strict (text.map Char.toNat) = some text := by
  -- The induction is over the text: a code point of a character never joins the one that follows.
  induction text with
  | nil => rfl
  | cons c text ih =>
    obtain ⟨high, low⟩ := character_unpaired c
    cases text with
    | nil => simp [join, high, low]
    | cons d text =>
      simp only [List.map_cons] at ih ⊢
      simp [join, high, low, ih]

theorem decode_encode (strict : Bool) (text rest : List Char) :
    decode strict (encode text ++ '"' :: rest) = some (text, rest) := by
  rw [decode, units_encode]
  simp only [join_characters, Option.map_some]

end InjectionLab.Json.Quoted
