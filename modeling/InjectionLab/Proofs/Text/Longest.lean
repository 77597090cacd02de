import InjectionLab.Proofs.Text.Grammar

/-!
Reading as far as possible. Where some text of a piece stands, the piece takes a text, and every
other text that it could take there is in front of that one. What settles this is that a run goes
on up to the end of its class, and that a numeral is a sign, a run and a fraction, none of which
can be cut in two ways.
-/
namespace InjectionLab.Text

theorem run_reaches {inside : Char → Bool} {run rest run' rest' : List Char}
    (outside : Outside inside rest) (all : ∀ c ∈ run', inside c = true)
    (same : run ++ rest = run' ++ rest') : run' <+: run := by
  rcases List.append_eq_append_iff.mp same with ⟨more, rfl, later⟩ | ⟨more, rfl, later⟩
  · cases more with
    | nil => simp
    | cons c more =>
      have closed := outside c (more ++ rest') later
      rw [all c (by simp)] at closed
      cases closed
  · exact List.prefix_append run' more

theorem run_taken {inside : Char → Bool} {run : List Char} (some : run ≠ [])
    (all : ∀ c ∈ run, inside c = true) (rest : List Char) :
    ∃ longer after, takeRun inside (run ++ rest) = Option.some (longer, after) := by
  rw [takeRun, List.takeWhile_append_of_pos all]
  cases run with
  | nil => contradiction
  | cons c run => exact ⟨_, _, rfl⟩

/-! Numerals -/

section Fractions
variable {fraction : Bool} {tail rest : List Char}
  (tails : tail = [] ∨ fraction = true ∧ ∃ decimals, tail = '.' :: decimals ∧ Digits decimals)
  (outside : Outside isDigit rest)
include tails outside

theorem fraction_outside : Outside isDigit (tail ++ rest) := by
  rcases tails with rfl | ⟨_, decimals, rfl, _⟩
  · exact outside
  · intro c more starts
    obtain ⟨rfl, -⟩ := List.cons.inj starts
    exact point_not_digit

theorem fraction_reaches {tail' rest' : List Char}
    (tails' : tail' = [] ∨ fraction = true ∧ ∃ decimals, tail' = '.' :: decimals ∧ Digits decimals)
    (stopped : fraction = true → tail = [] → ∀ more, rest = '.' :: more → Outside isDigit more)
    (same : tail ++ rest = tail' ++ rest') : tail' <+: tail := by
  rcases tails' with rfl | ⟨allowed, decimals', rfl, valid'⟩
  · exact List.nil_prefix
  · rcases tails with rfl | ⟨-, decimals, rfl, valid⟩
    · obtain ⟨d, more, starts, digit⟩ := digits_start valid' rest'
      have closed := stopped allowed rfl (decimals' ++ rest') same d more starts
      rw [digit] at closed
      cases closed
    · rw [List.cons_append, List.cons_append, List.cons.injEq] at same
      exact List.cons_prefix_cons.mpr ⟨rfl, run_reaches outside valid'.2 same.2⟩

end Fractions

theorem numeral_reaches {signed fraction : Bool} {token rest token' rest' : List Char}
    (fits : NumeralText signed fraction token)
    (ends : (Piece.numeral signed fraction).Ends token rest)
    (fits' : NumeralText signed fraction token') (same : token ++ rest = token' ++ rest') :
    token' <+: token := by
  obtain ⟨sign, digits, tail, rfl, valid, signs, tails⟩ := fits
  obtain ⟨sign', digits', tail', rfl, valid', signs', tails'⟩ := fits'
  obtain ⟨outside, stopped⟩ := ends
  simp only [List.append_assoc] at same ⊢
  -- Both signs are what is taken of the text in front of digits, so they are one and the same.
  have first := (take_sign_iff (digits_start valid (tail ++ rest))).mpr ⟨rfl, signs⟩
  have second := (take_sign_iff (digits_start valid' (tail' ++ rest'))).mpr ⟨rfl, signs'⟩
  rw [same, second] at first
  obtain ⟨rfl, behind⟩ := Prod.mk.inj first
  rw [List.prefix_append_right_inj]
  obtain ⟨more, rfl⟩ := run_reaches (fraction_outside tails outside) valid'.2 behind.symm
  cases more with
  | nil =>
    rw [List.append_nil] at behind ⊢
    rw [List.prefix_append_right_inj]
    refine fraction_reaches tails outside tails' (fun allowed none => stopped allowed ?_)
      (List.append_cancel_left behind).symm
    rw [none, List.append_nil]
    exact point_free signs valid
  | cons d more =>
    -- A digit follows the shorter run, and with a digit no fraction starts.
    have digit := valid.2 d (by simp)
    rcases tails' with rfl | ⟨-, decimals, rfl, -⟩
    · rw [List.append_nil, List.append_assoc]
      exact List.prefix_append _ _
    · rw [List.append_assoc] at behind
      obtain ⟨rfl, -⟩ := List.cons.inj (List.append_cancel_left behind)
      rw [point_not_digit] at digit
      cases digit

theorem numeral_taken {signed fraction : Bool} {token : List Char}
    (fits : NumeralText signed fraction token) (rest : List Char) :
    ∃ longer after, takeNumeral signed fraction (token ++ rest) = some (longer, after) := by
  obtain ⟨sign, digits, tail, rfl, valid, signs, -⟩ := fits
  have signTaken := (take_sign_iff (digits_start valid (tail ++ rest))).mpr ⟨rfl, signs⟩
  obtain ⟨run, after, runTaken⟩ := run_taken valid.1 valid.2 (tail ++ rest)
  simp only [takeNumeral, List.append_assoc, signTaken, runTaken]
  exact ⟨_, _, rfl⟩

/-! Pieces -/

theorem single_reaches {token rest token' rest' : List Char} (single : token.length = 1)
    (single' : token'.length = 1) (same : token ++ rest = token' ++ rest') : token' <+: token := by
  obtain ⟨rfl, -⟩ := List.append_inj same (single.trans single'.symm)
  exact List.prefix_rfl

theorem piece_reaches {piece : Piece} {token rest token' rest' : List Char}
    (fits : piece.Fits token) (ends : piece.Ends token rest) (fits' : piece.Fits token')
    (same : token ++ rest = token' ++ rest') : token' <+: token := by
  cases piece with
  | letter c | blank =>
    obtain ⟨_, rfl, -⟩ := fits
    obtain ⟨_, rfl, -⟩ := fits'
    exact single_reaches rfl rfl same
  | mark c =>
    obtain rfl : token = [c] := fits
    obtain rfl : token' = [c] := fits'
    exact List.prefix_rfl
  | gap => exact run_reaches ends fits' same
  | upTo stop => exact run_reaches ends fits'.2 same
  | numeral signed fraction => exact numeral_reaches fits ends fits' same

/-- Where a text of the piece stands, the piece takes one that reaches at least as far. -/
theorem piece_taken {piece : Piece} {token : List Char} (fits : piece.Fits token)
    (rest : List Char) : ∃ longer after, token ++ rest = longer ++ after ∧ piece.Fits longer ∧
      piece.Ends longer after ∧ token <+: longer := by
  have taken : ∃ longer after, piece.take? (token ++ rest) = some (longer, after) := by
    cases piece with
    | letter c | mark c | blank => exact ⟨token, rest, take_iff.mpr ⟨rfl, fits, trivial⟩⟩
    | gap => exact ⟨_, _, rfl⟩
    | upTo stop => exact run_taken fits.1 fits.2 rest
    | numeral signed fraction => exact numeral_taken fits rest
  obtain ⟨longer, after, taken⟩ := taken
  obtain ⟨split, longerFits, ends⟩ := take_iff.mp taken
  exact ⟨longer, after, split, longerFits, ends, piece_reaches longerFits ends fits split.symm⟩

end InjectionLab.Text
