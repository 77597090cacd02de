import InjectionLab.Double
import Mathlib

/-!
Rounding to doubles. The amount made from a ratio is the double nearest to it, on a tie the one
whose last bit is even. From halfway between the greatest double and the next power of two on, it
is infinite. No other amount is nearest, and a greater number has no smaller one.
-/
namespace InjectionLab

def offBy (x den exact : Nat) : Nat := ((x * den : Nat) - exact : Int).natAbs

theorem half_even_bounds (num den : Nat) :
    num / den ≤ roundHalfEven num den ∧ roundHalfEven num den ≤ num / den + 1 := by
  simp only [roundHalfEven]
  split
  · omega
  · split
    · omega
    · omega

theorem half_even_nearest {den : Nat} (positive : 0 < den) (num k : Nat) :
    offBy (roundHalfEven num den) den num ≤ offBy k den num ∧
      (offBy (roundHalfEven num den) den num = offBy k den num →
        k = roundHalfEven num den ∨ roundHalfEven num den % 2 = 0) := by
  have split : num / den * den + num % den = num := Nat.div_add_mod' num den
  have rest : num % den < den := Nat.mod_lt num positive
  have up : (num / den + 1) * den = num / den * den + den := Nat.succ_mul _ _
  have apart : k < num / den ∧ k * den + den ≤ num / den * den ∨
      k = num / den ∧ k * den = num / den * den ∨
      k = num / den + 1 ∧ k * den = num / den * den + den ∨
      num / den + 1 < k ∧ num / den * den + den + den ≤ k * den := by
    rcases Nat.lt_trichotomy k (num / den) with less | same | more
    · have below := Nat.mul_le_mul_right den (Nat.succ_le_of_lt less)
      rw [Nat.succ_mul] at below
      exact Or.inl ⟨less, below⟩
    · exact Or.inr (Or.inl ⟨same, by rw [same]⟩)
    · rcases Nat.lt_or_eq_of_le (Nat.succ_le_of_lt more) with beyond | next
      · have above := Nat.mul_le_mul_right den (Nat.succ_le_of_lt beyond)
        rw [Nat.succ_mul, Nat.succ_mul] at above
        exact Or.inr (Or.inr (Or.inr ⟨beyond, above⟩))
      · exact Or.inr (Or.inr (Or.inl ⟨next.symm, by rw [← next, Nat.succ_mul]⟩))
  simp only [roundHalfEven, offBy]
  generalize num / den = q at *
  generalize num % den = m at *
  split
  · omega
  · split
    · rw [up]
      omega
    · rcases Nat.mod_two_eq_zero_or_one q with even | odd
      · rw [even, Nat.add_zero]
        omega
      · rw [odd, up]
        omega

/-! One rounding, of `exact / den` to a whole multiple of a power of two -/

def lastPlace (units : Nat) : Nat := 2 ^ (units.log2 - 52)

def keptPlace (exact den : Nat) : Nat := lastPlace (exact / den)

def rounded (exact den : Nat) : Nat :=
  roundHalfEven exact (den * keptPlace exact den) * keptPlace exact den

theorem round_units_eq (num den : Nat) :
    roundUnits num den = rounded (num * unitsPerOne) den := by
  simp only [roundUnits, rounded, keptPlace, lastPlace, Nat.pow_eq]

theorem last_place_positive (units : Nat) : 0 < lastPlace units := Nat.two_pow_pos _

theorem significand_bounds (exact den : Nat) :
    roundHalfEven exact (den * keptPlace exact den) ≤ 2 ^ 53 ∧
      (1 < keptPlace exact den → 2 ^ 52 ≤ exact / (den * keptPlace exact den)) := by
  have bounds := half_even_bounds exact (den * keptPlace exact den)
  rw [← Nat.div_div_eq_div_mul] at bounds ⊢
  have place : keptPlace exact den = 2 ^ ((exact / den).log2 - 52) := rfl
  generalize exact / den = whole at bounds place ⊢
  rw [place] at bounds ⊢
  constructor
  · have small : whole / 2 ^ (whole.log2 - 52) < 2 ^ 53 := by
      rw [Nat.div_lt_iff_lt_mul (Nat.two_pow_pos _), ← Nat.pow_add]
      exact Nat.lt_of_lt_of_le Nat.lt_log2_self (Nat.pow_le_pow_right (by decide) (by omega))
    omega
  · intro dropped
    have large : 52 < whole.log2 := by
      by_contra small
      rw [Nat.sub_eq_zero_of_le (by omega)] at dropped
      simp at dropped
    rw [Nat.le_div_iff_mul_le (Nat.two_pow_pos _), ← Nat.pow_add,
      Nat.add_sub_cancel' (Nat.le_of_lt large)]
    exact Nat.log2_self_le (by rintro rfl; simp at large)

section
variable {exact den : Nat} (positive : 0 < den)
include positive

theorem multiple_not_nearer {other : Nat} (multiple : keptPlace exact den ∣ other) :
    offBy (rounded exact den) den exact ≤ offBy other den exact ∧
      (offBy (rounded exact den) den exact = offBy other den exact →
        other = rounded exact den ∨
          roundHalfEven exact (den * keptPlace exact den) % 2 = 0) := by
  have kept : 0 < keptPlace exact den := last_place_positive _
  obtain ⟨k, rfl⟩ := multiple
  obtain ⟨near, tie⟩ := half_even_nearest (Nat.mul_pos positive kept) exact k
  have reorder : ∀ x, offBy (x * keptPlace exact den) den exact =
      offBy x (den * keptPlace exact den) exact := by
    intro x
    simp only [offBy]
    congr 3
    ring
  rw [Nat.mul_comm _ k, rounded, reorder, reorder]
  refine ⟨near, fun equal => ?_⟩
  rcases tie equal with same | even
  · exact Or.inl (by rw [same])
  · exact Or.inr even

theorem finer_is_farther {other : Nat} (representable : other % lastPlace other = 0)
    (finer : ¬ keptPlace exact den ∣ other) :
    offBy (rounded exact den) den exact < offBy other den exact := by
  have place : keptPlace exact den = 2 ^ ((exact / den).log2 - 52) := rfl
  have coarse : other.log2 - 52 < (exact / den).log2 - 52 := by
    by_contra fine
    apply finer
    rw [place]
    exact Nat.dvd_trans (Nat.pow_dvd_pow 2 (by omega)) (Nat.dvd_of_mod_eq_zero representable)
  have whole : exact / den ≠ 0 := by
    intro zero
    simp [zero] at coarse
  have below : other < 2 ^ (exact / den).log2 :=
    Nat.lt_of_lt_of_le Nat.lt_log2_self (Nat.pow_le_pow_right (by decide) (by omega))
  have reached : 2 ^ (exact / den).log2 * den ≤ exact :=
    (Nat.le_div_iff_mul_le positive).mp (Nat.log2_self_le whole)
  have multiple : keptPlace exact den ∣ 2 ^ (exact / den).log2 := by
    rw [place]
    exact Nat.pow_dvd_pow 2 (by omega)
  have near := (multiple_not_nearer positive multiple).1
  have left := Nat.mul_lt_mul_of_pos_right below positive
  simp only [offBy] at near ⊢
  omega

theorem rounded_below_iff (top : Nat) :
    rounded exact den < 2 ^ (53 + top) ↔ 2 * exact < (2 ^ 54 - 1) * (2 ^ top * den) := by
  have cell : 0 < 2 ^ top * den := Nat.mul_pos (Nat.two_pow_pos _) positive
  have wide : 2 ^ (53 + top) * den = 2 ^ 53 * (2 ^ top * den) := by
    rw [Nat.pow_add, Nat.mul_assoc]
  constructor
  · intro small
    by_contra reached
    have whole : (2 ^ 53 - 1) * 2 ^ top ≤ exact / den := by
      rw [Nat.le_div_iff_mul_le positive, Nat.mul_assoc]
      omega
    have nonzero : exact / den ≠ 0 := by
      have := Nat.two_pow_pos top
      omega
    by_cases beyond : 2 ^ (53 + top) ≤ exact / den
    · have high := (Nat.le_log2 nonzero).mpr beyond
      have least := (significand_bounds exact den).2
        (Nat.one_lt_two_pow (by omega : (exact / den).log2 - 52 ≠ 0))
      have half := (half_even_bounds exact (den * keptPlace exact den)).1
      have product := Nat.mul_le_mul_right (keptPlace exact den) (Nat.le_trans least half)
      have total : 2 ^ 52 * keptPlace exact den = 2 ^ (exact / den).log2 := by
        rw [keptPlace, lastPlace, ← Nat.pow_add, Nat.add_sub_cancel' (by omega)]
      have grows := Nat.pow_le_pow_right (by decide : 0 < 2) high
      simp only [rounded] at small
      omega
    · have place : keptPlace exact den = 2 ^ top := by
        have low : 2 ^ (52 + top) ≤ exact / den := by
          rw [Nat.pow_add]
          omega
        have log := (Nat.log2_eq_iff nonzero).mpr ⟨low, by
          rw [show 52 + top + 1 = 53 + top by omega]
          omega⟩
        rw [keptPlace, lastPlace, log, Nat.add_sub_cancel_left]
      have above : exact < 2 ^ 53 * (2 ^ top * den) := by
        rw [← wide, ← Nat.div_lt_iff_lt_mul positive]
        omega
      have quotient : exact / (2 ^ top * den) = 2 ^ 53 - 1 :=
        Nat.div_eq_of_lt_le (by omega) (by omega)
      have split := Nat.div_add_mod exact (2 ^ top * den)
      have carried : 2 ^ 53 ≤ roundHalfEven exact (2 ^ top * den) := by
        simp only [roundHalfEven, quotient] at split ⊢
        generalize 2 ^ top * den = x at *
        generalize exact % x = m at *
        split <;> [omega; split <;> omega]
      have product := Nat.mul_le_mul_right (2 ^ top) carried
      rw [rounded, place, Nat.mul_comm den, Nat.pow_add] at small
      omega
  · intro small
    by_contra reached
    have below : exact / den < 2 ^ (53 + top) := by
      rw [Nat.div_lt_iff_lt_mul positive, wide]
      omega
    have multiple : keptPlace exact den ∣ (2 ^ 53 - 1) * 2 ^ top := by
      apply Dvd.dvd.mul_left
      apply Nat.pow_dvd_pow
      by_cases zero : exact / den = 0
      · simp [zero]
      · have := (Nat.log2_lt zero).mpr below
        omega
    have near := (multiple_not_nearer positive multiple).1
    have beyond := Nat.mul_le_mul_right den (Nat.not_lt.mp reached)
    rw [wide] at beyond
    simp only [offBy, Nat.mul_assoc] at near
    generalize 2 ^ top * den = x at *
    generalize rounded exact den * den = y at *
    omega

end

theorem last_place_of_short {significand dropped : Nat} (short : significand < 2 ^ 53)
    (large : 0 < dropped → 2 ^ 52 ≤ significand) :
    lastPlace (significand * 2 ^ dropped) = 2 ^ dropped := by
  have place : (significand * 2 ^ dropped).log2 - 52 = dropped := by
    rcases Nat.eq_zero_or_pos dropped with rfl | shifted
    · by_cases zero : significand = 0
      · simp [zero]
      · have := (Nat.log2_lt zero).mpr short
        simp only [Nat.pow_zero, Nat.mul_one]
        omega
    · have low := Nat.mul_le_mul_right (2 ^ dropped) (large shifted)
      have high := Nat.mul_lt_mul_of_pos_right short (Nat.two_pow_pos dropped)
      rw [← Nat.pow_add] at low high
      have nonzero : significand * 2 ^ dropped ≠ 0 := by
        have := Nat.two_pow_pos (52 + dropped)
        omega
      have log := (Nat.log2_eq_iff nonzero).mpr ⟨low, by
        rwa [show 52 + dropped + 1 = 53 + dropped by omega]⟩
      rw [log, Nat.add_sub_cancel_left]
  rw [lastPlace, place]

theorem last_place_of_significand {significand dropped : Nat} (small : significand ≤ 2 ^ 53)
    (large : 0 < dropped → 2 ^ 52 ≤ significand) :
    significand * 2 ^ dropped % lastPlace (significand * 2 ^ dropped) = 0 ∧
      (significand % 2 = 0 →
        significand * 2 ^ dropped / lastPlace (significand * 2 ^ dropped) % 2 = 0) := by
  rcases Nat.lt_or_eq_of_le small with less | rfl
  · rw [last_place_of_short less large]
    exact ⟨Nat.mul_mod_left _ _, fun even => by
      rwa [Nat.mul_div_cancel _ (Nat.two_pow_pos _)]⟩
  · have place : lastPlace (2 ^ 53 * 2 ^ dropped) = 2 * 2 ^ dropped := by
      rw [lastPlace, ← Nat.pow_add, Nat.log2_two_pow, ← Nat.pow_succ']
      congr 1
      omega
    rw [place, show 2 ^ 53 * 2 ^ dropped = 2 ^ 52 * (2 * 2 ^ dropped) by ring]
    have unit : 0 < 2 * 2 ^ dropped := Nat.mul_pos (by decide) (Nat.two_pow_pos _)
    exact ⟨Nat.mul_mod_left _ _, fun _ => by
      rw [Nat.mul_div_cancel _ unit]
      decide⟩

theorem rounded_last_place (exact den : Nat) :
    rounded exact den % lastPlace (rounded exact den) = 0 ∧
      (roundHalfEven exact (den * keptPlace exact den) % 2 = 0 →
        rounded exact den / lastPlace (rounded exact den) % 2 = 0) := by
  obtain ⟨small, large⟩ := significand_bounds exact den
  apply last_place_of_significand small
  intro dropped
  have least := large (Nat.one_lt_two_pow (Nat.ne_of_gt dropped))
  exact Nat.le_trans least (half_even_bounds _ _).1

/-! Amounts -/

def topPlace : Nat := 2045

theorem representable_iff (units : Nat) :
    Representable units ↔ units < 2 ^ (53 + topPlace) ∧ units % lastPlace units = 0 := by
  rw [Representable, lastPlace, Nat.pow_eq, and_congr_left_iff]
  rintro -
  by_cases zero : units = 0
  · rw [zero]
    exact iff_of_true (by decide) (Nat.two_pow_pos _)
  · rw [show 2098 = 53 + topPlace from rfl]
    exact Nat.log2_lt zero

def Double.magnitude (x : Double) : ℚ := x.units / unitsPerOne

/-- Halfway between the greatest double and the power of two above it. -/
def overflowSize : ℚ := 2 ^ 1024 - 2 ^ 970

/-- The amount of the given sign whose magnitude is nearest to `size`, as doubles are rounded. -/
def Amount.Nearest (negative : Bool) (size : ℚ) : Amount → Prop
  | .finite x => x.negative = negative ∧ size < overflowSize ∧ ∀ y : Double,
      |x.magnitude - size| ≤ |y.magnitude - size| ∧
        (|x.magnitude - size| = |y.magnitude - size| →
          y.units = x.units ∨ x.units / lastPlace x.units % 2 = 0)
  | .infinite sign => sign = negative ∧ overflowSize ≤ size

theorem ratio_off_by {one den : Nat} (unit : 0 < one) (positive : 0 < den) (units num : Nat) :
    |(units : ℚ) / one - num / den| = offBy units den (num * one) / (one * den : Nat) := by
  have one' : (0 : ℚ) < one := by exact_mod_cast unit
  have den' : (0 : ℚ) < den := by exact_mod_cast positive
  rw [div_sub_div _ _ one'.ne' den'.ne', abs_div, Nat.cast_mul, abs_of_pos (mul_pos one' den'),
    offBy, Nat.cast_natAbs]
  push_cast
  rw [mul_comm (one : ℚ) num]

theorem overflow_size_eq : overflowSize = ((2 ^ 54 - 1) * 2 ^ 970 : Nat) := by
  have split : (2 : ℚ) ^ 1024 = 2 ^ 54 * 2 ^ 970 := pow_add 2 54 970
  rw [overflowSize, split, Nat.cast_mul, Nat.cast_pow, Nat.cast_ofNat]
  generalize (2 : ℚ) ^ 970 = step
  push_cast
  ring

theorem ratio_below_iff {den bound shift top : Nat} (positive : 0 < den)
    (places : bound + shift + 1 = top) (num : Nat) :
    (num : ℚ) / den < ((2 ^ 54 - 1) * 2 ^ bound : Nat) ↔
      2 * (num * Nat.pow 2 shift) < (2 ^ 54 - 1) * (2 ^ top * den) := by
  subst top
  have den' : (0 : ℚ) < den := by exact_mod_cast positive
  rw [div_lt_iff₀ den', ← Nat.cast_mul, Nat.cast_lt,
    ← Nat.mul_lt_mul_right (Nat.two_pow_pos (shift + 1))]
  have left : num * 2 ^ (shift + 1) = 2 * (num * 2 ^ shift) := by ring
  have right : (2 ^ 54 - 1) * 2 ^ bound * den * 2 ^ (shift + 1) =
      (2 ^ 54 - 1) * (2 ^ (bound + shift + 1) * den) := by
    rw [Nat.add_assoc bound, Nat.pow_add 2 bound]
    ac_rfl
  rw [left, right, Nat.pow_eq]

theorem below_overflow_iff {num den : Nat} (positive : 0 < den) :
    (num : ℚ) / den < overflowSize ↔ roundUnits num den < 2 ^ (53 + topPlace) := by
  rw [overflow_size_eq, round_units_eq, rounded_below_iff positive]
  unfold unitsPerOne
  apply ratio_below_iff positive
  rfl

theorem units_per_one_positive : 0 < unitsPerOne := by
  unfold unitsPerOne
  apply Nat.two_pow_pos

theorem round_units_nearest (num : Nat) {den : Nat} (positive : 0 < den) {units : Nat}
    (representable : Representable units) :
    offBy (roundUnits num den) den (num * unitsPerOne) ≤ offBy units den (num * unitsPerOne) ∧
      (offBy (roundUnits num den) den (num * unitsPerOne) =
          offBy units den (num * unitsPerOne) →
        units = roundUnits num den ∨
          roundUnits num den / lastPlace (roundUnits num den) % 2 = 0) := by
  rw [round_units_eq]
  by_cases multiple : keptPlace (num * unitsPerOne) den ∣ units
  · obtain ⟨near, tie⟩ := multiple_not_nearer positive multiple
    refine ⟨near, fun equal => (tie equal).imp id ?_⟩
    exact (rounded_last_place _ den).2
  · have far := finer_is_farther positive ((representable_iff units).mp representable).2 multiple
    exact ⟨Nat.le_of_lt far, fun equal => absurd equal (Nat.ne_of_lt far)⟩

theorem of_ratio_nearest (negative : Bool) (num : Nat) {den : Nat} (positive : 0 < den) :
    (Amount.ofRatio negative num den).Nearest negative (num / den) := by
  have whole : Representable (roundUnits num den) ↔ roundUnits num den < 2 ^ (53 + topPlace) := by
    rw [representable_iff, and_iff_left]
    rw [round_units_eq]
    exact (rounded_last_place _ den).1
  have scale : (0 : ℚ) < (unitsPerOne * den : Nat) := by
    exact_mod_cast Nat.mul_pos units_per_one_positive positive
  simp only [Amount.ofRatio]
  split
  · rename_i representable
    refine ⟨rfl, (below_overflow_iff positive).mpr (whole.mp representable), fun y => ?_⟩
    obtain ⟨near, tie⟩ := round_units_nearest num positive y.representable
    simp only [Double.magnitude, ratio_off_by units_per_one_positive positive,
      div_le_div_iff_of_pos_right scale, div_left_inj' scale.ne', Nat.cast_le, Nat.cast_inj]
    exact ⟨near, tie⟩
  · rename_i large
    rw [whole, ← below_overflow_iff positive, not_lt] at large
    exact ⟨rfl, large⟩

/-! The nearest amount is determined -/

theorem last_place_divides {a b : Nat} (order : a ≤ b) : lastPlace a ∣ lastPlace b := by
  apply Nat.pow_dvd_pow
  have logs : a.log2 ≤ b.log2 := by
    by_cases zero : a = 0
    · simp [zero]
    · have low := Nat.log2_self_le zero
      exact (Nat.le_log2 (by omega)).mpr (Nat.le_trans low order)
  omega

theorem significand_of_double (x : Double) :
    x.units = x.units / lastPlace x.units * lastPlace x.units ∧
      x.units / lastPlace x.units < 2 ^ 53 ∧
      (0 < x.units.log2 - 52 → 2 ^ 52 ≤ x.units / lastPlace x.units) := by
  obtain ⟨_, whole⟩ := (representable_iff x.units).mp x.representable
  refine ⟨(Nat.div_mul_cancel (Nat.dvd_of_mod_eq_zero whole)).symm, ?_, fun dropped => ?_⟩
  · rw [Nat.div_lt_iff_lt_mul (last_place_positive _), lastPlace, ← Nat.pow_add]
    exact Nat.lt_of_lt_of_le Nat.lt_log2_self (Nat.pow_le_pow_right (by decide) (by omega))
  · rw [Nat.le_div_iff_mul_le (last_place_positive _), lastPlace, ← Nat.pow_add,
      Nat.add_sub_cancel' (by omega)]
    exact Nat.log2_self_le (by intro zero; simp [zero] at dropped)

theorem odd_above_even {x y : Double} (even : x.units / lastPlace x.units % 2 = 0)
    (below : x.units < y.units) : ∃ z : Double, x.units < z.units ∧ z.units ≤ y.units ∧
      z.units / lastPlace z.units % 2 = 1 := by
  obtain ⟨product, short, large⟩ := significand_of_double x
  have fine : lastPlace x.units ∣ y.units := (last_place_divides (Nat.le_of_lt below)).trans
    (Nat.dvd_of_mod_eq_zero ((representable_iff _).mp y.representable).2)
  have step := last_place_positive x.units
  -- The next magnitude has the same last place: an even significand is not the greatest one.
  have place : lastPlace ((x.units / lastPlace x.units + 1) * lastPlace x.units) =
      lastPlace x.units := by
    apply last_place_of_short
    · omega
    · intro dropped
      have := large dropped
      omega
  generalize x.units / lastPlace x.units = m at *
  obtain ⟨k, multiple⟩ := fine
  rw [Nat.mul_comm] at multiple
  have reached : (m + 1) * lastPlace x.units ≤ y.units := by
    rw [multiple]
    apply Nat.mul_le_mul_right
    by_contra before
    have := Nat.mul_le_mul_right (lastPlace x.units) (show k ≤ m by omega)
    omega
  have above : x.units < (m + 1) * lastPlace x.units := by
    rw [Nat.add_mul]
    omega
  have odd : (m + 1) * lastPlace x.units / lastPlace ((m + 1) * lastPlace x.units) % 2 = 1 := by
    rw [place, Nat.mul_div_cancel _ step]
    omega
  have representable : Representable ((m + 1) * lastPlace x.units) := by
    have top := ((representable_iff _).mp y.representable).1
    rw [representable_iff, place]
    exact ⟨by omega, Nat.mul_mod_left _ _⟩
  exact ⟨⟨false, _, representable⟩, above, reached, odd⟩

theorem nearer_between {low middle high size : ℚ} (left : low < middle) (right : middle < high)
    (level : |low - size| = |high - size|) : |middle - size| < |low - size| := by
  have halfway : size = (low + high) / 2 := by
    rcases abs_eq_abs.mp level with same | opposite
    · linarith
    · linarith
  subst halfway
  rw [abs_of_neg (show low - (low + high) / 2 < 0 by linarith), abs_lt]
  constructor
  · linarith
  · linarith

theorem magnitude_lt {x y : Double} (less : x.units < y.units) : x.magnitude < y.magnitude := by
  have unit : (0 : ℚ) < unitsPerOne := by exact_mod_cast units_per_one_positive
  exact (div_lt_div_iff_of_pos_right unit).mpr (by exact_mod_cast less)

theorem nearest_not_below {negative : Bool} {size : ℚ} {x y : Double}
    (near : (Amount.finite x).Nearest negative size)
    (near' : (Amount.finite y).Nearest negative size) : ¬ x.units < y.units := by
  intro below
  obtain ⟨_, _, least⟩ := near
  obtain ⟨_, _, least'⟩ := near'
  have level := le_antisymm (least y).1 (least' x).1
  have even := ((least y).2 level).resolve_left (Nat.ne_of_gt below)
  have even' := ((least' x).2 level.symm).resolve_left (Nat.ne_of_lt below)
  obtain ⟨z, above, reached, odd⟩ := odd_above_even even below
  have apart : z.units ≠ y.units := by
    intro same
    rw [same] at odd
    omega
  have nearer := nearer_between (magnitude_lt above) (magnitude_lt (lt_of_le_of_ne reached apart)) level
  exact absurd (least z).1 (not_le.mpr nearer)

theorem nearest_unique {negative : Bool} {size : ℚ} {a b : Amount}
    (near : a.Nearest negative size) (near' : b.Nearest negative size) : a = b := by
  cases a with
  | finite x =>
    cases b with
    | finite y =>
      have units : x.units = y.units := by
        have := nearest_not_below near near'
        have := nearest_not_below near' near
        omega
      have sign : x.negative = y.negative := near.1.trans near'.1.symm
      cases x
      cases y
      simp_all
    | infinite sign => exact absurd near.2.1 (not_lt.mpr near'.2)
  | infinite sign =>
    cases b with
    | finite y => exact absurd near'.2.1 (not_lt.mpr near.2)
    | infinite sign' => rw [near.1, near'.1]

/-! Order -/

theorem lower_half {low high size : ℚ} (apart : low < high) (near : |low - size| ≤ |high - size|) :
    2 * size ≤ low + high := by
  have squares := sq_le_sq.mpr near
  nlinarith only [squares, apart]

theorem upper_half {low high size : ℚ} (apart : low < high) (near : |high - size| ≤ |low - size|) :
    low + high ≤ 2 * size := by
  have squares := sq_le_sq.mpr near
  nlinarith only [squares, apart]

theorem nearest_monotone {negative : Bool} {low high : ℚ} {x y : Double}
    (near : (Amount.finite x).Nearest negative low)
    (near' : (Amount.finite y).Nearest negative high) (order : low ≤ high) : x.units ≤ y.units := by
  by_contra crossed
  have apart := magnitude_lt (Nat.not_le.mp crossed)
  -- Both numbers would lie halfway between the two doubles, so they would be one.
  have below := lower_half apart (near'.2.2 x).1
  have above := upper_half apart (near.2.2 y).1
  obtain rfl : low = high := by linarith
  exact nearest_not_below near' near (Nat.not_le.mp crossed)

end InjectionLab
