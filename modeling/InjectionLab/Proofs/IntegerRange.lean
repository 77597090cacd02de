import InjectionLab.Predicate
import InjectionLab.Proofs.Json.Record
import InjectionLab.Proofs.Rounding

/-!
Ranges over integer fields. Equality compares two integers as they are, but a range compares the
doubles nearest to them. Rounding keeps the order, so a range lets through every row that it should.
Below 2^53 an integer is a double itself; beyond, integers next to each other share one, and a range
that ends at one of them lets through the others as well.
-/
namespace InjectionLab

def Json.Value.ofInt64 (n : Int64) : Json.Value := ⟨.ofInt64 n, Json.int64_bounded n⟩

/-- The double nearest to an integer, on a tie the one whose last bit is even. -/
def Double.Nears (x : Double) (n : Int) : Prop :=
  (Amount.finite x).Nearest (decide (n < 0)) n.natAbs

def SharesDouble (m n : Int64) : Prop := ∃ x : Double, x.Nears m.toInt ∧ x.Nears n.toInt

/-! Whole numbers among the doubles -/

theorem short_representable {k d : Nat} (short : k < 2 ^ 53) (small : d ≤ topPlace) :
    Representable (k * 2 ^ d) := by
  have below : k * 2 ^ d < 2 ^ (53 + d) := by
    rw [Nat.pow_add]
    exact Nat.mul_lt_mul_of_pos_right short (Nat.two_pow_pos d)
  rw [representable_iff]
  constructor
  · exact Nat.lt_of_lt_of_le below (Nat.pow_le_pow_right (by decide) (Nat.add_le_add_left small 53))
  · apply Nat.mod_eq_zero_of_dvd
    apply Dvd.dvd.mul_left
    apply Nat.pow_dvd_pow
    by_cases zero : k * 2 ^ d = 0
    · simp [zero]
    · have log := (Nat.log2_lt zero).mpr below
      omega

theorem short_scaled {k p q : Nat} (short : k < 2 ^ 53) (small : p + q ≤ topPlace) :
    Representable (k * 2 ^ p * Nat.pow 2 q) := by
  rw [Nat.pow_eq, Nat.mul_assoc, ← Nat.pow_add]
  exact short_representable short small

theorem whole_double {k e : Nat} (short : k ≤ 2 ^ 53) (small : e ≤ 900) :
    ∃ x : Double, x.magnitude = (k * 2 ^ e : Nat) := by
  obtain ⟨m, p, same, less, small⟩ : ∃ m p, k * 2 ^ e = m * 2 ^ p ∧ m < 2 ^ 53 ∧ p ≤ 953 := by
    rcases Nat.lt_or_eq_of_le short with less | rfl
    · exact ⟨k, e, rfl, less, by omega⟩
    · exact ⟨1, 53 + e, by rw [Nat.one_mul, Nat.pow_add], by decide, by omega⟩
  have units : Representable (m * 2 ^ p * unitsPerOne) := by
    unfold unitsPerOne
    apply short_scaled less
    unfold topPlace
    omega
  have unit : (unitsPerOne : ℚ) ≠ 0 := by exact_mod_cast units_per_one_positive.ne'
  refine ⟨⟨false, _, units⟩, ?_⟩
  rw [Double.magnitude, same, Nat.cast_mul, mul_div_cancel_right₀ _ unit]

/-! The nearest double -/

theorem integer_nears (n : Int) : (Amount.ofInt n).Nearest (decide (n < 0)) n.natAbs := by
  have near := of_ratio_nearest (decide (n < 0)) n.natAbs Nat.one_pos
  rwa [Nat.cast_one, div_one] at near

theorem int64_size (n : Int64) : n.toInt.natAbs ≤ 2 ^ 63 := by
  have least := n.minValue_le_toInt
  have most := n.toInt_lt
  have bound : Int64.minValue.toInt = -2 ^ 63 := by decide
  omega

theorem int64_rounded (n : Int64) :
    ∃ x : Double, Amount.ofInt n.toInt = .finite x ∧ x.Nears n.toInt := by
  have near := integer_nears n.toInt
  cases made : Amount.ofInt n.toInt with
  | finite x =>
    rw [made] at near
    exact ⟨x, rfl, near⟩
  | infinite sign =>
    rw [made] at near
    have small : (n.toInt.natAbs : ℚ) < overflowSize := by
      have inside : 2 ^ 63 < (2 ^ 54 - 1) * 2 ^ 970 := by decide +kernel
      rw [overflow_size_eq]
      exact_mod_cast (int64_size n).trans_lt inside
    exact absurd near.2 (not_le.mpr small)

section
variable {m n : Int} {x y : Double} (near : x.Nears m) (near' : y.Nears n)
include near

theorem no_double_nearer (z : Double) :
    |x.magnitude - m.natAbs| ≤ |z.magnitude - m.natAbs| :=
  (near.2.2 z).1

theorem nears_itself (short : m.natAbs ≤ 2 ^ 53) : x.magnitude = m.natAbs := by
  obtain ⟨z, whole⟩ := whole_double (e := 0) short (by decide)
  have least := no_double_nearer near z
  rw [whole, Nat.pow_zero, Nat.mul_one, sub_self, abs_zero] at least
  exact sub_eq_zero.mp (abs_nonpos_iff.mp least)

theorem nears_within (small : m.natAbs ≤ 2 ^ 63) : |x.magnitude - m.natAbs| ≤ 512 := by
  -- The multiples of 1024 up to 2^63 are doubles.
  obtain ⟨z, whole⟩ := whole_double (k := (m.natAbs + 512) / 1024) (e := 10) (by omega) (by decide)
  apply (no_double_nearer near z).trans
  rw [whole, abs_le]
  have low : m.natAbs ≤ (m.natAbs + 512) / 1024 * 2 ^ 10 + 512 := by omega
  have high : (m.natAbs + 512) / 1024 * 2 ^ 10 ≤ m.natAbs + 512 := by omega
  have low' : (m.natAbs : ℚ) ≤ ((m.natAbs + 512) / 1024 * 2 ^ 10 : Nat) + 512 := by
    exact_mod_cast low
  have high' : (((m.natAbs + 512) / 1024 * 2 ^ 10 : Nat) : ℚ) ≤ m.natAbs + 512 := by
    exact_mod_cast high
  constructor
  · linarith
  · linarith

theorem nears_zero (zero : x.units = 0) : m = 0 := by
  by_contra nonzero
  obtain ⟨one, whole⟩ := whole_double (k := 1) (e := 0) (by decide) (by decide)
  have least := no_double_nearer near one
  have size : (1 : ℚ) ≤ m.natAbs := by exact_mod_cast Int.natAbs_pos.mpr nonzero
  have none : x.magnitude = 0 := by rw [Double.magnitude, zero, Nat.cast_zero, zero_div]
  rw [none, whole, Nat.pow_zero, Nat.mul_one, Nat.cast_one, abs_of_nonpos (by linarith),
    abs_of_nonpos (by linarith)] at least
  linarith

include near'

theorem nears_in_order (order : m ≤ n) : x.scaled ≤ y.scaled := by
  unfold Double.scaled
  rw [near.1, near'.1]
  by_cases below : n < 0
  · have sign : m < 0 := by omega
    rw [Double.Nears, decide_eq_true sign] at near
    rw [Double.Nears, decide_eq_true below] at near'
    have sizes : (n.natAbs : ℚ) ≤ m.natAbs := by exact_mod_cast (by omega : n.natAbs ≤ m.natAbs)
    have units := nearest_monotone near' near sizes
    simp only [sign, below, decide_true, if_true]
    omega
  · by_cases sign : m < 0
    · simp only [sign, below, decide_true, decide_false, if_true, Bool.false_eq_true, if_false]
      omega
    · rw [Double.Nears, decide_eq_false sign] at near
      rw [Double.Nears, decide_eq_false below] at near'
      have sizes : (m.natAbs : ℚ) ≤ n.natAbs := by exact_mod_cast (by omega : m.natAbs ≤ n.natAbs)
      have units := nearest_monotone near near' sizes
      simp only [sign, below, decide_false, Bool.false_eq_true, if_false]
      omega

theorem nears_same (level : x.scaled = y.scaled) : x = y := by
  have sign := near.1
  have sign' := near'.1
  have zero := nears_zero near
  have zero' := nears_zero near'
  have agree : m < 0 ↔ n < 0 := by
    simp only [Double.scaled, sign, sign', decide_eq_true_eq] at level
    split at level <;> split at level <;> omega
  have signs : x.negative = y.negative := by rw [sign, sign', decide_eq_decide, agree]
  have units : x.units = y.units := by
    simp only [Double.scaled, signs] at level
    split at level <;> omega
  cases x
  cases y
  simp_all

end

theorem rounded_le_iff (m n : Int64) :
    (Amount.ofInt m.toInt).le (Amount.ofInt n.toInt) = true ↔ m ≤ n ∨ SharesDouble m n := by
  obtain ⟨x, made, near⟩ := int64_rounded m
  obtain ⟨y, made', near'⟩ := int64_rounded n
  rw [made, made', Amount.le, decide_eq_true_eq, Int64.le_iff_toInt_le]
  constructor
  · intro level
    by_cases order : m.toInt ≤ n.toInt
    · exact Or.inl order
    · have back := nears_in_order near' near (by omega)
      obtain rfl := nears_same near near' (le_antisymm level back)
      exact Or.inr ⟨x, near, near'⟩
  · rintro (order | ⟨z, shared, shared'⟩)
    · exact nears_in_order near near' order
    · obtain rfl := Amount.finite.inj (nearest_unique near shared)
      obtain rfl := Amount.finite.inj (nearest_unique near' shared')
      exact le_refl _

/-! Integers that share a double -/

theorem shared_small {m n : Int} {x : Double} (near : x.Nears m) (near' : x.Nears n)
    (small : m.natAbs < 2 ^ 53) : m = n := by
  have sign := near.1.symm.trans near'.1
  have value := nears_itself near small.le
  have sizes : m.natAbs = n.natAbs := by
    by_cases short : n.natAbs ≤ 2 ^ 53
    · exact_mod_cast value.symm.trans (nears_itself near' short)
    · -- The greatest integer of 53 bits is nearer to a greater number than any smaller one.
      exfalso
      obtain ⟨top, whole⟩ := whole_double (k := 1) (e := 53) (by decide) (by decide)
      have least := no_double_nearer near' top
      have below : (m.natAbs : ℚ) < (1 * 2 ^ 53 : Nat) := by exact_mod_cast small
      have above : ((1 * 2 ^ 53 : Nat) : ℚ) ≤ n.natAbs := by exact_mod_cast (by omega)
      rw [value, whole, abs_of_nonpos (by linarith), abs_of_nonpos (by linarith)] at least
      linarith
  rw [decide_eq_decide] at sign
  omega

theorem shared_close {m n : Int64} (shared : SharesDouble m n) :
    m = n ∨ 2 ^ 53 ≤ m.toInt.natAbs ∧ 2 ^ 53 ≤ n.toInt.natAbs ∧ (m.toInt - n.toInt).natAbs ≤ 1024 := by
  obtain ⟨x, near, near'⟩ := shared
  by_cases small : m.toInt.natAbs < 2 ^ 53
  · exact Or.inl (Int64.toInt_inj.mp (shared_small near near' small))
  · by_cases small' : n.toInt.natAbs < 2 ^ 53
    · exact Or.inl (Int64.toInt_inj.mp (shared_small near' near small').symm)
    · refine Or.inr ⟨by omega, by omega, ?_⟩
      have sign := near.1.symm.trans near'.1
      have off := abs_le.mp (nears_within near (int64_size m))
      have off' := abs_le.mp (nears_within near' (int64_size n))
      have above : (m.toInt.natAbs : ℚ) ≤ n.toInt.natAbs + 1024 := by linarith
      have below : (n.toInt.natAbs : ℚ) ≤ m.toInt.natAbs + 1024 := by linarith
      have above' : m.toInt.natAbs ≤ n.toInt.natAbs + 1024 := by exact_mod_cast above
      have below' : n.toInt.natAbs ≤ m.toInt.natAbs + 1024 := by exact_mod_cast below
      rw [decide_eq_decide] at sign
      omega

theorem shares_refl (n : Int64) : SharesDouble n n := by
  obtain ⟨x, -, near⟩ := int64_rounded n
  exact ⟨x, near, near⟩

theorem shares_comm {m n : Int64} : SharesDouble m n ↔ SharesDouble n m := by
  constructor
  · rintro ⟨x, near, near'⟩
    exact ⟨x, near', near⟩
  · rintro ⟨x, near, near'⟩
    exact ⟨x, near', near⟩

theorem between_iff {m n : Int64} :
    (n ≤ m ∨ SharesDouble m n) ∧ (m ≤ n ∨ SharesDouble m n) ↔ SharesDouble m n := by
  constructor
  · rintro ⟨least, most⟩
    rcases least with least | shared
    · rcases most with most | shared
      · obtain rfl := Int64.le_antisymm least most
        exact shares_refl n
      · exact shared
    · exact shared
  · intro shared
    exact ⟨Or.inr shared, Or.inr shared⟩

/-! Fields that hold an integer -/

/-- What predicates with the integer `n` say of a field that holds the integer `held`: equality asks
    for `n` itself, and a range takes all that shares a double with `n` for `n`. -/
structure Ranged (r : Record) (field : String) (held n : Int64) : Prop where
  equals : (Predicate.equals field (.ofInt64 n)).holds r = true ↔ held = n
  atLeast : (Predicate.atLeast field (.ofInt64 n)).holds r = true ↔
    n ≤ held ∨ SharesDouble held n
  atMost : (Predicate.atMost field (.ofInt64 n)).holds r = true ↔
    held ≤ n ∨ SharesDouble held n
  between : (Predicate.atLeast field (.ofInt64 n)).holds r = true ∧
    (Predicate.atMost field (.ofInt64 n)).holds r = true ↔ SharesDouble held n

theorem integers_compared (m n : Int64) : Predicate.le? (.ofInt64 m) (.ofInt64 n) =
    some ((Amount.ofInt m.toInt).le (Amount.ofInt n.toInt)) :=
  rfl

theorem integers_same (m n : Int64) : (Json.ofInt64 m).same (.ofInt64 n) = true ↔ m = n := by
  rw [Json.ofInt64, Json.int, Json.ofInt64, Json.int, Json.same, Json.Number.same, beq_iff_eq,
    Int64.toInt_inj]

theorem field_ranged {r : Record} {field : String} {held : Int64}
    (shown : r.field? field = some (.ofInt64 held)) (n : Int64) : Ranged r field held n := by
  have least : (Predicate.atLeast field (.ofInt64 n)).holds r = true ↔
      n ≤ held ∨ SharesDouble held n := by
    rw [Predicate.holds, shown, Option.bind_some, Json.Value.ofInt64, integers_compared,
      Option.getD_some, rounded_le_iff, shares_comm]
  have most : (Predicate.atMost field (.ofInt64 n)).holds r = true ↔
      held ≤ n ∨ SharesDouble held n := by
    rw [Predicate.holds, shown, Option.bind_some, Json.Value.ofInt64, integers_compared,
      Option.getD_some, rounded_le_iff]
  refine ⟨?_, least, most, ?_⟩
  · rw [Predicate.holds, shown, Option.any_some, Json.Value.ofInt64, integers_same]
  · rw [least, most, between_iff]

theorem id_ranged {r : Record} (shown : r.field? "id" = some (.ofInt64 r.id)) (n : Int64) :
    Ranged r "id" r.id n ∧ ((Predicate.idIs n).holds r = true ↔ r.id = n) := by
  refine ⟨field_ranged shown n, ?_⟩
  rw [Predicate.holds, beq_iff_eq]

/-- An integer field of a user or of a product is in a range with an integer as bound if it is so by
    the order of integers, or if it has the same nearest double as the bound. Two integers have that
    in common only if they are one, or if both are beyond 53 bits and at most 1024 apart. -/
theorem integer_ranges (n : Int64) :
    (∀ u : User, Ranged u.record "id" u.id n ∧
      ((Predicate.idIs n).holds u.record = true ↔ u.id = n)) ∧
    (∀ p : Product, Ranged p.record "id" p.id n ∧ Ranged p.record "stock" p.stock n ∧
      ((Predicate.idIs n).holds p.record = true ↔ p.id = n)) ∧
    ∀ m, SharesDouble m n → m = n ∨
      2 ^ 53 ≤ m.toInt.natAbs ∧ 2 ^ 53 ≤ n.toInt.natAbs ∧ (m.toInt - n.toInt).natAbs ≤ 1024 := by
  refine ⟨fun u => ?_, fun p => ?_, fun m => shared_close⟩
  · exact id_ranged (r := u.record) rfl n
  · have ⟨range, same⟩ := id_ranged (r := p.record) rfl n
    exact ⟨range, field_ranged rfl n, same⟩

theorem short_stock_in_order :
    let p : Product := ⟨1, "Grain", "In bulk", .ofInt 1, "food", 9007199254740991, default⟩
    let bound : Int64 := 9007199254740992
    (Predicate.atLeast "stock" (.ofInt64 bound)).holds p.record = false ∧
      (Predicate.atMost "stock" (.ofInt64 bound)).holds p.record = true := by
  intro p bound
  obtain ⟨-, products, shared⟩ := integer_ranges bound
  obtain ⟨-, ranged, -⟩ := products p
  have less : p.stock < bound := by decide
  have apart : ¬ SharesDouble p.stock bound := by
    intro same
    have large := shared p.stock same
    revert large
    decide
  constructor
  · rw [← Bool.not_eq_true, ranged.atLeast, not_or, Int64.not_le]
    exact ⟨less, apart⟩
  · exact ranged.atMost.mpr (Or.inl (Int64.le_of_lt less))

/-- A stock of 2^53 is less than 2^53 + 1, but a range from there on lets it through. -/
theorem lesser_stock_let_through :
    let p : Product := ⟨1, "Grain", "In bulk", .ofInt 1, "food", 9007199254740992, default⟩
    let bound : Int64 := 9007199254740993
    p.stock < bound ∧
      (Predicate.atLeast "stock" (.ofInt64 bound)).holds p.record = true ∧
      (Predicate.atMost "stock" (.ofInt64 bound)).holds p.record = true ∧
      (Predicate.equals "stock" (.ofInt64 bound)).holds p.record = false := by
  decide +kernel

end InjectionLab
