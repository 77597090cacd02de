import InjectionLab.Proofs.ProductConditions
import InjectionLab.Proofs.RowRoundTrip

/-!
Price bounds in order. A bound is rounded to a double, and rounding keeps the order of numbers, so a
wider range of prices lets through all that a narrower one does. The exception is an upper bound
that no double is near to: it is not above every price but compares with none, and nothing is left.
-/
namespace InjectionLab
open Text

def productsUpTo (bound : String) : String := "SELECT * FROM products WHERE price <= " ++ bound

def productsFrom (bound : String) : String := "SELECT * FROM products WHERE price >= " ++ bound

/-! Amounts in order -/

namespace Amount

theorem finite_le_iff {x y : Amount} :
    x.finiteLe y = true ↔ ∃ d e, x = .finite d ∧ y = .finite e ∧ d.scaled ≤ e.scaled := by
  cases x <;> cases y <;> simp [finiteLe]

theorem finite_le_trans {x y z : Amount} (first : x.finiteLe y = true)
    (second : y.finiteLe z = true) : x.finiteLe z = true := by
  obtain ⟨d, e, rfl, rfl, low⟩ := finite_le_iff.mp first
  obtain ⟨e', f, same, rfl, high⟩ := finite_le_iff.mp second
  obtain rfl := Amount.finite.inj same
  exact finite_le_iff.mpr ⟨d, f, rfl, rfl, low.trans high⟩

theorem nearest_in_order {low high : ℚ} {x y : Amount} (near : x.Nearest false low)
    (near' : y.Nearest false high) (order : low ≤ high) (inside : high < overflowSize) :
    x.finiteLe y = true := by
  cases x with
  | infinite sign => exact absurd near.2 (not_le.mpr (order.trans_lt inside))
  | finite d =>
    cases y with
    | infinite sign => exact absurd near'.2 (not_le.mpr inside)
    | finite e =>
      have units := nearest_monotone near near' order
      refine finite_le_iff.mpr ⟨d, e, rfl, rfl, ?_⟩
      simp only [Double.scaled, near.1, near'.1, Bool.false_eq_true, ↓reduceIte]
      exact_mod_cast units

theorem too_large_compares {size : ℚ} {x : Amount} (near : x.Nearest false size)
    (large : overflowSize ≤ size) (y : Amount) : x.finiteLe y = false ∧ y.finiteLe x = false := by
  cases x with
  | finite d => exact absurd near.2.1 (not_lt.mpr large)
  | infinite sign => cases y <;> exact ⟨rfl, rfl⟩

end Amount

/-! Sizes -/

theorem below_overflow_of_small {size : ℚ} (small : size < 2 ^ 54 - 1) : size < overflowSize := by
  have power : (1 : ℚ) ≤ 2 ^ 970 := one_le_pow₀ (by norm_num)
  have split : (2 : ℚ) ^ 1024 = 2 ^ 54 * 2 ^ 970 := pow_add 2 54 970
  rw [overflowSize, split]
  generalize (2 : ℚ) ^ 970 = step at power
  linarith

/-! The rows under one bound -/

theorem up_to_text (bound : String) (amount : Amount) :
    productsUpTo bound = selectProductsText [.atMost bound amount] := by
  show "SELECT * FROM products WHERE price <= " ++ bound =
    "SELECT * FROM products WHERE " ++ ("price <= " ++ bound)
  rw [← String.append_assoc]
  rfl

theorem from_text (bound : String) (amount : Amount) :
    productsFrom bound = selectProductsText [.atLeast bound amount] := by
  show "SELECT * FROM products WHERE price >= " ++ bound =
    "SELECT * FROM products WHERE " ++ ("price >= " ++ bound)
  rw [← String.append_assoc]
  rfl

theorem bounded_rows {bound : String} {size : ℚ} (unsigned : Numeral.Size bound.toList size)
    (now : Timestamp) (s : Store) : ∃ amount : Amount, amount.Nearest false size ∧
      (execute now (productsUpTo bound) s).outcome.rowList =
        (s.products.rows.filter fun p => p.price.finiteLe amount).map .product ∧
      (execute now (productsFrom bound) s).outcome.rowList =
        (s.products.rows.filter fun p => amount.finiteLe p.price).map .product := by
  obtain ⟨amount, read, nearest⟩ := Numeral.amount_denoted (.positive unsigned)
  obtain ⟨least, most⟩ := read_bound_written unsigned read
  refine ⟨amount, nearest, ?_, ?_⟩
  · rw [up_to_text bound amount, select_rows (by simpa using most) (by simp)]
    simp [Outcome.rowList, Condition.met]
  · rw [from_text bound amount, select_rows (by simpa using least) (by simp)]
    simp [Outcome.rowList, Condition.met]

/-- Of two numerals the greater one, as upper bound, lets through all products that the smaller
    one does, and the smaller one, as lower bound, all that the greater one does. An upper bound
    that is too large for a double lets nothing through. -/
theorem price_bounds_monotone {a b : String} {low high : ℚ} (lower : Numeral.Size a.toList low)
    (upper : Numeral.Size b.toList high) (order : low ≤ high) (now : Timestamp) (s : Store) :
    ((execute now (productsFrom b) s).outcome.rowList.Sublist
      (execute now (productsFrom a) s).outcome.rowList) ∧
    (high < overflowSize → (execute now (productsUpTo a) s).outcome.rowList.Sublist
      (execute now (productsUpTo b) s).outcome.rowList) ∧
    (overflowSize ≤ high → (execute now (productsUpTo b) s).outcome.rowList = []) := by
  obtain ⟨x, near, upToLow, fromLow⟩ := bounded_rows lower now s
  obtain ⟨y, near', upToHigh, fromHigh⟩ := bounded_rows upper now s
  rw [upToLow, upToHigh, fromLow, fromHigh]
  rcases lt_or_ge high overflowSize with inside | large
  · have between := Amount.nearest_in_order near near' order inside
    refine ⟨?_, fun _ => ?_, fun large => absurd large (not_le.mpr inside)⟩
    · refine (List.monotone_filter_right _ fun p kept => ?_).map _
      exact Amount.finite_le_trans between kept
    · refine (List.monotone_filter_right _ fun p kept => ?_).map _
      exact Amount.finite_le_trans kept between
  · have compares := Amount.too_large_compares near' large
    refine ⟨?_, fun inside => absurd inside (not_lt.mpr large), fun _ => ?_⟩
    · simp only [(compares _).1, List.filter_false, List.map_nil, List.nil_sublist]
    · simp only [(compares _).2, List.filter_false, List.map_nil]

theorem close_bounds_in_order :
    let a := "49.989999999999999"
    let b := "0049.99"
    let s := Store.seeded default
    ∃ low high : ℚ, Numeral.Size a.toList low ∧ Numeral.Size b.toList high ∧ low < high ∧
      high < overflowSize ∧
      (execute default (productsUpTo a) s).outcome.rowList.Sublist
        (execute default (productsUpTo b) s).outcome.rowList ∧
      (execute default (productsFrom b) s).outcome.rowList.Sublist
        (execute default (productsFrom a) s).outcome.rowList ∧
      (execute default (productsUpTo a) s).outcome.rowList.map Row.id = [2, 3] := by
  intro a b s
  have plain : Numeral.Plain ['4', '9'] ∧ Numeral.Plain "989999999999999".toList ∧
      Numeral.Plain ['0', '0', '4', '9'] ∧ Numeral.Plain ['9', '9'] := by
    simp [Numeral.Plain]
  have value : Numeral.natural ['4', '9'] = 49 ∧
      Numeral.natural "989999999999999".toList = 989999999999999 ∧
      Numeral.natural ['0', '0', '4', '9'] = 49 ∧ Numeral.natural ['9', '9'] = 99 := by
    decide +kernel
  have lower := Numeral.Size.fraction plain.1 plain.2.1
  have upper := Numeral.Size.fraction plain.2.2.1 plain.2.2.2
  rw [value.1, value.2.1] at lower
  rw [value.2.2.1, value.2.2.2] at upper
  have spelt : ['4', '9'] ++ '.' :: "989999999999999".toList = a.toList ∧
      ['0', '0', '4', '9'] ++ '.' :: ['9', '9'] = b.toList ∧
      "989999999999999".toList.length = 15 := by
    decide +kernel
  rw [spelt.1, spelt.2.2] at lower
  rw [spelt.2.1] at upper
  have inside : ((49 : Nat) : ℚ) + (99 : Nat) / 10 ^ ['9', '9'].length < overflowSize :=
    below_overflow_of_small (by norm_num)
  obtain ⟨fewer, more, -⟩ := price_bounds_monotone lower upper (by norm_num) default s
  exact ⟨_, _, lower, upper, by norm_num, inside, more inside, fewer, by decide +kernel⟩

/-- Under an upper bound that is too large for a double no product is left, though all are under a
    smaller bound. -/
theorem huge_bound_excludes_all :
    let s := Store.seeded default
    ∃ low high : ℚ, Numeral.Size "2000".toList low ∧ Numeral.Size (powerOfTen 309).toList high ∧
      low ≤ high ∧
      (execute default (productsUpTo "2000") s).outcome.rowList.map Row.id = [1, 2, 3, 4] ∧
      (execute default (productsUpTo (powerOfTen 309)) s).outcome.rowList = [] := by
  intro s
  have lower : Numeral.Size "2000".toList (2000 : Nat) := Numeral.whole_size ⟨by simp, by simp⟩ (by decide)
  have upper := Numeral.size_of_positive (power_of_ten_denoted 309)
  obtain ⟨amount, near, upTo, -⟩ := bounded_rows upper default s
  have order : ((2000 : Nat) : ℚ) ≤ 10 ^ 309 :=
    (below_overflow_of_small (by norm_num)).le.trans overflow_below_power
  have nothing (p : Product) := (Amount.too_large_compares near overflow_below_power p.price).2
  refine ⟨_, _, lower, upper, order, by decide +kernel, ?_⟩
  simp only [upTo, nothing, List.filter_false, List.map_nil]

end InjectionLab
