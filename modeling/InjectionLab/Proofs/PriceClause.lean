import InjectionLab.Proofs.ProductConditions

/-!
Price clauses that are heeded. The pattern of a price takes the digits of every script, but only
those of ASCII have a value. So a clause that the pattern matches becomes part of the predicate,
and bounds the rows, if its numeral has a value; if not, it is passed over and bounds nothing.
-/
namespace InjectionLab
open Text

inductive PriceEnd where
  | least
  | most
deriving DecidableEq, Repr

namespace PriceEnd

def order : PriceEnd → Char
  | least => '>'
  | most => '<'

def clause : PriceEnd → Amount → Clause
  | least => .minPrice
  | most => .maxPrice

def limit : PriceEnd → Amount → Predicate
  | least, bound => .atLeast "price" (.ofAmount bound)
  | most, bound => .atMost "price" (.ofAmount bound)

def within : PriceEnd → Amount → Product → Bool
  | least, bound, p => bound.finiteLe p.price
  | most, bound, p => p.price.finiteLe bound

/-- The bound is part of the predicate that is read off the text, and a SELECT of products returns
    none that goes beyond it. -/
structure HeededIn (e : PriceEnd) (sql : String) (bound : Amount) : Prop where
  required : ∃ p, productPredicate sql = some p ∧ e.limit bound ∈ p.parts
  restricting : classify sql = ⟨.select, some .products⟩ → detectTautology sql = none →
    ∀ (now : Timestamp) (s : Store), ∀ row ∈ (execute now sql s).outcome.rowList,
      ∃ p ∈ s.products.rows, row = .product p ∧ e.within bound p = true

def PassedOverIn (e : PriceEnd) (sql : String) : Prop :=
  ∀ p, productPredicate sql = some p → ∀ bound, e.limit bound ∉ p.parts

def read? (e : PriceEnd) (sql : String) : Option Clause :=
  ((Clause.captured? (Clause.pricePattern e.order) sql).bind Numeral.amount?).map e.clause

theorem clause_predicate (e : PriceEnd) (bound : Amount) :
    (e.clause bound).predicate = e.limit bound := by
  cases e <;> rfl

theorem clause_admits (e : PriceEnd) (bound : Amount) (p : Product) :
    Clause.admits p.record (e.clause bound) = e.within bound p := by
  cases e with
  | least => exact amounts_compared bound p.price
  | most => exact amounts_compared p.price bound

end PriceEnd

/-! The numeral of a clause -/

theorem price_read {order : Char} {text : List Char} {tokens : List (List Char)}
    (read : (Clause.pricePattern order).read? text = some tokens) :
    ∃ token, tokens = [token] ∧ NumeralText false true token := by
  have split : Clause.pricePattern order =
      (Pattern.word "price" ++ [.gap, .mark order, .mark '=', .gap]) ++ [.numeral false true] := rfl
  rw [split] at read
  obtain ⟨_, rest, -, -, read⟩ := Pattern.read_through (by simp [Pattern.word, Piece.captured]) read
  obtain ⟨_, _, -, reads, rfl⟩ := Pattern.read_iff.mp read
  cases reads with
  | cons fits _ later =>
    cases later
    exact ⟨_, rfl, fits⟩

theorem price_matched {order : Char} {sql : String}
    (matched : (Clause.pricePattern order).occursIn sql.toList = true) :
    ∃ token, Clause.captured? (Clause.pricePattern order) sql = some token ∧
      NumeralText false true token := by
  obtain ⟨tokens, found⟩ := Option.isSome_iff_exists.mp matched
  obtain ⟨_, _, _, read, _⟩ := Pattern.find_some_iff.mp found
  obtain ⟨token, rfl, fits⟩ := price_read read
  exact ⟨token, by rw [Clause.captured?, found], fits⟩

theorem foreign_or_sized {token : List Char} (fits : NumeralText false true token) :
    (Numeral.Foreign token ∧ Numeral.amount? token = none) ∨
      ¬ Numeral.Foreign token ∧ ∃ size, Numeral.Size token size := by
  obtain ⟨sign, digits, tail, split, valid, signs, tails⟩ := fits
  have signless : sign = [] := by simpa using signs
  have fits : NumeralText true true token :=
    ⟨sign, digits, tail, split, valid, Or.inl signless, tails⟩
  rcases Numeral.amount_text fits with foreign | ⟨plain, negative, size, denoted⟩
  · exact Or.inl foreign
  · refine Or.inr ⟨plain, ?_⟩
    cases denoted with
    | positive unsigned => exact ⟨size, unsigned⟩
    | negative unsigned =>
      rw [signless, List.nil_append] at split
      obtain ⟨d, rest, first, digit⟩ := digits_start valid tail
      obtain ⟨rfl, -⟩ := List.cons.inj (split.trans first)
      exact absurd digit (by decide)

/-! The clause among those of the products -/

section Products
variable {sql : String} (unasked : Clause.idPattern.occursIn sql.toList = false)
include unasked

theorem products_clauses : Clause.ofProducts sql = (Clause.category? sql).toList ++
    (PriceEnd.least.read? sql).toList ++ (PriceEnd.most.read? sql).toList := by
  have nowhere : Clause.idPattern.find? sql.toList = none := by
    rw [← Option.not_isSome_iff_eq_none]
    exact Bool.eq_false_iff.mp unasked
  have absent : Clause.id? sql = none := by
    rw [Clause.id?, Clause.captured?, nowhere, Option.map_none]
  rw [Clause.ofProducts, absent]
  rfl

theorem read_clause_heeded {e : PriceEnd} {bound : Amount}
    (read : e.read? sql = some (e.clause bound)) : e.HeededIn sql bound := by
  have listed : e.clause bound ∈ Clause.ofProducts sql := by
    rw [products_clauses unasked]
    cases e <;> simp [read]
  constructor
  · obtain ⟨p, made⟩ : ∃ p, productPredicate sql = some p := by
      rw [productPredicate]
      cases clauses : Clause.ofProducts sql with
      | nil => simp [clauses] at listed
      | cons first others => exact ⟨_, rfl⟩
    refine ⟨p, made, ?_⟩
    rw [Clause.conjunction_parts made, ← e.clause_predicate]
    exact List.mem_map_of_mem listed
  · intro select harmless now s row returned
    simp only [execute, select, selectProducts, harmless, selected_by_clauses, Outcome.rowList,
      List.mem_map, List.mem_filter] at returned
    obtain ⟨p, ⟨stored, admitted⟩, rfl⟩ := returned
    refine ⟨p, stored, rfl, ?_⟩
    rw [← e.clause_admits]
    exact List.all_eq_true.mp admitted _ listed

theorem unread_clause_passed_over {e : PriceEnd} (unread : e.read? sql = none) :
    e.PassedOverIn sql := by
  intro p made bound required
  rw [Clause.conjunction_parts made, products_clauses unasked] at required
  obtain ⟨clause, listed, same⟩ := List.mem_map.mp required
  rw [List.mem_append, List.mem_append] at listed
  rcases listed with (category | least) | most
  · obtain ⟨label, -, rfl⟩ := Option.map_eq_some_iff.mp (Option.mem_toList.mp category)
    cases e <;> cases same
  · have read := Option.mem_toList.mp least
    obtain ⟨amount, -, rfl⟩ := Option.map_eq_some_iff.mp read
    cases e with
    | least => cases unread.symm.trans read
    | most => cases same
  · have read := Option.mem_toList.mp most
    obtain ⟨amount, -, rfl⟩ := Option.map_eq_some_iff.mp read
    cases e with
    | least => cases same
    | most => cases unread.symm.trans read

/-- A price clause that the text holds is heeded if its numeral is written in the digits of ASCII,
    and is passed over if it is not. -/
theorem price_clause_kept (e : PriceEnd)
    (matched : (Clause.pricePattern e.order).occursIn sql.toList = true) :
    ∃ token, Clause.captured? (Clause.pricePattern e.order) sql = some token ∧
      (¬ Numeral.Foreign token → ∃ size bound, Numeral.Size token size ∧
        bound.Nearest false size ∧ e.HeededIn sql bound) ∧
      (Numeral.Foreign token → e.PassedOverIn sql) := by
  obtain ⟨token, captured, fits⟩ := price_matched matched
  refine ⟨token, captured, fun plain => ?_, fun foreign => ?_⟩
  · obtain ⟨foreign, -⟩ | ⟨-, size, unsigned⟩ := foreign_or_sized fits
    · exact absurd foreign plain
    · obtain ⟨bound, amount, nearest⟩ := Numeral.amount_denoted (.positive unsigned)
      have read : e.read? sql = some (e.clause bound) := by
        rw [PriceEnd.read?, captured, Option.bind_some, amount, Option.map_some]
      exact ⟨size, bound, unsigned, nearest, read_clause_heeded unasked read⟩
  · obtain ⟨-, unread⟩ | ⟨plain, -⟩ := foreign_or_sized fits
    · refine unread_clause_passed_over unasked ?_
      rw [PriceEnd.read?, captured, Option.bind_some, unread, Option.map_none]
    · exact absurd foreign plain

end Products

theorem lower_bound_kept_alone :
    let sql := "SELECT * FROM products WHERE list_PRICE\t>= 030 AND price <= \u0669\u0660"
    (∃ bound, PriceEnd.least.HeededIn sql bound ∧ bound.Nearest false 30) ∧
      PriceEnd.most.PassedOverIn sql ∧
      (execute default sql (Store.seeded default)).outcome.rowList.map Row.id = [1, 2, 4] := by
  intro sql
  have unasked : Clause.idPattern.occursIn sql.toList = false := by decide +kernel
  have lower : Clause.captured? (Clause.pricePattern '>') sql = some ['0', '3', '0'] := by
    decide +kernel
  have upper : Clause.captured? (Clause.pricePattern '<') sql = some ['\u0669', '\u0660'] := by
    decide +kernel
  refine ⟨?_, ?_, by decide +kernel⟩
  · obtain ⟨token, captured, heeded, -⟩ := price_clause_kept unasked .least (by decide +kernel)
    obtain rfl := Option.some.inj (captured.symm.trans lower)
    have plain : Numeral.Plain ['0', '3', '0'] := by simp [Numeral.Plain]
    obtain ⟨size, bound, unsigned, nearest, kept⟩ := heeded (Numeral.plain_not_foreign plain)
    have read := (Numeral.amount_read_iff (.positive unsigned)).mpr nearest
    have thirty : Numeral.Size ['0', '3', '0'] (30 : Nat) := Numeral.whole_size plain (by decide)
    exact ⟨bound, kept, (Numeral.amount_read_iff (.positive thirty)).mp read⟩
  · obtain ⟨token, captured, -, passed⟩ := price_clause_kept unasked .most (by decide +kernel)
    obtain rfl := Option.some.inj (captured.symm.trans upper)
    exact passed ⟨'\u0669', by simp, by decide +kernel, by decide⟩

/-- A lower bound in Arabic digits, though the pattern of a price matches it, lets every product
    through. -/
theorem foreign_bound_passed_over :
    let sql := "SELECT * FROM products WHERE price >= \u0663\u0660\u0660\u0660"
    Clause.idPattern.occursIn sql.toList = false ∧
      (Clause.pricePattern '>').occursIn sql.toList = true ∧
      classify sql = ⟨.select, some .products⟩ ∧ detectTautology sql = none ∧
      productPredicate sql = none ∧
      (execute default sql (Store.seeded default)).outcome.rowList.map Row.id = [1, 2, 3, 4] := by
  decide +kernel

end InjectionLab
