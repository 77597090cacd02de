import InjectionLab.Execution

/-!
Rows that clauses let through. The predicate that a SELECT folds its clauses into has just these
clauses as parts and holds of a row if every clause does, and so does the selection without a
trigger, even if there are no clauses.
-/
namespace InjectionLab

namespace Predicate

theorem all_hold_eq (r : Record) (ps : List Predicate) : allHold r ps = ps.all (holds r) := by
  induction ps with
  | nil => rfl
  | cons p ps ih => rw [allHold, ih, List.all_cons]

theorem and_holds (r : Record) (p q : Predicate) : (p.and q).holds r = (p.holds r && q.holds r) := by
  -- `always` disappears on either side, and a conjunction on the left grows instead of nesting.
  cases p with
  | always => simp [and, holds]
  | allOf ps => cases q <;> simp [and, holds, all_hold_eq]
  | _ => cases q <;> simp [and, holds, allHold]

def parts : Predicate → List Predicate
  | allOf ps => ps
  | p => [p]

theorem and_parts {p q : Predicate} (proper : p ≠ always) (proper' : q ≠ always) :
    (p.and q).parts = p.parts ++ [q] ∧ p.and q ≠ always := by
  cases p <;> cases q <;> simp_all [and, parts]

end Predicate

namespace Clause

theorem predicate_proper (clause : Clause) :
    clause.predicate ≠ .always ∧ clause.predicate.parts = [clause.predicate] := by
  cases clause with
  | id n => cases n <;> simp [predicate, Predicate.parts]
  | _ => simp [predicate, Predicate.parts]

theorem folded_parts (clauses : List Clause) {p : Predicate} (proper : p ≠ .always) :
    (clauses.foldl (fun p clause => p.and clause.predicate) p).parts =
      p.parts ++ clauses.map predicate := by
  induction clauses generalizing p with
  | nil => simp
  | cons clause clauses ih =>
    obtain ⟨parts, still⟩ := Predicate.and_parts proper (predicate_proper clause).1
    rw [List.foldl_cons, ih still, parts, List.map_cons, List.append_assoc, List.singleton_append]

theorem conjunction_parts {clauses : List Clause} {p : Predicate}
    (made : conjunction? clauses = some p) : p.parts = clauses.map predicate := by
  cases clauses with
  | nil => cases made
  | cons clause clauses =>
    obtain ⟨proper, parts⟩ := predicate_proper clause
    have made : some (clauses.foldl (fun p clause => p.and clause.predicate) clause.predicate) =
        some p := made
    rw [← Option.some.inj made, folded_parts clauses proper, parts, List.map_cons,
      List.singleton_append]

def admits (r : Record) (clause : Clause) : Bool := clause.predicate.holds r

theorem folded_holds (r : Record) (clauses : List Clause) (p : Predicate) :
    (clauses.foldl (fun p clause => p.and clause.predicate) p).holds r =
      (p.holds r && clauses.all (admits r)) := by
  induction clauses generalizing p with
  | nil => simp
  | cons clause clauses ih =>
    rw [List.foldl_cons, ih, Predicate.and_holds, List.all_cons, Bool.and_assoc, admits]

end Clause

theorem selected_by_clauses {α : Type} (record : α → Record) (clauses : List Clause)
    (rows : List α) : selected record none clauses rows =
      rows.filter fun row => clauses.all (Clause.admits (record row)) := by
  cases clauses with
  | nil => exact (List.filter_eq_self.mpr fun _ _ => rfl).symm
  | cons clause clauses =>
    simp only [selected, Clause.conjunction?, Predicate.filter, Clause.folded_holds,
      Predicate.holds, Bool.true_and]

end InjectionLab
