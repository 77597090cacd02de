import InjectionLab.Proofs.Selection

/-!
Conjunctions, however they are put together. The predicate that `and` makes depends on the order
and the grouping of its parts, because `always` disappears on either side and only a conjunction
on the left is extended. Whether it holds of a row does not: it holds if every part does. So
filtering by it is filtering by the parts one after the other.
-/
namespace InjectionLab.Predicate

def joined (first : Predicate) (others : List Predicate) : Predicate := others.foldl and first

/-- A way to put predicates together, two at a time. -/
inductive Grouping where
  | single (p : Predicate)
  | pair (left right : Grouping)
deriving Repr

namespace Grouping

def members : Grouping → List Predicate
  | single p => [p]
  | pair left right => left.members ++ right.members

def conjunction : Grouping → Predicate
  | single p => p
  | pair left right => left.conjunction.and right.conjunction

def fromLeft (first : Predicate) (others : List Predicate) : Grouping :=
  others.foldl (fun g p => g.pair (.single p)) (.single first)

end Grouping

example : joined (.idIs 1) [.idIs 2, .idIs 3] = .allOf [.idIs 1, .idIs 2, .idIs 3] ∧
    (idIs 1).and ((idIs 2).and (.idIs 3)) = .allOf [.idIs 1, .allOf [.idIs 2, .idIs 3]] :=
  ⟨rfl, rfl⟩

/-! What holds of a row -/

theorem grouping_holds (g : Grouping) (r : Record) :
    g.conjunction.holds r = g.members.all (holds r) := by
  induction g with
  | single p => simp [Grouping.conjunction, Grouping.members]
  | pair left right ihl ihr =>
    rw [Grouping.conjunction, and_holds, ihl, ihr, Grouping.members, List.all_append]

theorem grouped_from (g : Grouping) (others : List Predicate) :
    (others.foldl (fun g p => g.pair (.single p)) g).conjunction =
        others.foldl and g.conjunction ∧
      (others.foldl (fun g p => g.pair (.single p)) g).members = g.members ++ others := by
  -- The induction leaves open what was put together before.
  induction others generalizing g with
  | nil => exact ⟨rfl, (List.append_nil _).symm⟩
  | cons p others ih =>
    obtain ⟨conjunction, members⟩ := ih (g.pair (.single p))
    refine ⟨conjunction, members.trans ?_⟩
    simp only [Grouping.members, List.append_assoc, List.singleton_append]

theorem from_left (first : Predicate) (others : List Predicate) :
    (Grouping.fromLeft first others).conjunction = joined first others ∧
      (Grouping.fromLeft first others).members = first :: others :=
  grouped_from (.single first) others

theorem joined_holds (first : Predicate) (others : List Predicate) (r : Record) :
    (joined first others).holds r = (first :: others).all (holds r) := by
  obtain ⟨conjunction, members⟩ := from_left first others
  rw [← conjunction, grouping_holds, members]

/-! What is left of rows -/

section Rows
variable {α : Type} (record : α → Record)

theorem filter_grouping (g : Grouping) (rows : List α) :
    g.conjunction.filter record rows = rows.filter fun row => g.members.all (holds (record row)) := by
  simp only [filter, grouping_holds]

theorem filter_successively (ps : List Predicate) (rows : List α) :
    ps.foldl (fun kept p => p.filter record kept) rows =
      rows.filter fun row => ps.all (holds (record row)) := by
  induction ps generalizing rows with
  | nil => exact (List.filter_eq_self.mpr fun _ _ => rfl).symm
  | cons p ps ih =>
    rw [List.foldl_cons, ih, filter, List.filter_filter]
    refine List.filter_congr fun row _ => ?_
    rw [List.all_cons, Bool.and_comm]

theorem filter_again (p : Predicate) (rows : List α) :
    p.filter record (p.filter record rows) = p.filter record rows := by
  simp only [filter, List.filter_filter, Bool.and_self]

end Rows

/-- Predicates put together from the left hold of a row just if each of them does. Filtering by
    them is filtering by one after the other, leaves the same rows for every order and every
    grouping, and changes nothing when it is done again. -/
theorem conjunction_of_members (first : Predicate) (others : List Predicate) :
    (∀ r : Record, (joined first others).holds r = true ↔
      ∀ p ∈ first :: others, p.holds r = true) ∧
    ∀ {α : Type} (record : α → Record) (rows : List α),
      (joined first others).filter record rows =
        (first :: others).foldl (fun kept p => p.filter record kept) rows ∧
      (∀ first' others', (first' :: others').Perm (first :: others) →
        (joined first' others').filter record rows = (joined first others).filter record rows) ∧
      (∀ g : Grouping, g.members.Perm (first :: others) →
        g.conjunction.filter record rows = (joined first others).filter record rows) ∧
      (joined first others).filter record ((joined first others).filter record rows) =
        (joined first others).filter record rows ∧
      ((joined first others).and (joined first others)).filter record rows =
        (joined first others).filter record rows := by
  refine ⟨fun r => by rw [joined_holds, List.all_eq_true], fun {α} record rows => ?_⟩
  have whole : (joined first others).filter record rows =
      rows.filter fun row => (first :: others).all (holds (record row)) := by
    simp only [filter, joined_holds]
  have regrouped (g : Grouping) (perm : g.members.Perm (first :: others)) :
      g.conjunction.filter record rows = (joined first others).filter record rows := by
    rw [filter_grouping, whole]
    exact List.filter_congr fun row _ => perm.all_eq
  refine ⟨?_, ?_, regrouped, filter_again record _ rows, ?_⟩
  · rw [whole, filter_successively]
  · intro first' others' perm
    obtain ⟨conjunction, members⟩ := from_left first' others'
    rw [← conjunction]
    exact regrouped _ (by rwa [members])
  · simp only [filter, and_holds, Bool.and_self]

theorem nested_conjunction_regrouped :
    let named := Predicate.equals "role" (.ofText "user")
    let part := Predicate.contains ["email"] "john"
    let g := Grouping.pair (.single (.allOf [part, .always])) (.pair (.single .always) (.single named))
    g.members.Perm [named, .allOf [part, .always], .always] ∧
      g.conjunction.filter User.record (Store.seeded default).users.rows =
        (joined named [.allOf [part, .always], .always]).filter User.record
          (Store.seeded default).users.rows ∧
      ((joined named [.allOf [part, .always], .always]).filter User.record
        (Store.seeded default).users.rows).map (·.id) = [2] := by
  intro named part g
  have perm : g.members.Perm [named, .allOf [part, .always], .always] :=
    (List.Perm.cons _ (.swap _ _ _)).trans (.swap _ _ _)
  obtain ⟨-, filtered⟩ := conjunction_of_members named [.allOf [part, .always], .always]
  obtain ⟨-, -, regrouped, -⟩ := filtered User.record (Store.seeded default).users.rows
  exact ⟨perm, regrouped g perm, by decide +kernel⟩

end InjectionLab.Predicate
