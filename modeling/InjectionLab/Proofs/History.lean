import InjectionLab.Proofs.Effect
import InjectionLab.Session
import Mathlib.Data.List.Nodup

/-!
Histories of a store: rows appended directly and statements run through any of the calls, in any
order. After every history of the empty or the seeded store, the identifiers of a relation are the
numbers from one to its row count, in the order of the rows.
-/
namespace InjectionLab

inductive Action where
  | append (now : Timestamp) (entry : Entry)
  | perform (now : Timestamp) (sql : String) (call : Call)
deriving DecidableEq, Repr

namespace Store

def act (s : Store) : Action → Store
  | .append now entry => s.add now entry
  | .perform now sql call => (s.perform now sql call).2

def after (s : Store) (actions : List Action) : Store := actions.foldl act s

def ids (s : Store) : Relation → List Int64
  | .users => s.users.rows.map User.id
  | .products => s.products.rows.map Product.id
  | .orders => s.orders.rows.map Order.id

/-- As many identifiers as there are rows, counted up from one, and the counter is at the next. A
    counter that has run over is covered: it is at the number as 64 bits hold it. -/
def CountsUp (s : Store) : Prop :=
  ∀ r, s.ids r = (List.range (s.ids r).length).map (fun i => Int64.ofNat (i + 1)) ∧
    s.nextId r = Int64.ofNat ((s.ids r).length + 1)

end Store

def oneTo (n : Nat) : List Int := (List.range n).map fun i : Nat => (i : Int) + 1

theorem mem_one_to {k : Int} {n : Nat} : k ∈ oneTo n ↔ 1 ≤ k ∧ k ≤ n := by
  simp only [oneTo, List.mem_map, List.mem_range]
  constructor
  · rintro ⟨i, bound, rfl⟩
    omega
  · rintro ⟨low, high⟩
    exact ⟨(k - 1).toNat, by omega, by omega⟩

theorem one_to_nodup (n : Nat) : (oneTo n).Nodup := by
  refine List.nodup_range.map ?_
  intro i j same
  have shifted : (i : Int) + 1 = (j : Int) + 1 := same
  omega

theorem one_to_max (n : Nat) : (oneTo n).max?.getD 0 = n := by
  cases n with
  | zero => rfl
  | succ n =>
    have greatest : (oneTo (n + 1)).max? = some ((n + 1 : Nat) : Int) :=
      List.max?_eq_some_iff.mpr
        ⟨mem_one_to.mpr ⟨by omega, by omega⟩, fun b member => (mem_one_to.mp member).2⟩
    rw [greatest]
    rfl

theorem act_adds_at_most_one (s : Store) (action : Action) :
    s.act action = s ∨ ∃ now entry, s.act action = s.add now entry := by
  cases action with
  | append now entry => exact Or.inr ⟨now, entry, rfl⟩
  | perform now sql call =>
    change (execute now sql s).store = s ∨
      ∃ now' entry, (execute now sql s).store = s.add now' entry
    by_cases insert : ∃ r, classify sql = ⟨.insert, some r⟩
    · obtain ⟨r, insert⟩ := insert
      rw [execute_insert now s insert]
      cases r.entry? sql with
      | none => exact Or.inl rfl
      | some entry => exact Or.inr ⟨now, entry, rfl⟩
    · exact Or.inl (execute_read now s fun r other => insert ⟨r, other⟩).1

theorem kept_by_history {P : Store → Prop}
    (step : ∀ now entry s, P s → P (s.add now entry)) {s : Store} (start : P s)
    (actions : List Action) : P (s.after actions) := by
  induction actions generalizing s with
  | nil => exact start
  | cons action rest ih =>
    apply ih
    rcases act_adds_at_most_one s action with same | ⟨now, entry, grown⟩
    · rw [same]
      exact start
    · rw [grown]
      exact step now entry s start

theorem ids_add (now : Timestamp) (entry : Entry) (s : Store) (r : Relation) :
    (s.add now entry).ids r =
      if entry.relation = r then s.ids r ++ [s.nextId r] else s.ids r := by
  cases entry <;> cases r <;>
    simp [Store.add, Store.appendUser, Store.appendProduct, Store.appendOrder, Table.append,
      Store.ids, Store.nextId, Entry.relation]

theorem next_id_add (now : Timestamp) (entry : Entry) (s : Store) (r : Relation) :
    (s.add now entry).nextId r = if entry.relation = r then s.nextId r + 1 else s.nextId r := by
  cases entry <;> cases r <;>
    simp [Store.add, Store.appendUser, Store.appendProduct, Store.appendOrder, Table.append,
      Store.nextId, Entry.relation]

theorem ids_prefix_after (s : Store) (actions : List Action) (r : Relation) :
    s.ids r <+: (s.after actions).ids r := by
  refine kept_by_history (P := fun later => s.ids r <+: later.ids r) ?_ (List.prefix_refl _) actions
  intro now entry later earlier
  rw [ids_add]
  split
  · exact earlier.trans (List.prefix_append _ _)
  · exact earlier

theorem empty_counts_up : Store.empty.CountsUp := by
  intro r
  cases r <;> decide

theorem add_counts_up (now : Timestamp) (entry : Entry) (s : Store) (counted : s.CountsUp) :
    (s.add now entry).CountsUp := by
  intro r
  obtain ⟨ids, next⟩ := counted r
  rw [ids_add, next_id_add]
  split
  · refine ⟨?_, ?_⟩
    · rw [List.length_append, List.length_singleton, List.range_succ, List.map_append, ← ids, next]
      rfl
    · rw [List.length_append, List.length_singleton, next]
      exact (Int64.ofNat_add _ 1).symm
  · exact ⟨ids, next⟩

theorem seeded_counts_up (now : Timestamp) : (Store.seeded now).CountsUp := by
  have seeding : Store.seeded now = Store.empty.after
      (Store.seedUsers.map (fun v => .append now (.user v)) ++
        Store.seedProducts.map (fun v => .append now (.product v))) := by
    simp only [Store.seeded, Store.after, List.foldl_append, List.foldl_map]
    rfl
  rw [seeding]
  exact kept_by_history add_counts_up empty_counts_up _

theorem history_counts_up {start : Store} (fresh : start = .empty ∨ ∃ now, start = .seeded now)
    (actions : List Action) : (start.after actions).CountsUp := by
  apply kept_by_history add_counts_up
  rcases fresh with rfl | ⟨now, rfl⟩
  · exact empty_counts_up
  · exact seeded_counts_up now

theorem ids_as_numbers {s : Store} (counted : s.CountsUp) {r : Relation}
    (room : (s.ids r).length < Int64.maxValue.toInt) :
    (s.ids r).map Int64.toInt = oneTo (s.ids r).length ∧
      (s.nextId r).toInt = (s.ids r).length + 1 := by
  obtain ⟨ids, next⟩ := counted r
  have most : Int64.maxValue.toInt = 9223372036854775807 := rfl
  have exact_number : ∀ i, i ≤ (s.ids r).length → (Int64.ofNat (i + 1)).toInt = (i : Int) + 1 := by
    intro i bound
    rw [Int64.toInt_ofNat_of_lt (by omega)]
    rfl
  refine ⟨?_, by rw [next, exact_number _ (Nat.le_refl _)]⟩
  generalize (s.ids r).length = n at ids exact_number
  rw [ids, List.map_map, oneTo]
  apply List.map_congr_left
  intro i member
  exact exact_number i (Nat.le_of_lt (List.mem_range.mp member))

theorem inserted_id {now : Timestamp} {sql : String} {s : Store} {r : Relation} {id : Int64}
    (target : (classify sql).relation = some r)
    (inserted : (execute now sql s).outcome = .mutation ⟨id, 1⟩) :
    id = s.nextId r ∧ (execute now sql s).store.ids r = s.ids r ++ [id] := by
  by_cases insert : ∃ r', classify sql = ⟨.insert, some r'⟩
  · obtain ⟨r', insert⟩ := insert
    have same : r' = r := by simpa [insert] using target
    subst same
    rw [execute_insert now s insert] at inserted ⊢
    cases read : r'.entry? sql with
    | none => simp [read, skippedStep, RunResult.none] at inserted
    | some entry =>
      simp only [read, insertedStep, RunResult.inserted, Outcome.mutation.injEq,
        RunResult.mk.injEq] at inserted
      have new := inserted.1.symm
      simp only [insertedStep, ids_add, entry_relation read, if_true, new, and_self]
  · obtain ⟨_, rows, outcome⟩ := execute_read now s fun r other => insert ⟨r, other⟩
    rw [outcome] at inserted
    exact Outcome.noConfusion inserted

/-- After every history of a fresh store the identifiers of a relation are 1 to the row count, in
    the order of the rows, and the next one is free. They are kept by every later history, and a
    successful insert adds one more than the greatest so far, or 1 in an empty relation. -/
theorem identifiers_count_up {start : Store}
    (fresh : start = .empty ∨ ∃ now, start = .seeded now) (actions : List Action)
    (room : ∀ r, ((start.after actions).ids r).length < Int64.maxValue.toInt) (r : Relation) :
    let s := start.after actions
    (s.ids r).map Int64.toInt = oneTo (s.ids r).length ∧
    (s.nextId r).toInt = (s.ids r).length + 1 ∧
    (s.ids r).Nodup ∧
    (∀ later, s.ids r <+: (s.after later).ids r) ∧
    ∀ now sql id, (classify sql).relation = some r →
      (execute now sql s).outcome = .mutation ⟨id, 1⟩ →
        id ∉ s.ids r ∧ id.toInt = ((s.ids r).map Int64.toInt).max?.getD 0 + 1 ∧
          (execute now sql s).store.ids r = s.ids r ++ [id] := by
  intro s
  obtain ⟨numbers, next⟩ := ids_as_numbers (history_counts_up fresh actions) (room r)
  refine ⟨numbers, next, ?_, fun later => ids_prefix_after s later r, ?_⟩
  · apply List.Nodup.of_map Int64.toInt
    rw [numbers]
    exact one_to_nodup _
  · intro now sql id target inserted
    obtain ⟨rfl, added⟩ := inserted_id target inserted
    refine ⟨?_, by rw [next, numbers, one_to_max], added⟩
    intro member
    have listed : (s.nextId r).toInt ∈ (s.ids r).map Int64.toInt := List.mem_map_of_mem member
    rw [numbers, next, mem_one_to] at listed
    omega

/-- Reads, a malformed INSERT, an unknown statement and a direct append between two inserts. -/
def mixedHistory : List Action :=
  [.perform default "INSERT INTO users VALUES ('eve', 'e@x', 'pw', 'user')" .all,
   .perform default "SELECT * FROM users WHERE id = 5" .get,
   .perform default "INSERT INTO orders VALUES (1, 2)" .run,
   .append default (.user ⟨"late", "l@x", "pw", "user"⟩),
   .perform default "DROP TABLE users" .execute]

theorem mixed_history_identifiers :
    (∀ r, (((Store.seeded default).after mixedHistory).ids r).length < Int64.maxValue.toInt) ∧
    (((Store.seeded default).after mixedHistory).ids .users).map Int64.toInt = [1, 2, 3, 4, 5, 6] ∧
    (((Store.seeded default).after mixedHistory).nextId .orders).toInt = 1 := by
  have listed : ((Store.seeded default).after mixedHistory).ids .users = [1, 2, 3, 4, 5, 6] ∧
      ((Store.seeded default).after mixedHistory).ids .products = [1, 2, 3, 4] ∧
      ((Store.seeded default).after mixedHistory).ids .orders = [] := by
    decide +kernel
  have room : ∀ r,
      (((Store.seeded default).after mixedHistory).ids r).length < Int64.maxValue.toInt := by
    intro r
    cases r
    · rw [listed.1]
      decide
    · rw [listed.2.1]
      decide
    · rw [listed.2.2]
      decide
  have users := identifiers_count_up (Or.inr ⟨default, rfl⟩) mixedHistory room .users
  have orders := identifiers_count_up (Or.inr ⟨default, rfl⟩) mixedHistory room .orders
  refine ⟨room, users.1.trans ?_, orders.2.1.trans ?_⟩
  · rw [listed.1]
    rfl
  · rw [listed.2.2]
    rfl

end InjectionLab
