import InjectionLab.Proofs.History

/-!
Rows by identifier. In a reachable store an identifier is a position counted from one, so that
looking for it finds the row at that position and nothing else, and a row that has been stored is
found under its identifier for ever.
-/
namespace InjectionLab

def Store.Reachable (s : Store) : Prop :=
  ∃ (start : Store) (actions : List Action),
    (start = .empty ∨ ∃ now, start = .seeded now) ∧ s = start.after actions

/-- The row at a position counted from one, if there is one. -/
def rowAt {α : Type} (rows : List α) (position : Int64) : Option α :=
  if 1 ≤ position.toInt then rows[(position.toInt - 1).toNat]? else none

structure Table.Numbered {α : Type} (key : α → Int64) (t : Table α) : Prop where
  rows : (t.rows.map key).map Int64.toInt = oneTo t.rows.length
  next : t.nextId.toInt = t.rows.length + 1

/-! Reachable stores -/

theorem reachable_after {s : Store} (reachable : s.Reachable) (actions : List Action) :
    (s.after actions).Reachable := by
  obtain ⟨start, earlier, fresh, rfl⟩ := reachable
  exact ⟨start, earlier ++ actions, fresh, by simp [Store.after]⟩

theorem reachable_execute {s : Store} (reachable : s.Reachable) (now : Timestamp) (sql : String) :
    (execute now sql s).store.Reachable :=
  reachable_after reachable [.perform now sql .run]

theorem reachable_counts_up {s : Store} (reachable : s.Reachable) : s.CountsUp := by
  obtain ⟨start, actions, fresh, rfl⟩ := reachable
  exact history_counts_up fresh actions

section Numbered
variable {s : Store} (reachable : s.Reachable)
include reachable

theorem users_numbered (room : s.users.rows.length < Int64.maxValue.toInt) :
    s.users.Numbered User.id := by
  have counted := ids_as_numbers (reachable_counts_up reachable) (r := .users)
  simp only [Store.ids, Store.nextId, List.length_map] at counted
  exact ⟨(counted room).1, (counted room).2⟩

theorem products_numbered (room : s.products.rows.length < Int64.maxValue.toInt) :
    s.products.Numbered Product.id := by
  have counted := ids_as_numbers (reachable_counts_up reachable) (r := .products)
  simp only [Store.ids, Store.nextId, List.length_map] at counted
  exact ⟨(counted room).1, (counted room).2⟩

theorem orders_numbered (room : s.orders.rows.length < Int64.maxValue.toInt) :
    s.orders.Numbered Order.id := by
  have counted := ids_as_numbers (reachable_counts_up reachable) (r := .orders)
  simp only [Store.ids, Store.nextId, List.length_map] at counted
  exact ⟨(counted room).1, (counted room).2⟩

end Numbered

theorem rows_prefix_after (s : Store) (actions : List Action) :
    s.users.rows <+: (s.after actions).users.rows ∧
      s.products.rows <+: (s.after actions).products.rows ∧
      s.orders.rows <+: (s.after actions).orders.rows := by
  refine kept_by_history (P := fun later => s.users.rows <+: later.users.rows ∧
    s.products.rows <+: later.products.rows ∧ s.orders.rows <+: later.orders.rows) ?_
    ⟨List.prefix_rfl, List.prefix_rfl, List.prefix_rfl⟩ actions
  intro now entry later kept
  obtain ⟨users, products, orders⟩ := kept
  cases entry with
  | user v => exact ⟨users.trans (List.prefix_append _ _), products, orders⟩
  | product v => exact ⟨users, products.trans (List.prefix_append _ _), orders⟩
  | order v => exact ⟨users, products, orders.trans (List.prefix_append _ _)⟩

/-! Positions -/

theorem row_at_settled {α : Type} {rows later : List α} (kept : rows <+: later) {position : Int64}
    (assigned : position.toInt ≤ rows.length) : rowAt later position = rowAt rows position := by
  obtain ⟨more, rfl⟩ := kept
  rw [rowAt, rowAt]
  split
  · rw [List.getElem?_append_left (by omega)]
  · rfl

theorem append_shorter {α : Type} {t : Table α} {make : Int64 → α} {later : List α}
    (kept : (t.append make).rows <+: later) : t.rows.length < later.length := by
  have longer := kept.length_le
  rw [Table.append, List.length_append, List.length_singleton] at longer
  omega

/-- An appended row stands under the identifier that it was given, whatever came after it. -/
theorem appended_row_kept {α : Type} {key : α → Int64} {t : Table α} (numbered : t.Numbered key)
    {make : Int64 → α} {later : List α} (kept : (t.append make).rows <+: later) :
    rowAt later t.nextId = some (make t.nextId) := by
  have next := numbered.next
  have index : (t.nextId.toInt - 1).toNat = t.rows.length := by omega
  have last : (t.append make).rows.length = t.rows.length + 1 := by simp [Table.append]
  rw [row_at_settled kept (by omega), rowAt, if_pos (by omega), index]
  exact List.getElem?_concat_length

theorem row_at_map {α β : Type} (f : α → β) (rows : List α) (position : Int64) :
    rowAt (rows.map f) position = (rowAt rows position).map f := by
  simp only [rowAt, List.getElem?_map]
  split <;> rfl

theorem filter_numbered {α : Type} {key : α → Int64} {rows : List α} (start : Nat)
    (numbered : ∀ (i : Nat) (row : α), rows[i]? = some row → (key row).toInt = start + i)
    (id : Int64) :
    rows.filter (key · == id) =
      (if start ≤ id.toInt then rows[(id.toInt - start).toNat]? else none).toList := by
  -- The rows are numbered from start on, so the induction takes the start along.
  induction rows generalizing start with
  | nil => simp
  | cons row rows ih =>
    have first : (key row).toInt = start := by simpa using numbered 0 row rfl
    have later : rows.filter (key · == id) = (if ((start + 1 : Nat) : Int) ≤ id.toInt then
        rows[(id.toInt - (start + 1 : Nat)).toNat]? else none).toList := by
      apply ih (start + 1)
      intro i row found
      have number := numbered (i + 1) row (by simpa using found)
      push_cast at number ⊢
      omega
    by_cases same : key row = id
    · have position : id.toInt = start := by rw [← same, first]
      rw [List.filter_cons_of_pos (by simpa using same), later, if_neg (by omega),
        if_pos (by omega)]
      simp [position]
    · have apart : id.toInt ≠ start := fun equal =>
        same (Int64.toInt_inj.mp (first.trans equal.symm))
      rw [List.filter_cons_of_neg (by simpa using same), later]
      by_cases beyond : (start : Int) ≤ id.toInt
      · have next : (id.toInt - start).toNat = (id.toInt - (start + 1 : Nat)).toNat + 1 := by omega
        rw [if_pos beyond, if_pos (by omega), next, List.getElem?_cons_succ]
      · rw [if_neg beyond, if_neg (by omega)]

theorem filter_by_id {α : Type} {key : α → Int64} {t : Table α} (numbered : t.Numbered key)
    (id : Int64) : t.rows.filter (key · == id) = (rowAt t.rows id).toList := by
  refine filter_numbered 1 ?_ id
  intro i row found
  have number := congrArg (·[i]?) numbered.rows
  obtain ⟨bound, _⟩ := List.getElem?_eq_some_iff.mp found
  simp only [oneTo, List.getElem?_map, found, List.getElem?_range bound, Option.map_some,
    Option.some.injEq] at number
  push_cast
  omega

theorem find_by_id {α : Type} {key : α → Int64} {t : Table α} (numbered : t.Numbered key)
    (id : Int64) : t.rows.find? (key · == id) = rowAt t.rows id := by
  rw [← List.head?_filter, filter_by_id numbered]
  cases rowAt t.rows id <;> rfl

end InjectionLab
