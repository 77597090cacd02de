import InjectionLab.Execution

/-!
What a statement does to the store. An INSERT on a recognised relation whose literal list is read
appends one row to that relation; every other statement leaves the store as it was.
-/
namespace InjectionLab

inductive Entry where
  | user (values : UserValues)
  | product (values : ProductValues)
  | order (values : OrderValues)
deriving DecidableEq, Repr

def Entry.relation : Entry → Relation
  | .user _ => .users
  | .product _ => .products
  | .order _ => .orders

def Relation.entry? (sql : String) : Relation → Option Entry
  | .users => (userValues sql).map .user
  | .products => (productValues sql).map .product
  | .orders => (orderValues sql).map .order

namespace Store

def add (now : Timestamp) (entry : Entry) (s : Store) : Store :=
  match entry with
  | .user v => s.appendUser now v
  | .product v => s.appendProduct now v
  | .order v => s.appendOrder now v

def nextId (s : Store) : Relation → Int64
  | .users => s.users.nextId
  | .products => s.products.nextId
  | .orders => s.orders.nextId

end Store

/-- One row came last, under the identifier that was next, and the counter went on by one. -/
def Table.Grew {α : Type} (rowId : α → Int64) (before after : Table α) : Prop :=
  (∃ row, after.rows = before.rows ++ [row] ∧ rowId row = before.nextId) ∧
    after.nextId.toInt = before.nextId.toInt + 1

def Store.GrewIn (before after : Store) : Relation → Prop
  | .users => Table.Grew User.id before.users after.users ∧
      after.products = before.products ∧ after.orders = before.orders
  | .products => Table.Grew Product.id before.products after.products ∧
      after.users = before.users ∧ after.orders = before.orders
  | .orders => Table.Grew Order.id before.orders after.orders ∧
      after.users = before.users ∧ after.products = before.products

def Step.LeavesAlone (before : Store) (step : Step) : Prop :=
  step.store = before ∧
    ((∃ rows, step.outcome = .rows rows) ∨ step.outcome = .mutation ⟨0, 0⟩)

def Step.InsertsInto (before : Store) (r : Relation) (step : Step) : Prop :=
  step.outcome = .mutation ⟨before.nextId r, 1⟩ ∧ before.GrewIn step.store r

theorem entry_relation {sql : String} {r : Relation} {entry : Entry}
    (read : r.entry? sql = some entry) : entry.relation = r := by
  cases r <;> simp only [Relation.entry?, Option.map_eq_some_iff] at read <;>
    obtain ⟨v, _, rfl⟩ := read <;> rfl

theorem execute_insert {sql : String} {r : Relation} (now : Timestamp) (s : Store)
    (insert : classify sql = ⟨.insert, some r⟩) :
    execute now sql s =
      match r.entry? sql with
      | some entry => insertedStep r (s.nextId r) (s.add now entry)
      | none => skippedStep r s := by
  cases r <;> simp only [execute, insert, Relation.entry?]
  · simp only [insertUser]
    cases userValues sql <;> rfl
  · simp only [insertProduct]
    cases productValues sql <;> rfl
  · simp only [insertOrder]
    cases orderValues sql <;> rfl

theorem execute_read {sql : String} (now : Timestamp) (s : Store)
    (read : ∀ r, classify sql ≠ ⟨.insert, some r⟩) :
    (execute now sql s).store = s ∧ ∃ rows, (execute now sql s).outcome = .rows rows := by
  generalize named : classify sql = c at read
  obtain ⟨kind, relation⟩ := c
  simp only [execute, named]
  cases kind with
  | select =>
    cases relation with
    | none => exact ⟨rfl, _, rfl⟩
    | some r => cases r <;> exact ⟨rfl, _, rfl⟩
  | insert =>
    cases relation with
    | none => exact ⟨rfl, _, rfl⟩
    | some r => exact absurd rfl (read r)
  | unknown => cases relation <;> exact ⟨rfl, _, rfl⟩

theorem counter_exact {id : Int64} (room : id < .maxValue) : (id + 1).toInt = id.toInt + 1 := by
  have low := id.le_toInt
  have high := Int64.lt_iff_toInt_lt.mp room
  have most : Int64.maxValue.toInt = 9223372036854775807 := rfl
  rw [Int64.toInt_add, show (1 : Int64).toInt = 1 from rfl]
  exact Int.bmod_eq_of_le (by omega) (by omega)

theorem append_grew {α : Type} {rowId : α → Int64} {make : Int64 → α} (t : Table α)
    (identified : rowId (make t.nextId) = t.nextId) (room : t.nextId < .maxValue) :
    Table.Grew rowId t (t.append make) :=
  ⟨⟨make t.nextId, rfl, identified⟩, counter_exact room⟩

theorem add_grew (now : Timestamp) (entry : Entry) (s : Store)
    (room : s.nextId entry.relation < .maxValue) :
    s.GrewIn (s.add now entry) entry.relation := by
  cases entry <;> exact ⟨append_grew _ rfl room, rfl, rfl⟩

theorem inserting_excludes_leaving {before : Store} {r : Relation} {step : Step}
    (inserts : step.InsertsInto before r) : ¬ step.LeavesAlone before := by
  rintro ⟨_, ⟨rows, outcome⟩ | outcome⟩
  · simp [inserts.1] at outcome
  · simp [inserts.1] at outcome

theorem insert_effect {sql : String} {r : Relation} (now : Timestamp) (s : Store)
    (insert : classify sql = ⟨.insert, some r⟩) (room : s.nextId r < .maxValue) :
    if (r.entry? sql).isSome then (execute now sql s).InsertsInto s r
    else (execute now sql s).store = s ∧ (execute now sql s).outcome = .mutation ⟨0, 0⟩ := by
  rw [execute_insert now s insert]
  cases read : r.entry? sql with
  | none => exact ⟨rfl, rfl⟩
  | some entry =>
    have same := entry_relation read
    subst same
    exact ⟨rfl, add_grew now entry s room⟩

/-- A statement either leaves the store alone or appends one row to the relation that it names. It
    reports a mutation just if it is an INSERT on a recognised relation, and it appends a row just
    if the literal list of that relation is read as well. -/
theorem statement_effect (now : Timestamp) (sql : String) (s : Store)
    (room : ∀ r, s.nextId r < .maxValue) :
    let step := execute now sql s
    let inserts := ∃ r, (classify sql).relation = some r ∧ step.InsertsInto s r
    (step.LeavesAlone s ∧ ¬ inserts ∨ inserts ∧ ¬ step.LeavesAlone s) ∧
    ((∃ result, step.outcome = .mutation result) ↔ ∃ r, classify sql = ⟨.insert, some r⟩) ∧
    (inserts ↔ ∃ r, classify sql = ⟨.insert, some r⟩ ∧ (r.entry? sql).isSome) := by
  intro step inserts
  have excluded : inserts → ¬ step.LeavesAlone s := fun ⟨_, _, ins⟩ =>
    inserting_excludes_leaving ins
  by_cases insert : ∃ r, classify sql = ⟨.insert, some r⟩
  · obtain ⟨r, insert⟩ := insert
    have effect := insert_effect now s insert (room r)
    have target : ∀ r', classify sql = ⟨.insert, some r'⟩ → r' = r := by
      intro r' other
      simpa [insert, eq_comm] using other
    split at effect
    · rename_i read
      have inserting : inserts := ⟨r, by rw [insert], effect⟩
      exact ⟨Or.inr ⟨inserting, excluded inserting⟩, iff_of_true ⟨_, effect.1⟩ ⟨r, insert⟩,
        iff_of_true inserting ⟨r, insert, read⟩⟩
    · rename_i unread
      have alone : step.LeavesAlone s := ⟨effect.1, Or.inr effect.2⟩
      have idle : ¬ inserts := fun inserting => excluded inserting alone
      refine ⟨Or.inl ⟨alone, idle⟩, iff_of_true ⟨_, effect.2⟩ ⟨r, insert⟩, iff_of_false idle ?_⟩
      rintro ⟨r', other, read⟩
      exact unread (target r' other ▸ read)
  · have read := execute_read now s fun r other => insert ⟨r, other⟩
    obtain ⟨kept, rows, outcome⟩ := read
    have alone : step.LeavesAlone s := ⟨kept, Or.inl ⟨rows, outcome⟩⟩
    have idle : ¬ inserts := fun inserting => excluded inserting alone
    refine ⟨Or.inl ⟨alone, idle⟩, iff_of_false ?_ insert, iff_of_false idle ?_⟩
    · rintro ⟨result, mutation⟩
      exact Outcome.noConfusion (outcome.symm.trans mutation)
    · rintro ⟨r, other, _⟩
      exact insert ⟨r, other⟩

theorem order_insert_effect :
    (∀ r, Store.empty.nextId r < .maxValue) ∧
    ∃ r, (classify "Insert into ORDERS Values ( 1,-2 , 3, 4.50)").relation = some r ∧
      (execute default "Insert into ORDERS Values ( 1,-2 , 3, 4.50)" .empty).InsertsInto
        .empty r := by
  have room : ∀ r, Store.empty.nextId r < .maxValue := by
    intro r
    cases r <;> decide
  have effect := statement_effect default "Insert into ORDERS Values ( 1,-2 , 3, 4.50)" .empty room
  exact ⟨room, effect.2.2.mpr ⟨.orders, by decide +kernel, by decide +kernel⟩⟩

end InjectionLab
