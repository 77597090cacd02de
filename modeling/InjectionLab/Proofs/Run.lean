import InjectionLab.Proofs.History

/-!
Runs of statements. What a statement writes is settled by its text alone, so a run adds to each
relation one row for each text that writes to it, in the order of the texts and under the next
identifiers. The clock settles nothing but the times of creation, and the calls nothing at all.
-/
namespace InjectionLab

structure Request where
  sql : String
  call : Call
  now : Timestamp
deriving DecidableEq, Repr

def Request.action (request : Request) : Action :=
  .perform request.now request.sql request.call

def Request.texts (requests : List Request) : List String := requests.map Request.sql

/-! Rows with their time of creation left out -/

def User.undated (u : User) : User := { u with createdAt := default }

def Product.undated (p : Product) : Product := { p with createdAt := default }

def Order.undated (o : Order) : Order := { o with createdAt := default }

/-- A row as it is stored: an order without the names of its references. -/
inductive StoredRow where
  | user (row : User)
  | product (row : Product)
  | order (row : Order)
deriving DecidableEq, Repr

namespace StoredRow

def undated : StoredRow → StoredRow
  | user row => user row.undated
  | product row => product row.undated
  | order row => order row.undated

def content : StoredRow → StoredRow
  | user row => user { row.undated with id := 0 }
  | product row => product { row.undated with id := 0 }
  | order row => order { row.undated with id := 0 }

end StoredRow

def Entry.row (id : Int64) (now : Timestamp) : Entry → StoredRow
  | user v => .user ⟨id, v.username, v.email, v.password, v.role, now⟩
  | product v => .product ⟨id, v.name, v.description, v.price, v.category, v.stock, now⟩
  | order v => .order ⟨id, v.userId, v.productId, v.quantity, v.totalPrice, "pending", now⟩

/-- What a statement writes: nothing, unless it is an INSERT on a recognised relation and the
    literal list of that relation is read. -/
def written? (sql : String) : Option Entry :=
  match classify sql with
  | ⟨.insert, some r⟩ => r.entry? sql
  | _ => none

def writtenTo (r : Relation) (statements : List String) : List Entry :=
  (statements.filterMap written?).filter (·.relation = r)

def insertsInto (r : Relation) (statements : List String) : List String :=
  statements.filter fun sql => classify sql = ⟨.insert, some r⟩

namespace Store

def stored (s : Store) : Relation → List StoredRow
  | .users => s.users.rows.map .user
  | .products => s.products.rows.map .product
  | .orders => s.orders.rows.map .order

def serve (s : Store) (requests : List Request) : Store := s.after (requests.map Request.action)

/-- The same rows in the same order, identifiers included and times of creation aside, and the same
    counter. -/
def SameIn (s t : Store) (r : Relation) : Prop :=
  (s.stored r).map StoredRow.undated = (t.stored r).map StoredRow.undated ∧
    s.nextId r = t.nextId r

end Store

def rowsFrom (first : Int64) : List Entry → List StoredRow
  | [] => []
  | entry :: rest => entry.row first default :: rowsFrom (first + 1) rest

/-! One statement -/

theorem insert_writes {sql : String} {r : Relation} (insert : classify sql = ⟨.insert, some r⟩) :
    written? sql = r.entry? sql := by
  rw [written?, insert]

theorem read_writes_nothing {sql : String} (read : ∀ r, classify sql ≠ ⟨.insert, some r⟩) :
    written? sql = none := by
  rw [written?]
  split
  · rename_i r insert
    exact absurd insert (read r)
  · rfl

theorem written_relation {sql : String} {entry : Entry} (written : written? sql = some entry) :
    classify sql = ⟨.insert, some entry.relation⟩ := by
  by_cases insert : ∃ r, classify sql = ⟨.insert, some r⟩
  · obtain ⟨r, insert⟩ := insert
    rw [insert_writes insert] at written
    rw [insert, entry_relation written]
  · rw [read_writes_nothing fun r other => insert ⟨r, other⟩] at written
    cases written

/-- All that a statement does to the store, and what it reports of it. -/
theorem execute_written (now : Timestamp) (sql : String) (s : Store) :
    match written? sql with
    | some entry => (execute now sql s).store = s.add now entry ∧
        (execute now sql s).outcome.runResult = .inserted (s.nextId entry.relation)
    | none => (execute now sql s).store = s ∧
        (execute now sql s).outcome.runResult = .none := by
  by_cases insert : ∃ r, classify sql = ⟨.insert, some r⟩
  · obtain ⟨r, insert⟩ := insert
    rw [insert_writes insert, execute_insert now s insert]
    cases read : r.entry? sql with
    | none => exact ⟨rfl, rfl⟩
    | some entry =>
      have relation := entry_relation read
      subst relation
      exact ⟨rfl, rfl⟩
  · have read : ∀ r, classify sql ≠ ⟨.insert, some r⟩ := fun r other => insert ⟨r, other⟩
    obtain ⟨kept, rows, outcome⟩ := execute_read now s read
    rw [read_writes_nothing read, outcome]
    exact ⟨kept, rfl⟩

theorem stored_add (now : Timestamp) (entry : Entry) (s : Store) (r : Relation) :
    (s.add now entry).stored r =
      if entry.relation = r then s.stored r ++ [entry.row (s.nextId r) now] else s.stored r := by
  cases entry <;> cases r <;>
    simp [Store.add, Store.appendUser, Store.appendProduct, Store.appendOrder, Table.append,
      Store.stored, Store.nextId, Entry.relation, Entry.row]

theorem row_undated (entry : Entry) (id : Int64) (now : Timestamp) :
    (entry.row id now).undated = entry.row id default := by
  cases entry <;> rfl

/-! A run -/

theorem serve_cons (s : Store) (request : Request) (rest : List Request) :
    s.serve (request :: rest) = (execute request.now request.sql s).store.serve rest := rfl

theorem written_to_cons (r : Relation) (sql : String) (rest : List String) :
    writtenTo r (sql :: rest) =
      match written? sql with
      | some entry =>
        if entry.relation = r then entry :: writtenTo r rest else writtenTo r rest
      | none => writtenTo r rest := by
  rw [writtenTo, List.filterMap_cons]
  cases written? sql with
  | none => rfl
  | some entry => simp only [writtenTo, List.filter_cons, decide_eq_true_eq]

theorem written_to_inserts (r : Relation) (statements : List String) :
    writtenTo r (insertsInto r statements) = writtenTo r statements := by
  induction statements with
  | nil => rfl
  | cons sql rest ih =>
    rw [written_to_cons, insertsInto, List.filter_cons]
    split
    · rw [written_to_cons, ← insertsInto, ih]
    · rename_i other
      rw [← insertsInto, ih]
      cases written : written? sql with
      | none => rfl
      | some entry =>
        have apart : entry.relation ≠ r := by
          rintro rfl
          exact other (decide_eq_true (written_relation written))
        simp only [if_neg apart]

theorem served_relation (s : Store) (requests : List Request) (r : Relation) :
    ((s.serve requests).stored r).map StoredRow.undated =
        (s.stored r).map StoredRow.undated ++
          rowsFrom (s.nextId r) (writtenTo r (Request.texts requests)) ∧
      (s.serve requests).nextId r =
        s.nextId r + Int64.ofNat (writtenTo r (Request.texts requests)).length := by
  -- The induction is over the run, with the store that it starts from left general.
  induction requests generalizing s with
  | nil => simp [Store.serve, Store.after, Request.texts, writtenTo, rowsFrom]
  | cons request rest ih =>
    have effect := execute_written request.now request.sql s
    have later := ih (execute request.now request.sql s).store
    rw [serve_cons]
    simp only [Request.texts, List.map_cons] at later ⊢
    rw [written_to_cons]
    cases written : written? request.sql with
    | none =>
      simp only [written] at effect ⊢
      rw [effect.1] at later ⊢
      exact later
    | some entry =>
      simp only [written] at effect ⊢
      rw [effect.1, stored_add, next_id_add] at later
      rw [effect.1]
      split
      · rename_i same
        rw [if_pos same, if_pos same] at later
        refine ⟨?_, ?_⟩
        · rw [later.1, List.map_append, List.append_assoc, rowsFrom, ← row_undated entry _ request.now]
          rfl
        · rw [later.2, List.length_cons, Nat.add_comm, Int64.ofNat_add, ← Int64.add_assoc]
          rfl
      · rename_i apart
        rw [if_neg apart, if_neg apart] at later
        exact later

end InjectionLab
