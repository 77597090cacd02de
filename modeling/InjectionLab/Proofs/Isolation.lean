import InjectionLab.Proofs.Run

/-!
Relations kept apart. What a run leaves in a relation is settled by the statements that are
classified as an INSERT on it, and what a statement returns is settled by the relation that it
names. Only a SELECT on orders looks further, at the names of users and products.
-/
namespace InjectionLab

def Classified.reads : Classified → List Relation
  | ⟨.select, some .orders⟩ => Relation.all
  | ⟨_, relation⟩ => relation.toList

def OrderView.undated (o : OrderView) : OrderView := { o with order := o.order.undated }

def Row.undated : Row → Row
  | .user row => .user row.undated
  | .product row => .product row.undated
  | .order row => .order row.undated

def Outcome.undated : Outcome → Outcome
  | rows found => .rows (found.map Row.undated)
  | mutation result => .mutation result

/-! Tables -/

theorem unwrapped_same {α : Type} {wrap : α → StoredRow} {forget : α → α}
    (injective : ∀ a b, wrap a = wrap b → a = b)
    (wrapped : ∀ row, (wrap row).undated = wrap (forget row)) {xs ys : List α}
    (same : (xs.map wrap).map StoredRow.undated = (ys.map wrap).map StoredRow.undated) :
    xs.map forget = ys.map forget := by
  apply List.map_injective_iff.mpr injective
  simpa only [List.map_map, Function.comp_def, wrapped] using same

section SameIn
variable {s t : Store}

theorem same_users (same : s.SameIn t .users) :
    s.users.rows.map User.undated = t.users.rows.map User.undated :=
  unwrapped_same (fun _ _ => StoredRow.user.inj) (fun _ => rfl) same.1

theorem same_products (same : s.SameIn t .products) :
    s.products.rows.map Product.undated = t.products.rows.map Product.undated :=
  unwrapped_same (fun _ _ => StoredRow.product.inj) (fun _ => rfl) same.1

theorem same_orders (same : s.SameIn t .orders) :
    s.orders.rows.map Order.undated = t.orders.rows.map Order.undated :=
  unwrapped_same (fun _ _ => StoredRow.order.inj) (fun _ => rfl) same.1

end SameIn

theorem served_same {r : Relation} {run other : List Request} (s : Store)
    (inserts : insertsInto r (Request.texts run) = insertsInto r (Request.texts other)) :
    (s.serve run).SameIn (s.serve other) r := by
  have written : writtenTo r (Request.texts run) = writtenTo r (Request.texts other) := by
    rw [← written_to_inserts, inserts, written_to_inserts]
  obtain ⟨rows, next⟩ := served_relation s run r
  obtain ⟨rows', next'⟩ := served_relation s other r
  exact ⟨by rw [rows, rows', written], by rw [next, next', written]⟩

theorem inserts_of_inserts (r : Relation) (statements : List String) :
    insertsInto r (insertsInto r statements) = insertsInto r statements := by
  simp only [insertsInto, List.filter_filter, Bool.and_self]

/-! Outcomes -/

/-- A selection that cannot see what is left out of the rows commutes with leaving it out. -/
theorem selected_map {α : Type} {record : α → Record} (forget : α → α)
    (unseen : ∀ row, record (forget row) = record row) (trigger : Option Trigger)
    (clauses : List Clause) (rows : List α) :
    (selected record trigger clauses rows).map forget =
      selected record trigger clauses (rows.map forget) := by
  unfold selected
  cases trigger with
  | some trigger => rfl
  | none =>
    cases Clause.conjunction? clauses with
    | none => rfl
    | some predicate =>
      simp only [Predicate.filter, List.filter_map, Function.comp_def, unseen]

theorem name_of_undated {α : Type} (key : α → Int64) (name : α → String) (forget : α → α)
    (keyed : ∀ row, key (forget row) = key row) (named : ∀ row, name (forget row) = name row)
    (rows : List α) (id : Int64) :
    (rows.find? (key · == id)).map name = ((rows.map forget).find? (key · == id)).map name := by
  simp only [List.find?_map, Function.comp_def, keyed, Option.map_map, named]

section Views
variable {s t : Store}

theorem same_usernames (same : s.SameIn t .users) (id : Int64) :
    s.usernameOf id = t.usernameOf id := by
  have found := name_of_undated User.id User.username User.undated (fun _ => rfl) (fun _ => rfl)
  rw [Store.usernameOf, Store.usernameOf, found s.users.rows, found t.users.rows, same_users same]

theorem same_product_names (same : s.SameIn t .products) (id : Int64) :
    s.productNameOf id = t.productNameOf id := by
  have found := name_of_undated Product.id Product.name Product.undated (fun _ => rfl)
    (fun _ => rfl)
  rw [Store.productNameOf, Store.productNameOf, found s.products.rows, found t.products.rows,
    same_products same]

theorem views_undated (u : Store) :
    u.orderViews.map OrderView.undated = (u.orders.rows.map Order.undated).map fun order =>
      ⟨order, u.usernameOf order.userId, u.productNameOf order.productId⟩ := by
  simp only [Store.orderViews, List.map_map]
  rfl

theorem same_views (users : s.SameIn t .users) (products : s.SameIn t .products)
    (orders : s.SameIn t .orders) :
    s.orderViews.map OrderView.undated = t.orderViews.map OrderView.undated := by
  rw [views_undated, views_undated, same_orders orders]
  simp only [same_usernames users, same_product_names products]

end Views

theorem wrapped_undated {α : Type} {wrap : α → Row} (forget : α → α)
    (wrapped : ∀ row, (wrap row).undated = wrap (forget row)) {xs ys : List α}
    (same : xs.map forget = ys.map forget) :
    (Outcome.rows (xs.map wrap)).undated = (Outcome.rows (ys.map wrap)).undated := by
  have forgotten (rows : List α) : (rows.map wrap).map Row.undated = (rows.map forget).map wrap := by
    simp only [List.map_map, Function.comp_def, wrapped]
  simp only [Outcome.undated, forgotten, same]

theorem select_same {s t : Store} {sql : String} {r : Relation}
    (select : classify sql = ⟨.select, some r⟩)
    (same : ∀ read ∈ (Classified.mk .select (some r)).reads, s.SameIn t read)
    (now now' : Timestamp) :
    (execute now sql s).outcome.undated = (execute now' sql t).outcome.undated := by
  cases r <;> simp only [execute, select]
  · have users := same_users (same .users (by decide))
    apply wrapped_undated User.undated fun _ => rfl
    rw [selected_map User.undated fun _ => rfl, selected_map User.undated fun _ => rfl, users]
  · have products := same_products (same .products (by decide))
    apply wrapped_undated Product.undated fun _ => rfl
    rw [selected_map Product.undated fun _ => rfl, selected_map Product.undated fun _ => rfl,
      products]
  · have views := same_views (same .users (by decide)) (same .products (by decide))
      (same .orders (by decide))
    exact wrapped_undated OrderView.undated (fun _ => rfl) views

theorem outcome_same {s t : Store} {sql : String}
    (same : ∀ r ∈ (classify sql).reads, s.SameIn t r) (now now' : Timestamp) :
    (execute now sql s).outcome.undated = (execute now' sql t).outcome.undated := by
  generalize named : classify sql = c at same
  obtain ⟨kind, relation⟩ := c
  cases kind with
  | select =>
    cases relation with
    | none => simp only [execute, named]
    | some r => exact select_same named same now now'
  | insert =>
    cases relation with
    | none => simp only [execute, named]
    | some r =>
      rw [execute_insert now s named, execute_insert now' t named]
      cases r.entry? sql with
      | none => rfl
      | some entry =>
        have next := (same r (by simp [Classified.reads])).2
        simp only [insertedStep, next]
  | unknown => cases relation <;> simp only [execute, named]

/-- A run leaves in a relation what the statements leave there that are an INSERT on it, whatever
    else is in the run. So the outcome of a statement is the same after any two runs that have the
    same INSERTs on the relations that it reads: all other statements before it can be deleted, or
    others put in their place. Every statement but a SELECT on orders reads no relation but the
    one that it names. -/
theorem relations_isolated (s : Store) :
    (∀ (r : Relation) (run only : List Request),
      Request.texts only = insertsInto r (Request.texts run) →
        (s.serve run).SameIn (s.serve only) r) ∧
    (∀ (sql : String) (before other : List Request),
      (∀ r ∈ (classify sql).reads,
        insertsInto r (Request.texts before) = insertsInto r (Request.texts other)) →
      ∀ now now', (execute now sql (s.serve before)).outcome.undated =
        (execute now' sql (s.serve other)).outcome.undated) ∧
    ∀ sql, classify sql ≠ ⟨.select, some .orders⟩ →
      (classify sql).reads = (classify sql).relation.toList := by
  refine ⟨?_, ?_, ?_⟩
  · intro r run only filtered
    apply served_same
    rw [filtered, inserts_of_inserts]
  · intro sql before other inserts now now'
    exact outcome_same (fun r read => served_same s (inserts r read)) now now'
  · intro sql others
    generalize classify sql = c at others
    obtain ⟨kind, relation⟩ := c
    cases kind with
    | select =>
      cases relation with
      | none => rfl
      | some r =>
        cases r with
        | orders => exact absurd rfl others
        | _ => rfl
    | _ => rfl

def insertsAmongReads : List Request :=
  [⟨"INSERT INTO users VALUES ('eve', 'e@x', 'pw', 'user')", .all, default⟩,
   ⟨"DROP TABLE users", .run, default⟩,
   ⟨"INSERT INTO orders VALUES (5, 5, 1, 2)", .get, default⟩]

def insertsAfterProduct : List Request :=
  [⟨"INSERT INTO products VALUES ('from users', 'y', 1, 'z', 2)", .execute, default⟩,
   ⟨"INSERT INTO users VALUES ('eve', 'e@x', 'pw', 'user')", .run, .epoch⟩,
   ⟨"INSERT INTO orders VALUES (5, 5, 1, 2)", .run, .epoch⟩]

/-- A SELECT on users returns the same after both. One on orders does not: the order refers to the
    product that only one of them adds. -/
theorem users_isolated_from_products :
    insertsInto .users (Request.texts insertsAmongReads) =
      insertsInto .users (Request.texts insertsAfterProduct) ∧
    insertsInto .orders (Request.texts insertsAmongReads) =
      insertsInto .orders (Request.texts insertsAfterProduct) ∧
    (execute default "SELECT * FROM users WHERE id = 5"
        ((Store.seeded default).serve insertsAmongReads)).outcome.undated =
      (execute .epoch "SELECT * FROM users WHERE id = 5"
        ((Store.seeded default).serve insertsAfterProduct)).outcome.undated ∧
    (execute default "SELECT * FROM orders"
        ((Store.seeded default).serve insertsAmongReads)).outcome.undated ≠
      (execute default "SELECT * FROM orders"
        ((Store.seeded default).serve insertsAfterProduct)).outcome.undated := by
  have users : insertsInto .users (Request.texts insertsAmongReads) =
      insertsInto .users (Request.texts insertsAfterProduct) := by decide +kernel
  have reads : (classify "SELECT * FROM users WHERE id = 5").reads = [.users] := by decide +kernel
  refine ⟨users, by decide +kernel, ?_, by decide +kernel⟩
  apply (relations_isolated (.seeded default)).2.1
  intro r read
  rw [reads, List.mem_singleton] at read
  rw [read, users]

end InjectionLab
