import InjectionLab.Proofs.InsertText
import InjectionLab.Proofs.Lookup

/-!
Orders as they are read. An order keeps the numbers that its INSERT gave, and every SELECT on orders
shows beside it the names of the user and the product that stand at these positions when it is read.
A name that is there stays, and a missing one appears with the row that takes its position.
-/
namespace InjectionLab

def nameAt {α : Type} (name : α → String) (rows : List α) (position : Int64) : String :=
  ((rowAt rows position).map name).getD Store.unknownName

namespace Store

def usernameAt (s : Store) : Int64 → String := nameAt User.username s.users.rows

def productNameAt (s : Store) : Int64 → String := nameAt Product.name s.products.rows

end Store

/-! Names -/

section Name
variable {α : Type} {key : α → Int64} {t : Table α} (name : α → String)

theorem name_by_position (numbered : t.Numbered key) (id : Int64) :
    ((t.rows.find? (key · == id)).map name).getD Store.unknownName = nameAt name t.rows id := by
  rw [find_by_id numbered, nameAt]

theorem name_settled {rows later : List α} (kept : rows <+: later) {position : Int64}
    (assigned : position.toInt ≤ rows.length) :
    nameAt name later position = nameAt name rows position := by
  rw [nameAt, row_at_settled kept assigned, nameAt]

theorem name_resolved (numbered : t.Numbered key) (make : Int64 → α) :
    nameAt name (t.append make).rows t.nextId = name (make t.nextId) := by
  rw [nameAt, appended_row_kept numbered List.prefix_rfl]
  rfl

end Name

/-! The INSERT of an order -/

section Insert
variable {a b q : Int64} {t : String} {negative : Bool} {size : ℚ}
  (priced : Numeral.Denotes t.toList negative size)
include priced

theorem order_takes : Relation.orders.Takes [toString a, toString b, toString q, t] :=
  .cons (written_fits a) (.cons (written_fits b) (.cons (written_fits q)
    (.cons (Numeral.amount_is_numeral priced) .nil)))

theorem order_insert_mentions (target : Relation) :
    target.MentionedIn "into"
        (Relation.orders.insertText [toString a, toString b, toString q, t]).toList ↔
      target = .orders := by
  rw [insert_mentions (order_takes priced)]
  simp [Relation.literals]

theorem order_classified :
    classify (Relation.orders.insertText [toString a, toString b, toString q, t]) =
      ⟨.insert, some .orders⟩ := by
  refine insert_classified ((order_insert_mentions priced _).mpr rfl) ?_
  intro other earlier mentioned
  rw [(order_insert_mentions priced other).mp mentioned] at earlier
  exact Nat.lt_irrefl _ earlier

theorem order_inserted (now : Timestamp) (s : Store) : ∃ total, total.Nearest negative size ∧
    execute now (Relation.orders.insertText [toString a, toString b, toString q, t]) s =
      insertedStep .orders s.orders.nextId (s.appendOrder now ⟨a, b, q, total⟩) := by
  obtain ⟨total, read, nearest⟩ := Numeral.amount_denoted priced
  have found := insert_found (order_takes priced (a := a) (b := b) (q := q))
  have found : OrderValues.pattern.find?
      (Relation.orders.insertText [toString a, toString b, toString q, t]).toList =
      some [(toString a).toList, (toString b).toList, (toString q).toList, t.toList] := found
  refine ⟨total, nearest, ?_⟩
  simp only [execute, order_classified priced, insertOrder, orderValues, found, read, written_read]
  rfl

end Insert

/-! Reading -/

theorem appended_order_seen {before : Store} (reachable : before.Reachable) (now : Timestamp)
    (v : OrderValues) (actions : List Action)
    (room : ∀ r, (((before.appendOrder now v).after actions).ids r).length < Int64.maxValue.toInt) :
    let later := (before.appendOrder now v).after actions
    before.orders.nextId.toInt = before.orders.rows.length + 1 ∧
      rowAt later.orderViews before.orders.nextId = some
        ⟨⟨before.orders.nextId, v.userId, v.productId, v.quantity, v.totalPrice, "pending", now⟩,
          later.usernameAt v.userId, later.productNameAt v.productId⟩ := by
  intro later
  have kept := (rows_prefix_after (before.appendOrder now v) actions).2.2
  have shorter := append_shorter kept
  have bound := room .orders
  simp only [Store.ids, List.length_map] at bound
  have numbered := orders_numbered reachable (by omega)
  have reached : later.Reachable :=
    reachable_after (reachable_after reachable [.append now (.order v)]) actions
  have users := users_numbered reached (by simpa [Store.ids] using room .users)
  have products := products_numbered reached (by simpa [Store.ids] using room .products)
  refine ⟨numbered.next, ?_⟩
  have username := name_by_position User.username users v.userId
  have productName := name_by_position Product.name products v.productId
  rw [Store.orderViews, row_at_map, appended_row_kept numbered kept]
  simp only [Option.map_some, Store.usernameOf, Store.productNameOf, username, productName,
    Store.usernameAt, Store.productNameAt]

theorem select_orders_views {sql : String} (select : classify sql = ⟨.select, some .orders⟩)
    (now : Timestamp) (s : Store) :
    (execute now sql s).outcome = .rows (s.orderViews.map .order) ∧
      s.orderViews.map OrderView.order = s.orders.rows := by
  constructor
  · simp only [execute, select, selectOrders]
  · simp [Store.orderViews, Function.comp_def]

/-- The INSERT of an order with any three integers of 64 bits and a price reports an identifier, and
    after any history that 64 bits can count every SELECT on orders shows all of them in stored
    order, this one under its identifier, as it was given, with the names at the positions that it
    refers to. Names that are there stay as they are, and a missing one appears as soon as its
    position is taken. -/
theorem inserted_order_seen {before : Store} (reachable : before.Reachable) (a b q : Int64)
    {t : String} {negative : Bool} {size : ℚ} (priced : Numeral.Denotes t.toList negative size)
    (now : Timestamp) (actions : List Action)
    (room : ∀ r, (((execute now (Relation.orders.insertText [toString a, toString b, toString q, t])
      before).store.after actions).ids r).length < Int64.maxValue.toInt) :
    let step :=
      execute now (Relation.orders.insertText [toString a, toString b, toString q, t]) before
    let later := step.store.after actions
    ∃ (id : Int64) (total : Amount), id.toInt = before.orders.rows.length + 1 ∧
      total.Nearest negative size ∧ step.outcome = .mutation ⟨id, 1⟩ ∧
      (∀ now' sql, classify sql = ⟨.select, some .orders⟩ → ∃ views : List OrderView,
        (execute now' sql later).outcome = .rows (views.map .order) ∧
        views.map OrderView.order = later.orders.rows ∧
        rowAt views id = some ⟨⟨id, a, b, q, total, "pending", now⟩,
          later.usernameAt a, later.productNameAt b⟩) ∧
      (∀ more, (a.toInt ≤ later.users.rows.length →
          (later.after more).usernameAt a = later.usernameAt a) ∧
        (b.toInt ≤ later.products.rows.length →
          (later.after more).productNameAt b = later.productNameAt b)) ∧
      (∀ now' user, later.users.nextId = a →
        (later.add now' (.user user)).usernameAt a = user.username) ∧
      ∀ now' product, later.products.nextId = b →
        (later.add now' (.product product)).productNameAt b = product.name := by
  intro step later
  obtain ⟨total, nearest, inserted⟩ := order_inserted (a := a) (b := b) (q := q) priced now before
  have reached : later.Reachable := reachable_after (reachable_execute reachable now _) actions
  have users := users_numbered reached (by simpa [Store.ids] using room .users)
  have products := products_numbered reached (by simpa [Store.ids] using room .products)
  have same : later = (before.appendOrder now ⟨a, b, q, total⟩).after actions :=
    congrArg (fun s : Step => s.store.after actions) inserted
  obtain ⟨number, seen⟩ := appended_order_seen reachable now ⟨a, b, q, total⟩ actions (same ▸ room)
  rw [← same] at seen
  have reported : step.outcome = .mutation ⟨before.orders.nextId, 1⟩ :=
    congrArg Step.outcome inserted
  refine ⟨before.orders.nextId, total, number, nearest, reported, ?_, ?_, ?_, ?_⟩
  · intro now' sql select
    obtain ⟨rows, whole⟩ := select_orders_views select now' later
    exact ⟨later.orderViews, rows, whole, seen⟩
  · intro more
    obtain ⟨usersKept, productsKept, _⟩ := rows_prefix_after later more
    exact ⟨name_settled User.username usersKept, name_settled Product.name productsKept⟩
  · intro now' user next
    rw [← next]
    exact name_resolved User.username users _
  · intro now' product next
    rw [← next]
    exact name_resolved Product.name products _

/-- An order for the fifth user, who comes later, and for a product that never can be. -/
theorem forward_reference_resolved :
    let text := Relation.orders.insertText
      [toString (5 : Int64), toString (-1 : Int64), toString (2 : Int64), "1"]
    let history := [Action.append default (.user ⟨"late", "l@x", "pw", "user"⟩)]
    let step := execute default text (.seeded default)
    ∃ (id : Int64) (total : Amount), id.toInt = 1 ∧ total.Nearest false 1 ∧
      step.outcome = .mutation ⟨id, 1⟩ ∧ ∃ views : List OrderView,
        (execute default "SELECT * FROM orders WHERE id = 7" (step.store.after history)).outcome =
          .rows (views.map .order) ∧
        rowAt views id = some ⟨⟨id, 5, -1, 2, total, "pending", default⟩, "late", "unknown"⟩ := by
  intro text history step
  have fresh : (Store.seeded default).Reachable := ⟨_, [], Or.inr ⟨default, rfl⟩, rfl⟩
  have rows : (Store.seeded default).orders.rows.length = 0 := by decide +kernel
  have counts : ((step.store.after history).ids .users).length = 5 ∧
      ((step.store.after history).ids .products).length = 4 ∧
      ((step.store.after history).ids .orders).length = 1 := by decide +kernel
  have room : ∀ r, ((step.store.after history).ids r).length < Int64.maxValue.toInt := by
    intro r
    cases r
    · rw [counts.1]
      decide
    · rw [counts.2.1]
      decide
    · rw [counts.2.2]
      decide
  have priced : Numeral.Denotes "1".toList false 1 := by
    have size := Numeral.Size.whole (show Numeral.Plain ['1'] from ⟨by simp, by simp⟩)
    have value : Numeral.natural ['1'] = 1 := by decide
    rw [value] at size
    exact .positive (by exact_mod_cast size)
  obtain ⟨id, total, number, nearest, reported, seen, _⟩ :=
    inserted_order_seen fresh 5 (-1) 2 priced default history room
  have names : (step.store.after history).usernameAt 5 = "late" ∧
      (step.store.after history).productNameAt (-1) = "unknown" := by decide +kernel
  rw [rows] at number
  obtain ⟨views, shown, _, view⟩ := seen default "SELECT * FROM orders WHERE id = 7"
    (by decide +kernel)
  rw [names.1, names.2] at view
  exact ⟨id, total, number, nearest, reported, views, shown, view⟩

end InjectionLab
