import InjectionLab.Proofs.Json.Record
import InjectionLab.Proofs.OrderView
import InjectionLab.Proofs.Run
import InjectionLab.Proofs.Timestamp
import InjectionLab.Row.Document
import Mathlib

/-!
Stored rows written as JSON and read back. A row with a finite amount is read back as it was. An
infinite amount is written as null, which is no amount, so its row is refused. Such a row comes only
of an INSERT whose literal has no double near it, and every such INSERT leaves one.
-/
namespace InjectionLab

def Amount.isFinite : Amount → Bool
  | .finite _ => true
  | .infinite _ => false

namespace StoredRow

def relation : StoredRow → Relation
  | user _ => .users
  | product _ => .products
  | order _ => .orders

def createdAt : StoredRow → Timestamp
  | user row => row.createdAt
  | product row => row.createdAt
  | order row => row.createdAt

def isFinite : StoredRow → Bool
  | user _ => true
  | product row => row.price.isFinite
  | order row => row.totalPrice.isFinite

def toJson : StoredRow → Json
  | user row => row.toJson
  | product row => row.toJson
  | order row => row.toJson

end StoredRow

namespace Relation

def rowOfJson? (json : Json) : Relation → Option StoredRow
  | users => (User.ofJson? json).map .user
  | products => (Product.ofJson? json).map .product
  | orders => (Order.ofJson? json).map .order

def rowOfText? (r : Relation) (text : String) : Option StoredRow :=
  (Json.read? text.toList).bind fun json => r.rowOfJson? json

end Relation

def StoredRow.reread? (row : StoredRow) (write : Json → String) : Option StoredRow :=
  row.relation.rowOfText? (write row.toJson)

def StoredRow.ReadBack (row : StoredRow) : Prop :=
  row.reread? Json.compactText = some row ∧ row.reread? Json.prettyText = some row

def Numeral.TooLarge (token : List Char) : Prop :=
  ∃ negative size, Denotes token negative size ∧ overflowSize ≤ size

def LiteralList.TooLarge (literals : List Literal) (l : LiteralList) : Prop :=
  ∃ pair ∈ literals.zip l.tokens, pair.1 = .amount ∧ Numeral.TooLarge pair.2

/-- The statement writes to the relation, from a literal list whose amount is too large. -/
def Relation.OverflowedBy (r : Relation) (sql : String) : Prop :=
  ∃ entry before l, written? sql = some entry ∧ entry.relation = r ∧ r.ListAt sql before l ∧
    entry.Holds l.tokens ∧ l.TooLarge r.literals

/-! Documents of rows -/

theorem timestamp_read {t : Timestamp} (valid : t.valid = true) :
    Timestamp.ofJson? t.toJson = some t := by
  rw [Timestamp.ofJson?, Timestamp.toJson, Json.string?, Option.bind_some, String.toList_ofList,
    Timestamp.parse_text valid]

/-- Null stands for an infinity, but is no amount. -/
theorem amount_read (amount : Amount) :
    (Json.ofAmount amount).amount? = if amount.isFinite then some amount else none := by
  cases amount <;> rfl

theorem user_of_document {u : User} (dated : u.createdAt.valid = true) :
    User.ofJson? u.toJson = some u := by
  have fields : u.toJson.allFields? User.columns = some _ :=
    Json.all_fields_of_members (by simp)
  simp [User.ofJson?, fields, Json.int64_of_int64, Json.string?, timestamp_read dated]

theorem product_of_document {p : Product} (dated : p.createdAt.valid = true) :
    Product.ofJson? p.toJson = if p.price.isFinite then some p else none := by
  have fields : p.toJson.allFields? Product.columns = some _ :=
    Json.all_fields_of_members (by simp)
  cases finite : p.price.isFinite <;> simp [Product.ofJson?, fields, Json.int64_of_int64,
    Json.string?, timestamp_read dated, amount_read, finite]

theorem order_of_document {o : Order} (dated : o.createdAt.valid = true) :
    Order.ofJson? o.toJson = if o.totalPrice.isFinite then some o else none := by
  have fields : o.toJson.allFields? Order.columns = some _ :=
    Json.all_fields_of_members (by simp [Order.members])
  cases finite : o.totalPrice.isFinite <;> simp [Order.ofJson?, fields, Order.members,
    Json.int64_of_int64, Json.string?, timestamp_read dated, amount_read, finite]

theorem row_of_json {row : StoredRow} (dated : row.createdAt.valid = true) :
    row.relation.rowOfJson? row.toJson = if row.isFinite then some row else none := by
  cases row with
  | user u =>
    have read : User.ofJson? u.toJson = some u := user_of_document dated
    simp [StoredRow.relation, StoredRow.toJson, Relation.rowOfJson?, StoredRow.isFinite, read]
  | product p =>
    have read : Product.ofJson? p.toJson = _ := product_of_document dated
    simp only [StoredRow.relation, StoredRow.toJson, Relation.rowOfJson?, StoredRow.isFinite, read]
    rw [apply_ite (Option.map _)]
    rfl
  | order o =>
    have read : Order.ofJson? o.toJson = _ := order_of_document dated
    simp only [StoredRow.relation, StoredRow.toJson, Relation.rowOfJson?, StoredRow.isFinite, read]
    rw [apply_ite (Option.map _)]
    rfl

theorem user_bounded (u : User) : u.toJson.Bounded :=
  ⟨Json.int64_bounded u.id, trivial, trivial, trivial, trivial, trivial, trivial⟩

theorem product_bounded (p : Product) : p.toJson.Bounded :=
  ⟨Json.int64_bounded p.id, trivial, trivial, Json.amount_bounded p.price, trivial,
    Json.int64_bounded p.stock, trivial, trivial⟩

theorem order_bounded (o : Order) : Json.BoundedMembers o.members :=
  ⟨Json.int64_bounded o.id, Json.int64_bounded o.userId, Json.int64_bounded o.productId,
    Json.int64_bounded o.quantity, Json.amount_bounded o.totalPrice, trivial, trivial, trivial⟩

theorem stored_row_bounded (row : StoredRow) : row.toJson.Bounded := by
  cases row with
  | user u => exact user_bounded u
  | product p => exact product_bounded p
  | order o => exact order_bounded o

theorem row_reread {row : StoredRow} (dated : row.createdAt.valid = true) :
    row.reread? Json.compactText = (if row.isFinite then some row else none) ∧
      row.reread? Json.prettyText = if row.isFinite then some row else none := by
  have bounded := stored_row_bounded row
  constructor
  · rw [StoredRow.reread?, Relation.rowOfText?, Json.read_compact bounded,
      Option.bind_some, row_of_json dated]
  · rw [StoredRow.reread?, Relation.rowOfText?, Json.read_pretty bounded,
      Option.bind_some, row_of_json dated]

theorem read_back_iff {row : StoredRow} (dated : row.createdAt.valid = true) :
    row.ReadBack ↔ row.isFinite = true := by
  obtain ⟨compact, pretty⟩ := row_reread dated
  rw [StoredRow.ReadBack, compact, pretty]
  cases row.isFinite <;> simp

/-! Amounts of statements -/

theorem finite_of_nearest {amount : Amount} {negative : Bool} {size : ℚ}
    (nearest : amount.Nearest negative size) :
    amount.isFinite = false ↔ overflowSize ≤ size := by
  cases amount with
  | finite x => exact iff_of_false Bool.noConfusion (not_le.mpr nearest.2.1)
  | infinite sign => exact iff_of_true rfl nearest.2

theorem too_large_of_nearest {token : List Char} {amount : Amount} {negative : Bool} {size : ℚ}
    (denoted : Numeral.Denotes token negative size) (nearest : amount.Nearest negative size) :
    amount.isFinite = false ↔ Numeral.TooLarge token := by
  constructor
  · intro infinite
    exact ⟨negative, size, denoted, (finite_of_nearest nearest).mp infinite⟩
  · intro large
    obtain ⟨negative', size', denoted', overflow⟩ := large
    have read := (Numeral.amount_read_iff denoted).mpr nearest
    have nearest' := (Numeral.amount_read_iff denoted').mp read
    exact (finite_of_nearest nearest').mpr overflow

theorem holds_too_large {entry : Entry} {l : LiteralList} (holds : entry.Holds l.tokens)
    (id : Int64) (now : Timestamp) : (entry.row id now).isFinite = false ↔
      l.TooLarge entry.relation.literals := by
  rw [LiteralList.TooLarge]
  generalize l.tokens = tokens at holds
  cases holds with
  | user => simp [Entry.row, StoredRow.isFinite, Entry.relation, Relation.literals]
  | product priced nearest stocked =>
    simpa [Entry.row, StoredRow.isFinite, Entry.relation, Relation.literals] using
      too_large_of_nearest priced nearest
  | order user product count priced nearest =>
    simpa [Entry.row, StoredRow.isFinite, Entry.relation, Relation.literals] using
      too_large_of_nearest priced nearest

theorem written_holds {sql : String} {entry : Entry} (written : written? sql = some entry) :
    ∃ before l, entry.relation.ListAt sql before l ∧ entry.Holds l.tokens := by
  have read : entry.relation.entry? sql = some entry := by
    rw [← insert_writes (written_relation written), written]
  cases found : entry.relation.listPattern.find? sql.toList with
  | none =>
    rw [entry_unread found] at read
    cases read
  | some tokens =>
    obtain ⟨before, rest, split, fits, _⟩ := Text.Pattern.find_some_iff.mp found
    obtain ⟨l, after, derived, rfl, rfl⟩ := list_read_iff.mp fits
    refine ⟨before, l, ⟨derived, after, by rw [split, List.append_assoc]⟩, ?_⟩
    rcases entry_read derived found with ⟨_, unread⟩ | ⟨_, other, read', holds⟩
    · rw [unread] at read
      cases read
    · rw [read', Option.some.injEq] at read
      exact read ▸ holds

theorem overflowed_iff {sql : String} {entry : Entry} (written : written? sql = some entry)
    (id : Int64) (now : Timestamp) :
    (entry.row id now).isFinite = false ↔ entry.relation.OverflowedBy sql := by
  constructor
  · intro infinite
    obtain ⟨before, l, listed, holds⟩ := written_holds written
    exact ⟨entry, before, l, written, rfl, listed, holds, (holds_too_large holds id now).mp infinite⟩
  · intro overflowed
    obtain ⟨other, before, l, written', _, listed, holds, large⟩ := overflowed
    rw [written, Option.some.injEq] at written'
    subst written'
    exact (holds_too_large holds id now).mpr large

/-! Rows of a run -/

theorem row_of_run {s : Store} {requests : List Request} {r : Relation} {row : StoredRow}
    (stored : row ∈ (s.serve requests).stored r) :
    row ∈ s.stored r ∨ ∃ request ∈ requests, ∃ entry id, written? request.sql = some entry ∧
      entry.relation = r ∧ row = entry.row id request.now := by
  -- The induction is over the run, with the store left general.
  induction requests generalizing s with
  | nil => exact Or.inl stored
  | cons request rest ih =>
    have effect := execute_written request.now request.sql s
    rw [serve_cons] at stored
    rcases ih stored with before | ⟨later, member, made⟩
    · cases written : written? request.sql with
      | none =>
        simp only [written] at effect
        rw [effect.1] at before
        exact Or.inl before
      | some entry =>
        simp only [written] at effect
        rw [effect.1, stored_add] at before
        split at before
        · rename_i same
          rcases List.mem_append.mp before with old | new
          · exact Or.inl old
          · exact Or.inr ⟨request, by simp, entry, s.nextId r, written, same,
              List.mem_singleton.mp new⟩
        · exact Or.inl before
    · exact Or.inr ⟨later, List.mem_cons_of_mem request member, made⟩

theorem stored_kept (s : Store) (requests : List Request) (r : Relation) :
    s.stored r <+: (s.serve requests).stored r := by
  obtain ⟨users, products, orders⟩ := rows_prefix_after s (requests.map Request.action)
  cases r with
  | users => exact users.map StoredRow.user
  | products => exact products.map StoredRow.product
  | orders => exact orders.map StoredRow.order

theorem written_row_stored {s : Store} {requests : List Request} {request : Request}
    (member : request ∈ requests) {entry : Entry} (written : written? request.sql = some entry) :
    ∃ id, entry.row id request.now ∈ (s.serve requests).stored entry.relation := by
  induction requests generalizing s with
  | nil => cases member
  | cons first rest ih =>
    rw [serve_cons]
    rcases List.mem_cons.mp member with rfl | later
    · have effect := execute_written request.now request.sql s
      simp only [written] at effect
      refine ⟨s.nextId entry.relation, (stored_kept _ rest entry.relation).subset ?_⟩
      rw [effect.1, stored_add, if_pos rfl]
      simp
    · exact ih later

theorem seed_prices_finite : ∀ v ∈ Store.seedProducts, v.price.isFinite = true := by
  decide +kernel

theorem seed_row {now : Timestamp} {r : Relation} {row : StoredRow}
    (stored : row ∈ (Store.seeded now).stored r) :
    row.createdAt = now ∧ row.isFinite = true := by
  have prices := seed_prices_finite
  cases r with
  | users =>
    obtain ⟨u, member, rfl⟩ := List.mem_map.mp stored
    refine ⟨?_, rfl⟩
    fin_cases member <;> rfl
  | products =>
    obtain ⟨p, member, rfl⟩ := List.mem_map.mp stored
    simp only [Store.seedProducts, List.forall_mem_cons] at prices
    fin_cases member <;> simp_all [StoredRow.createdAt, StoredRow.isFinite]
  | orders => cases stored

/-- A fresh store and a clock that shows moments of the calendar. -/
structure Started (start : Store) (requests : List Request) : Prop where
  fresh : start = .empty ∨ ∃ now : Timestamp, now.valid = true ∧ start = .seeded now
  clock : ∀ request ∈ requests, request.now.valid = true

theorem start_row {start : Store} {requests : List Request} (started : Started start requests)
    {r : Relation} {row : StoredRow} (stored : row ∈ start.stored r) :
    row.createdAt.valid = true ∧ row.isFinite = true := by
  rcases started.fresh with rfl | ⟨now, valid, rfl⟩
  · cases r <;> cases stored
  · obtain ⟨created, finite⟩ := seed_row stored
    rw [created]
    exact ⟨valid, finite⟩

theorem row_created (entry : Entry) (id : Int64) (now : Timestamp) :
    (entry.row id now).createdAt = now := by
  cases entry <;> rfl

theorem run_row_dated {start : Store} {requests : List Request} (started : Started start requests)
    {r : Relation} {row : StoredRow} (stored : row ∈ (start.serve requests).stored r) :
    row.createdAt.valid = true := by
  rcases row_of_run stored with old | ⟨request, member, entry, id, _, _, rfl⟩
  · exact (start_row started old).1
  · rw [row_created]
    exact started.clock request member

/-- After a run every row is read back as it was, its amounts being read exactly, unless it holds
    an infinite amount, and then its text is refused. A relation holds such a row just if a
    statement of the run wrote an amount that is too large for a double. -/
theorem stored_rows_read_back {start : Store} {requests : List Request}
    (started : Started start requests) (r : Relation) :
    (∀ row ∈ (start.serve requests).stored r, ∀ write ∈ [Json.compactText, Json.prettyText],
      row.reread? write = if row.isFinite then some row else none) ∧
    ((∀ row ∈ (start.serve requests).stored r, row.ReadBack) ↔
      ∀ request ∈ requests, ¬ r.OverflowedBy request.sql) := by
  refine ⟨?_, ?_, ?_⟩
  · intro row stored write layout
    obtain ⟨compact, pretty⟩ := row_reread (run_row_dated started stored)
    rcases List.mem_cons.mp layout with rfl | layout
    · exact compact
    · rw [List.mem_singleton.mp layout]
      exact pretty
  · intro all request member overflowed
    obtain ⟨entry, before, l, written, rfl, rest⟩ := overflowed
    obtain ⟨id, stored⟩ := written_row_stored (s := start) member written
    have finite := (read_back_iff (run_row_dated started stored)).mp (all _ stored)
    have infinite := (overflowed_iff written id request.now).mpr
      ⟨entry, before, l, written, rfl, rest⟩
    rw [finite] at infinite
    cases infinite
  · intro none row stored
    rw [read_back_iff (run_row_dated started stored)]
    rcases row_of_run stored with old | ⟨request, member, entry, id, written, rfl, rfl⟩
    · exact (start_row started old).2
    · by_contra infinite
      rw [Bool.not_eq_true, overflowed_iff written] at infinite
      exact none request member infinite

/-- The least integer and a negative zero, in the store that starts a run. -/
theorem extreme_order_read_back :
    let requests : List Request :=
      [⟨"INSERT INTO orders VALUES (-9223372036854775808, 3, 0, -0.0)", .run, .epoch⟩]
    let s := (Store.seeded .epoch).serve requests
    Started (.seeded .epoch) requests ∧ s.counts = ⟨4, 4, 1⟩ ∧
      ∀ row ∈ s.stored .orders, row.reread? Json.compactText = some row := by
  intro requests s
  have started : Started (.seeded .epoch) requests := by
    refine ⟨Or.inr ⟨.epoch, by decide, rfl⟩, ?_⟩
    intro request member
    rw [List.mem_singleton.mp member]
    decide
  have orders : s.counts = ⟨4, 4, 1⟩ ∧ ∀ row ∈ s.stored .orders, row.isFinite = true := by
    decide +kernel
  refine ⟨started, orders.1, ?_⟩
  intro row stored
  have read := (stored_rows_read_back started .orders).1 row stored Json.compactText (by simp)
  rw [read, orders.2 row stored]
  rfl

def powerOfTen (zeros : Nat) : String := String.ofList ('1' :: List.replicate zeros '0')

theorem power_of_ten_denoted (zeros : Nat) :
    Numeral.Denotes (powerOfTen zeros).toList false (10 ^ zeros) := by
  have plain : Numeral.Plain ('1' :: List.replicate zeros '0') := by
    refine ⟨by simp, ?_⟩
    intro c member
    rcases List.mem_cons.mp member with rfl | zero
    · rfl
    · rw [List.eq_of_mem_replicate zero]
      rfl
  have value : Numeral.natural ('1' :: List.replicate zeros '0') = 10 ^ zeros := by
    rw [Numeral.natural, Nat.ofDigitChars_cons, Nat.ofDigitChars_replicate_zero]
    exact Nat.mul_one _
  have size := Numeral.Size.whole plain
  rw [value, Nat.cast_pow, Nat.cast_ofNat] at size
  rw [powerOfTen, String.toList_ofList]
  exact .positive size

theorem overflow_below_power : overflowSize ≤ 10 ^ 309 := by
  have whole : 2 ^ 1024 ≤ 10 ^ 309 := by decide +kernel
  have power : (2 : ℚ) ^ 1024 ≤ 10 ^ 309 := by exact_mod_cast whole
  have less : overflowSize ≤ 2 ^ 1024 := sub_le_self _ (by positivity)
  exact less.trans power

def orderFor (total : String) : String :=
  Relation.orders.insertText
    [toString (1 : Int64), toString (1 : Int64), toString (1 : Int64), total]

theorem order_stored {t : String} {negative : Bool} {size : ℚ}
    (priced : Numeral.Denotes t.toList negative size) (now : Timestamp) (s : Store) :
    ∃ id total, total.Nearest negative size ∧
      .order ⟨id, 1, 1, 1, total, "pending", now⟩ ∈
        (s.serve [⟨orderFor t, .run, now⟩]).stored .orders := by
  obtain ⟨total, nearest, inserted⟩ := order_inserted (a := 1) (b := 1) (q := 1) priced now s
  have grown : s.serve [⟨orderFor t, .run, now⟩] = s.add now (.order ⟨1, 1, 1, total⟩) :=
    congrArg Step.store inserted
  refine ⟨s.nextId .orders, total, nearest, ?_⟩
  have ordered : (Entry.order ⟨1, 1, 1, total⟩).relation = .orders := rfl
  rw [grown, stored_add, if_pos ordered]
  exact List.mem_append_right _ (List.mem_singleton_self _)

/-- A statement stores an order whose own text does not bring it back. -/
theorem huge_total_refused :
    ∃ row ∈ ((Store.seeded .epoch).serve [⟨orderFor (powerOfTen 309), .run, .epoch⟩]).stored .orders,
      row.reread? Json.compactText = none ∧ ¬ row.ReadBack := by
  obtain ⟨id, total, nearest, stored⟩ :=
    order_stored (power_of_ten_denoted 309) .epoch (.seeded .epoch)
  have infinite : total.isFinite = false := (finite_of_nearest nearest).mpr overflow_below_power
  have dated : (StoredRow.order ⟨id, 1, 1, 1, total, "pending", .epoch⟩).createdAt.valid = true := by
    show Timestamp.epoch.valid = true
    decide
  refine ⟨_, stored, ?_, ?_⟩
  · rw [(row_reread dated).1, StoredRow.isFinite, infinite]
    rfl
  · rw [read_back_iff dated, StoredRow.isFinite, infinite]
    exact Bool.false_ne_true

end InjectionLab
