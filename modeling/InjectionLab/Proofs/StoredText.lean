import InjectionLab.Proofs.RowRoundTrip

/-!
What statements can store. The texts of a row come out of the literals of some INSERT, so they are
never empty and hold no quote; a text of a product does not even mention the users, for its INSERT
would then have gone to them. So every stored text could be sent again as a literal of its relation.
-/
namespace InjectionLab
open Text

/-- A text that can stand in a literal without sending the INSERT of a product to the users. -/
def ProductText (text : String) : Prop :=
  Quotable text ∧ ¬ Relation.users.NamedIn "into" (lowercase text.toList)

/-- The texts of a row could be sent again, and an order has the status that it starts with. -/
def StoredRow.Writable : StoredRow → Prop
  | user u => ∀ text ∈ [u.username, u.email, u.password, u.role], Quotable text
  | product p => ∀ text ∈ [p.name, p.description, p.category], ProductText text
  | order o => o.status = "pending"

/-! Literals of a statement -/

theorem list_text {r : Relation} {sql : String} {before : List Char} {l : LiteralList}
    (listed : r.ListAt sql before l) {token : List Char}
    (member : (Literal.text, token) ∈ r.literals.zip l.tokens) :
    Quotable (String.ofList token) ∧ ∀ {keyword : String} {target : Relation},
      isKeyword keyword.toList = true → target.MentionedIn keyword token →
        target.MentionedIn keyword sql.toList := by
  obtain ⟨derived, after, split⟩ := listed
  have tokens : List.Forall₂ Literal.Fits r.literals l.tokens := by
    rw [LiteralList.tokens, List.forall₂_map_right_iff]
    exact derived.items.imp fun _ _ fit => fit.token
  have fits : Literal.text.Fits token := (List.forall₂_iff_zip.mp tokens).2 member
  refine ⟨⟨?_, by simpa using fits.2⟩, fun valid mentioned => ?_⟩
  · intro empty
    exact fits.1 (by simpa using empty)
  · have here := (list_mentions valid derived before).mpr (Or.inr ⟨_, member, rfl, mentioned⟩)
    rw [split]
    exact mentioned_infix here (List.prefix_append _ _).isInfix

theorem written_writable {sql : String} {entry : Entry} (written : written? sql = some entry)
    (id : Int64) (now : Timestamp) : (entry.row id now).Writable := by
  obtain ⟨before, l, listed, holds⟩ := written_holds written
  have texts := fun token => @list_text _ _ _ _ listed token
  generalize l.tokens = tokens at holds texts
  cases holds with
  | user =>
    intro text member
    simp only [List.mem_cons, List.not_mem_nil, or_false] at member
    rcases member with rfl | rfl | rfl | rfl <;>
      exact (texts _ (by simp [Entry.relation, Relation.literals])).1
  | @product name description price category stock =>
    -- The statement mentions no users, or it would have been an INSERT on them.
    have unmentioned : ¬ Relation.users.MentionedIn "into" sql.toList :=
      earlier_unmentioned rfl (written_relation written)
        (show Relation.all.idxOf .users < Relation.all.idxOf .products by decide)
    have clean : ∀ token, (Literal.text, token) ∈ Relation.products.literals.zip
        [name, description, price, category, stock] → ProductText (String.ofList token) := by
      intro token member
      obtain ⟨quotable, mentions⟩ := texts token member
      refine ⟨quotable, fun named => unmentioned (mentions into_keyword ?_)⟩
      rwa [String.toList_ofList, ← mentioned_iff_named into_keyword] at named
    intro text member
    simp only [List.mem_cons, List.not_mem_nil, or_false] at member
    rcases member with rfl | rfl | rfl <;> exact clean _ (by simp [Relation.literals])
  | order user product count priced nearest => rfl

/-! Rows of a run -/

theorem seed_users_quotable : ∀ v ∈ Store.seedUsers,
    ∀ text ∈ [v.username, v.email, v.password, v.role], Quotable text := by
  decide +kernel

theorem seed_products_clean : ∀ v ∈ Store.seedProducts,
    ∀ text ∈ [v.name, v.description, v.category], ProductText text := by
  simp only [ProductText, ← named_iff_occurs]
  decide +kernel

theorem start_row_writable {start : Store} (fresh : start = .empty ∨ ∃ now, start = .seeded now)
    {r : Relation} {row : StoredRow} (stored : row ∈ start.stored r) : row.Writable := by
  rcases fresh with rfl | ⟨now, rfl⟩
  · cases r <;> cases stored
  · have users := seed_users_quotable
    have products := seed_products_clean
    simp only [Store.seedUsers, Store.seedProducts, List.forall_mem_cons] at users products
    cases r with
    | users =>
      obtain ⟨u, member, rfl⟩ := List.mem_map.mp stored
      fin_cases member <;> simp_all [StoredRow.Writable]
    | products =>
      obtain ⟨p, member, rfl⟩ := List.mem_map.mp stored
      fin_cases member <;> simp_all [StoredRow.Writable]
    | orders => cases stored

/-- Whatever statements are run on a fresh store and through whatever calls, every text of a user or
    a product is non-empty and holds no quote, no text of a product names the users after INTO in
    lower case, and every order is pending. -/
theorem stored_rows_writable {start : Store} (fresh : start = .empty ∨ ∃ now, start = .seeded now)
    (requests : List Request) (r : Relation) :
    ∀ row ∈ (start.serve requests).stored r, row.Writable := by
  intro row stored
  rcases row_of_run stored with old | ⟨request, _, entry, id, written, _, rfl⟩
  · exact start_row_writable fresh old
  · exact written_writable written id request.now

/-- Literals that come close to what is not allowed, a list in a wrong place, and an INSERT on
    products that its description sends to the users. -/
theorem close_literals_writable :
    let requests : List Request :=
      [⟨"INSERT INTO products VALUES ('from users', 'into_users', 1, 'INTO  orders', 2)", .get,
          default⟩,
        ⟨"insert into users; values (\"'', 'a', 'b', 'c', 'd') VALUES (' ', '\"', '--', '\n')", .all,
          default⟩,
        ⟨"INSERT INTO products VALUES ('x', 'Into\tUsers', 1, 'y', 2)", .run, default⟩,
        ⟨"INSERT INTO orders VALUES (1, 2, 3, 4)", .execute, default⟩]
    let s := (Store.seeded default).serve requests
    s.counts = ⟨5, 5, 1⟩ ∧ ∀ r, ∀ row ∈ s.stored r, row.Writable := by
  intro requests s
  exact ⟨by decide +kernel, fun r => stored_rows_writable (Or.inr ⟨default, rfl⟩) requests r⟩

end InjectionLab
