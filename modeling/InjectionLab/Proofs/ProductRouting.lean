import InjectionLab.Proofs.InsertText
import InjectionLab.Proofs.Lookup

/-!
Where the INSERT of a product goes. It adds the product that its literals give, unless one of the
texts mentions the users: then it counts as an INSERT on users, its list has not the shape of a
user, and nothing happens.
-/
namespace InjectionLab
open Text

section Insert
variable {n d c p : String} (name : Quotable n) (description : Quotable d) (category : Quotable c)
  {negative : Bool} {size : ℚ} (priced : Numeral.Denotes p.toList negative size) (k : Int64)
include name description category priced

theorem product_takes : Relation.products.Takes [n, d, p, c, toString k] :=
  .cons (quotable_fits name) (.cons (quotable_fits description)
    (.cons (Numeral.amount_is_numeral priced) (.cons (quotable_fits category)
      (.cons (written_fits k) .nil))))

theorem product_read : ∃ price, price.Nearest negative size ∧
    productValues (Relation.products.insertText [n, d, p, c, toString k]) =
      some ⟨n, d, price, c, k⟩ := by
  obtain ⟨price, read, nearest⟩ := Numeral.amount_denoted priced
  have found := insert_found (product_takes name description category priced k)
  have found : ProductValues.pattern.find?
      (Relation.products.insertText [n, d, p, c, toString k]).toList =
      some [n.toList, d.toList, p.toList, c.toList, (toString k).toList] := found
  refine ⟨price, nearest, ?_⟩
  simp only [productValues, found, read, written_read, String.ofList_toList]
  rfl

theorem product_insert_mentions (target : Relation) :
    target.MentionedIn "into" (Relation.products.insertText [n, d, p, c, toString k]).toList ↔
      target = .products ∨ ∃ t ∈ [n, d, c], target.MentionedIn "into" t.toList := by
  rw [insert_mentions (product_takes name description category priced k)]
  simp [Relation.literals]

end Insert

/-- The INSERT of a product with any three texts that hold no quote, a price and a stock appends
    just that product and reports its identifier; but if a text mentions the users, in any case and
    within longer words, it is taken for an INSERT on users and changes and reports nothing. -/
theorem product_insert_routed {before : Store} (reachable : before.Reachable)
    (room : before.products.rows.length < Int64.maxValue.toInt) {n d c p : String}
    (name : Quotable n) (description : Quotable d) (category : Quotable c) {negative : Bool}
    {size : ℚ} (priced : Numeral.Denotes p.toList negative size) (k : Int64) (now : Timestamp) :
    let sql := Relation.products.insertText [n, d, p, c, toString k]
    let misrouted := ∃ t ∈ [n, d, c], Relation.users.MentionedIn "into" t.toList
    (misrouted ∧ classify sql = ⟨.insert, some .users⟩ ∧
      before.perform now sql .run = (.result ⟨0, 0⟩, before)) ∨
    (¬ misrouted ∧ ∃ (id : Int64) (price : Amount), id.toInt = before.products.rows.length + 1 ∧
      price.Nearest negative size ∧
      before.perform now sql .run = (.result ⟨id, 1⟩, { before with products :=
        ⟨before.products.rows ++ [⟨id, n, d, price, c, k, now⟩], id + 1⟩ })) := by
  intro sql misrouted
  have mentions := product_insert_mentions name description category priced k
  by_cases users : misrouted
  · have target : classify sql = ⟨.insert, some .users⟩ := by
      refine insert_classified ((mentions .users).mpr (Or.inr users)) ?_
      intro other earlier
      simp [Relation.all] at earlier
    -- Four texts need eight quotes and the statement has six.
    have unread : Relation.users.entry? sql = none :=
      richer_list_unread (product_takes name description category priced k) (by decide)
    refine Or.inl ⟨users, target, ?_⟩
    simp only [Store.perform, execute_insert now before target, unread]
    rfl
  · have target : classify sql = ⟨.insert, some .products⟩ := by
      refine insert_classified ((mentions .products).mpr (Or.inl rfl)) ?_
      intro other earlier
      have other_users : other = .users := by
        cases other <;> simp [Relation.all] at earlier ⊢
      rw [other_users, mentions, not_or]
      exact ⟨by decide, users⟩
    obtain ⟨price, nearest, read⟩ := product_read name description category priced k
    have entry : Relation.products.entry? sql = some (.product ⟨n, d, price, c, k⟩) := by
      simp only [Relation.entry?, sql, read, Option.map_some]
    refine Or.inr ⟨users, before.products.nextId, price, (products_numbered reachable room).next,
      nearest, ?_⟩
    simp only [Store.perform, execute_insert now before target, entry]
    rfl

/-- A text that names the users without the keyword does no harm. -/
theorem harmless_product_inserted :
    let sql := Relation.products.insertText
      ["from users", "inside\" users, INTO orders", "-0.10", ") VALUES (", toString (-3 : Int64)]
    ∃ (id : Int64) (price : Amount), id.toInt = 5 ∧ price.Nearest true (0 + 10 / 10 ^ 2) ∧
      (Store.seeded default).perform default sql .run = (.result ⟨id, 1⟩,
        { Store.seeded default with products := ⟨(Store.seeded default).products.rows ++
          [⟨id, "from users", "inside\" users, INTO orders", price, ") VALUES (", -3, default⟩],
          id + 1⟩ }) := by
  intro sql
  have fresh : (Store.seeded default).Reachable := ⟨_, [], Or.inr ⟨default, rfl⟩, rfl⟩
  have rows : (Store.seeded default).products.rows.length = 4 := by decide +kernel
  have room : ((Store.seeded default).products.rows.length : Int) < Int64.maxValue.toInt := by
    rw [rows]
    decide
  have whole : Numeral.Plain ['0'] := ⟨by simp, by simp⟩
  have decimals : Numeral.Plain ['1', '0'] := ⟨by simp, by simp⟩
  have priced : Numeral.Denotes "-0.10".toList true (0 + 10 / 10 ^ 2) := by
    have size := Numeral.Size.fraction whole decimals
    have values : Numeral.natural ['0'] = 0 ∧ Numeral.natural ['1', '0'] = 10 := by decide
    rw [values.1, values.2] at size
    exact .negative (by exact_mod_cast size)
  have other : ¬ ∃ t ∈ ["from users", "inside\" users, INTO orders", ") VALUES ("],
      Relation.users.MentionedIn "into" t.toList := by
    simp only [mentioned_iff_occurs into_keyword]
    decide +kernel
  have name : Quotable "from users" := by decide +kernel
  have description : Quotable "inside\" users, INTO orders" := by decide +kernel
  have category : Quotable ") VALUES (" := by decide +kernel
  obtain ⟨routed, _⟩ | ⟨_, id, price, number, nearest, appended⟩ :=
    product_insert_routed fresh room name description category priced (-3) default
  · exact absurd routed other
  · rw [rows] at number
    exact ⟨id, price, number, nearest, appended⟩

example : classify (Relation.products.insertText ["x", "printo\tUSERSpace", "1", "y", "2"]) =
    ⟨.insert, some .users⟩ := by decide +kernel

end InjectionLab
