import InjectionLab.Execution
import InjectionLab.Proofs.Text.Search
import Mathlib.Data.List.Basic

/-!
Overriding a SELECT. A SELECT on a recognised relation that ` OR 1=1` and any text are appended to
is a SELECT on a recognised relation again, and returns all of it whatever its clauses ask for.
-/
namespace InjectionLab
open Text

/-! Lower case of text put together -/

theorem starts_cased_before_break {c : Char} (unignorable : isIgnorable c = false)
    (uncased : isCased c = false) (text rest : List Char) :
    startsCased (text ++ c :: rest) = startsCased text := by
  induction text with
  | nil => simp [startsCased, unignorable, uncased]
  | cons d text ih =>
    simp only [startsCased, List.cons_append, List.dropWhile_cons] at ih ⊢
    split
    · exact ih
    · rfl

/-- A character that is neither cased nor ignorable hides what follows it from every sigma. -/
theorem lowercase_after_break {c : Char} (unignorable : isIgnorable c = false)
    (uncased : isCased c = false) (before text rest : List Char) :
    lowercaseAfter before (text ++ c :: rest) =
      lowercaseAfter before text ++ lowercaseAfter (text.reverse ++ before) (c :: rest) := by
  induction text generalizing before with
  | nil => rfl
  | cons d text ih =>
    simp only [List.cons_append, List.reverse_cons, List.append_assoc, lowercaseAfter,
      List.nil_append, starts_cased_before_break unignorable uncased]
    rw [ih]
    simp [lowercaseAfter]

theorem lowered_prefix {sql added : String} {rest : List Char} (starts : added.toList = ' ' :: rest)
    (nonempty : lowered sql ≠ []) : lowered sql <+: lowered (sql ++ added) := by
  have front := lowercase_after_break (by decide +kernel : isIgnorable ' ' = false)
    (by decide +kernel : isCased ' ' = false) [] sql.toList rest
  simp only [lowered, trimStart, lowercase, String.toList_append, starts] at nonempty ⊢
  rw [front, List.dropWhile_append]
  simp [List.isEmpty_iff, nonempty]

/-! Classification -/

theorem kind_select_iff (text : List Char) : kindOf text = .select ↔ "select".toList <+: text := by
  rw [← Pattern.word_read_iff]
  simp only [kindOf]
  split
  · simp_all
  · split <;> simp_all

theorem classify_select_iff {sql : String} {r : Relation} :
    classify sql = ⟨.select, some r⟩ ↔
      "select".toList <+: lowered sql ∧ namedRelation? "from" (lowered sql) = some r := by
  rw [← kind_select_iff]
  simp only [classify, Classified.mk.injEq]
  constructor
  · rintro ⟨kind, named⟩
    exact ⟨kind, by simpa [kind, Kind.keyword?] using named⟩
  · rintro ⟨kind, named⟩
    exact ⟨kind, by simpa [kind, Kind.keyword?] using named⟩

theorem found_no_later {α : Type} [DecidableEq α] {p q : α → Bool} {xs : List α} {x : α}
    (weaker : ∀ y, p y = true → q y = true) (found : xs.find? p = some x) :
    ∃ y, xs.find? q = some y ∧ xs.idxOf y ≤ xs.idxOf x := by
  induction xs with
  | nil => simp at found
  | cons a rest ih =>
    by_cases first : q a = true
    · exact ⟨a, by simp [first], by simp⟩
    · have skipped : ¬ p a = true := fun h => first (weaker a h)
      rw [List.find?_cons_of_neg skipped] at found
      obtain ⟨y, later, order⟩ := ih found
      have other : ∀ z, q z = true → a ≠ z := by
        rintro z holds rfl
        exact first holds
      have hx : a ≠ x := other x (weaker x (List.find?_some found))
      have hy : a ≠ y := other y (List.find?_some later)
      refine ⟨y, by rw [List.find?_cons_of_neg first, later], ?_⟩
      rw [List.idxOf_cons_ne rest hy, List.idxOf_cons_ne rest hx]
      exact Nat.succ_le_succ order

theorem named_relation_prefix {keyword : String} {text longer : List Char} {r : Relation}
    (front : text <+: longer) (named : namedRelation? keyword text = some r) :
    ∃ r', namedRelation? keyword longer = some r' ∧
      Relation.all.idxOf r' ≤ Relation.all.idxOf r := by
  apply found_no_later _ named
  intro relation occurs
  rw [named_iff_occurs] at occurs ⊢
  exact named_in_infix front.isInfix occurs

theorem select_append {sql added : String} {r : Relation} {rest : List Char}
    (starts : added.toList = ' ' :: rest) (select : classify sql = ⟨.select, some r⟩) :
    ∃ r', classify (sql ++ added) = ⟨.select, some r'⟩ ∧
      Relation.all.idxOf r' ≤ Relation.all.idxOf r := by
  obtain ⟨keyword, named⟩ := classify_select_iff.mp select
  have nonempty : lowered sql ≠ [] := by
    intro empty
    simp [empty] at keyword
  have front := lowered_prefix starts nonempty
  obtain ⟨r', named', order⟩ := named_relation_prefix front named
  exact ⟨r', classify_select_iff.mpr ⟨keyword.trans front, named'⟩, order⟩

/-! Triggers -/

theorem tautology_fires {sql : String} (written : "1=1".toList <:+: normalized sql) :
    (detectInjection sql).isSome ∧ (detectTautology sql).isSome := by
  have fires : Trigger.firesOn (normalized sql) .tautology = true :=
    (Pattern.word_occurs_iff "1=1" _).mpr written
  simp only [detectInjection, detectTautology, List.find?_isSome]
  exact ⟨⟨.tautology, by decide, fires⟩, ⟨.tautology, by decide, fires⟩⟩

theorem normalized_append (s t : String) : normalized (s ++ t) = normalized s ++ normalized t := by
  simp [normalized, uppercase]

theorem appended_tautology_written (s t : String) :
    "1=1".toList <:+: normalized (s ++ (" OR 1=1" ++ t)) := by
  have added : normalized " OR 1=1" = " OR ".toList ++ "1=1".toList := by decide +kernel
  rw [normalized_append, normalized_append, added]
  exact ⟨normalized s ++ " OR ".toList, normalized t, by simp⟩

/-! Rows -/

def Store.rowsOf (s : Store) : Relation → List Row
  | .users => s.users.rows.map .user
  | .products => s.products.rows.map .product
  | .orders => s.orderViews.map .order

theorem selected_sublist {α : Type} (record : α → Record) (trigger : Option Trigger)
    (clauses : List Clause) (rows : List α) :
    (selected record trigger clauses rows).Sublist rows := by
  unfold selected
  split
  · exact List.Sublist.refl rows
  · split
    · exact List.filter_sublist
    · exact List.Sublist.refl rows

theorem select_sublist {sql : String} {r : Relation} (now : Timestamp) (store : Store)
    (select : classify sql = ⟨.select, some r⟩) :
    (execute now sql store).outcome.rowList.Sublist (store.rowsOf r) := by
  cases r <;> simp only [execute, select]
  · exact (selected_sublist _ _ _ _).map _
  · exact (selected_sublist _ _ _ _).map _
  · exact List.Sublist.refl _

theorem tautology_returns_all {sql : String} {r : Relation} (now : Timestamp) (store : Store)
    (select : classify sql = ⟨.select, some r⟩) (written : "1=1".toList <:+: normalized sql) :
    (execute now sql store).store = store ∧
      (execute now sql store).outcome = .rows (store.rowsOf r) := by
  obtain ⟨injection, tautology⟩ := tautology_fires written
  obtain ⟨first, injection⟩ := Option.isSome_iff_exists.mp injection
  obtain ⟨second, tautology⟩ := Option.isSome_iff_exists.mp tautology
  cases r <;> simp only [execute, select]
  · simp [selectUsers, injection, selected, Store.rowsOf]
  · simp [selectProducts, tautology, selected, Store.rowsOf]
  · exact ⟨rfl, rfl⟩

/-- ` OR 1=1` and any further text make a SELECT on a relation return all of that relation, or of
    one that is recognised before it, in stored order. The rows of the bare SELECT are among them,
    in the same order, if the relation is the same. -/
theorem appended_tautology_overrides {s : String} {r : Relation}
    (select : classify s = ⟨.select, some r⟩) (t : String) (now : Timestamp) (store : Store) :
    ∃ r', classify (s ++ " OR 1=1" ++ t) = ⟨.select, some r'⟩ ∧
      Relation.all.idxOf r' ≤ Relation.all.idxOf r ∧
      (execute now (s ++ " OR 1=1" ++ t) store).store = store ∧
      (execute now (s ++ " OR 1=1" ++ t) store).outcome = .rows (store.rowsOf r') ∧
      (r' = r → (execute now s store).outcome.rowList.Sublist (store.rowsOf r')) := by
  rw [String.append_assoc]
  have starts : (" OR 1=1" ++ t).toList = ' ' :: ("OR 1=1".toList ++ t.toList) := by simp
  obtain ⟨r', select', order⟩ := select_append starts select
  obtain ⟨kept, all⟩ := tautology_returns_all now store select' (appended_tautology_written s t)
  refine ⟨r', select', order, kept, all, ?_⟩
  rintro rfl
  exact select_sublist now store select

/-- The appended text may name another relation and ask for a single row. -/
theorem appended_tautology_with_clauses :
    classify "SELECT name FROM products WHERE id = 2" = ⟨.select, some .products⟩ ∧
    ∃ r', classify ("SELECT name FROM products WHERE id = 2" ++ " OR 1=1" ++
          " AND role = 'x' FROM users") = ⟨.select, some r'⟩ ∧
      Relation.all.idxOf r' ≤ Relation.all.idxOf .products ∧
      (execute default ("SELECT name FROM products WHERE id = 2" ++ " OR 1=1" ++
          " AND role = 'x' FROM users") (.seeded default)).store = .seeded default ∧
      (execute default ("SELECT name FROM products WHERE id = 2" ++ " OR 1=1" ++
          " AND role = 'x' FROM users") (.seeded default)).outcome =
        .rows ((Store.seeded default).rowsOf r') ∧
      (r' = .products →
        (execute default "SELECT name FROM products WHERE id = 2"
          (.seeded default)).outcome.rowList.Sublist ((Store.seeded default).rowsOf r')) :=
  have select : classify "SELECT name FROM products WHERE id = 2" = ⟨.select, some .products⟩ := by
    decide +kernel
  ⟨select, appended_tautology_overrides select " AND role = 'x' FROM users" default
    (.seeded default)⟩

end InjectionLab
