import InjectionLab.Proofs.Override

/-!
Triggers in text put together. Each character has an upper-case form of its own, so the normalized
text of a part stands within that of the whole, and a trigger that fires on a part fires on the
whole: what is reported there is this trigger or one that is looked for earlier. The search for
tautologies is the first part of the whole search, and neither search tells one kind of quotes
from the other.
-/
namespace InjectionLab
open Text

/-! The first trigger -/

theorem unmatched_before {α : Type} [DecidableEq α] {test : α → Bool} {xs : List α} {x y : α}
    (found : xs.find? test = some x) (before : xs.idxOf y < xs.idxOf x) : test y = false := by
  induction xs with
  | nil => cases found
  | cons a rest ih =>
    by_cases first : test a = true
    · rw [List.find?_cons_of_pos first] at found
      obtain rfl := Option.some.inj found
      rw [List.idxOf_cons_self] at before
      omega
    · by_cases same : y = a
      · rw [same, Bool.eq_false_iff]
        exact first
      · rw [List.find?_cons_of_neg first] at found
        have other : x ≠ a := fun eq => first (eq ▸ List.find?_some found)
        rw [List.idxOf_cons_ne rest (Ne.symm same), List.idxOf_cons_ne rest (Ne.symm other)]
          at before
        exact ih found (by omega)

theorem first_match_iff {α : Type} [DecidableEq α] {test : α → Bool} {xs : List α} {x : α}
    (listed : x ∈ xs) : xs.find? test = some x ↔
      test x = true ∧ ∀ y, xs.idxOf y < xs.idxOf x → test y = false := by
  constructor
  · intro found
    exact ⟨List.find?_some found, fun y before => unmatched_before found before⟩
  · rintro ⟨matched, before⟩
    obtain ⟨y, found⟩ := Option.isSome_iff_exists.mp (List.find?_isSome.mpr ⟨x, listed, matched⟩)
    rcases Nat.lt_trichotomy (xs.idxOf y) (xs.idxOf x) with less | same | more
    · cases (before y less).symm.trans (List.find?_some found)
    · rw [found, (List.idxOf_inj (List.mem_of_find?_eq_some found)).mp same]
    · cases (unmatched_before found more).symm.trans matched

theorem fires_iff (trigger : Trigger) (text : List Char) :
    trigger.firesOn text = true ↔ trigger.text.toList <:+: text :=
  Pattern.word_occurs_iff trigger.text text

theorem injection_iff (sql : String) (trigger : Trigger) :
    detectInjection sql = some trigger ↔ trigger.text.toList <:+: normalized sql ∧
      ∀ earlier, Trigger.all.idxOf earlier < Trigger.all.idxOf trigger →
        ¬ earlier.text.toList <:+: normalized sql := by
  have listed : trigger ∈ Trigger.all := by cases trigger <;> decide
  rw [detectInjection, first_match_iff listed]
  simp only [← fires_iff, Bool.not_eq_true]

/-! Text around a statement -/

theorem fires_within {inner outer : List Char} (inside : inner <:+: outer) {trigger : Trigger}
    (fires : trigger.firesOn inner = true) : trigger.firesOn outer = true := by
  rw [fires_iff] at fires ⊢
  exact fires.trans inside

theorem normalized_within (before sql after : String) :
    normalized sql <:+: normalized (before ++ sql ++ after) := by
  rw [normalized_append, normalized_append]
  exact List.infix_append _ _ _

theorem injection_within {sql : String} {trigger : Trigger}
    (found : detectInjection sql = some trigger) (before after : String) :
    ∃ first, detectInjection (before ++ sql ++ after) = some first ∧
      Trigger.all.idxOf first ≤ Trigger.all.idxOf trigger := by
  apply found_no_later _ found
  intro other fires
  exact fires_within (normalized_within before sql after) fires

/-! Tautologies among the triggers -/

theorem first_in_front {α : Type} {kind test : α → Bool} {front back : List α}
    (inside : ∀ x ∈ front, kind x = true) (outside : ∀ x ∈ back, kind x = false) :
    ((front ++ back).filter kind).find? test = ((front ++ back).find? test).filter kind := by
  have kept : (front ++ back).filter kind = front := by
    rw [List.filter_append, List.filter_eq_self.mpr inside,
      List.filter_eq_nil_iff.mpr fun x member => by simp [outside x member], List.append_nil]
  rw [kept, List.find?_append]
  cases first : front.find? test with
  | some x => rw [Option.some_or, Option.filter_some, if_pos (inside x (List.mem_of_find?_eq_some first))]
  | none =>
    cases later : back.find? test with
    | none => rfl
    | some x =>
      have other := outside x (List.mem_of_find?_eq_some later)
      rw [Option.none_or, Option.filter_some, if_neg (by simp [other])]

theorem tautology_among_injections (sql : String) :
    detectTautology sql = (detectInjection sql).filter Trigger.isTautology := by
  unfold detectTautology detectInjection
  exact first_in_front (show ∀ x ∈ [Trigger.quotedTautology, .tautology], _ from by decide)
    (show ∀ x ∈ [Trigger.or, .union], _ from by decide)

theorem tautology_reported {sql : String} {trigger : Trigger} :
    detectTautology sql = some trigger ↔
      detectInjection sql = some trigger ∧ trigger.isTautology = true := by
  rw [tautology_among_injections, Option.filter_eq_some_iff]

theorem tautologies_first {first trigger : Trigger}
    (order : Trigger.all.idxOf first ≤ Trigger.all.idxOf trigger)
    (tautology : trigger.isTautology = true) : first.isTautology = true := by
  revert order tautology
  cases first <;> cases trigger <;> decide

theorem tautology_within {sql : String} {trigger : Trigger}
    (found : detectTautology sql = some trigger) (before after : String) :
    ∃ first, detectTautology (before ++ sql ++ after) = some first ∧
      Trigger.all.idxOf first ≤ Trigger.all.idxOf trigger := by
  obtain ⟨injection, tautology⟩ := tautology_reported.mp found
  obtain ⟨first, found, order⟩ := injection_within injection before after
  exact ⟨first, tautology_reported.mpr ⟨found, tautologies_first order tautology⟩, order⟩

/-! Quotes -/

def IsQuote (c : Char) : Prop := c = '\'' ∨ c = '"'

instance (c : Char) : Decidable (IsQuote c) := inferInstanceAs (Decidable (_ ∨ _))

/-- Strings that differ at most in which kind of quote stands where one stands. -/
def Requoted (s t : String) : Prop :=
  List.Forall₂ (fun c d => c = d ∨ IsQuote c ∧ IsQuote d) s.toList t.toList

instance (s t : String) : Decidable (Requoted s t) :=
  inferInstanceAs (Decidable (List.Forall₂ _ s.toList t.toList))

theorem quote_form {c : Char} (quote : IsQuote c) : (upperForm c).map singleQuote = ['\''] := by
  rcases quote with rfl | rfl <;> decide

theorem normalized_requoted {s t : String} (requoted : Requoted s t) : normalized s = normalized t := by
  unfold normalized uppercase
  unfold Requoted at requoted
  generalize s.toList = a at *
  generalize t.toList = b at *
  induction requoted with
  | nil => rfl
  | @cons c d _ _ same rest ih =>
    have forms : (upperForm c).map singleQuote = (upperForm d).map singleQuote := by
      rcases same with rfl | ⟨quote, quote'⟩
      · rfl
      · rw [quote_form quote, quote_form quote']
    simp only [List.flatMap_cons, List.map_append, forms, ih]

/-! Statements that a trigger overrides -/

theorem tautology_overrides {sql : String} {r : Relation} {trigger : Trigger}
    (select : classify sql = ⟨.select, some r⟩) (searched : r ≠ .orders)
    (found : detectTautology sql = some trigger) (now : Timestamp) (s : Store) :
    (execute now sql s).events = [.injectionDetected r trigger] ∧
      (execute now sql s).outcome = .rows (s.rowsOf r) := by
  have injection := (tautology_reported.mp found).1
  cases r with
  | users => simp [execute, select, selectUsers, injection, selected, selectionEvents, Store.rowsOf]
  | products =>
    simp [execute, select, selectProducts, found, selected, selectionEvents, Store.rowsOf]
  | orders => exact absurd rfl searched

/-- The whole search reports the first trigger that stands in the normalized text. Text around a
    statement leaves this trigger or brings in an earlier one, and exchanging quotes changes
    nothing. The search for tautologies reports what the whole search does if that is a tautology,
    and nothing otherwise, so a SELECT of users or products that it overrides would be overridden
    by the whole search, with the same trigger. -/
theorem triggers_reported (sql : String) :
    (∀ trigger, detectInjection sql = some trigger ↔ trigger.text.toList <:+: normalized sql ∧
      ∀ earlier, Trigger.all.idxOf earlier < Trigger.all.idxOf trigger →
        ¬ earlier.text.toList <:+: normalized sql) ∧
    (∀ before after trigger, detectInjection sql = some trigger →
      ∃ first, detectInjection (before ++ sql ++ after) = some first ∧
        Trigger.all.idxOf first ≤ Trigger.all.idxOf trigger) ∧
    (∀ before after trigger, detectTautology sql = some trigger →
      ∃ first, detectTautology (before ++ sql ++ after) = some first ∧
        Trigger.all.idxOf first ≤ Trigger.all.idxOf trigger) ∧
    (∀ other, Requoted sql other →
      detectInjection other = detectInjection sql ∧ detectTautology other = detectTautology sql) ∧
    detectTautology sql = (detectInjection sql).filter Trigger.isTautology ∧
    ∀ r trigger, classify sql = ⟨.select, some r⟩ → r ≠ .orders →
      detectTautology sql = some trigger → detectInjection sql = some trigger ∧
        ∀ now s, (execute now sql s).events = [.injectionDetected r trigger] ∧
          (execute now sql s).outcome = .rows (s.rowsOf r) := by
  refine ⟨injection_iff sql, ?_, ?_, ?_, tautology_among_injections sql, ?_⟩
  · intro before after trigger found
    exact injection_within found before after
  · intro before after trigger found
    exact tautology_within found before after
  · intro other requoted
    unfold detectInjection detectTautology
    rw [normalized_requoted requoted]
    exact ⟨rfl, rfl⟩
  · intro r trigger select searched found
    refine ⟨(tautology_reported.mp found).1, fun now s => ?_⟩
    exact tautology_overrides select searched found now s

/-- A quoted one, with a word that holds a trigger only in upper case, after the first half of a
    tautology that is written with the other quotes. -/
theorem half_tautology_completed :
    let sql := "SELECT * FROM products WHERE \"1\"='1' unıon"
    let part := "'1' unıon"
    detectInjection part = some .union ∧
    (∃ first, detectInjection ("\"1\"=" ++ part ++ " 1=1") = some first ∧
      Trigger.all.idxOf first ≤ Trigger.all.idxOf .union ∧ first = .quotedTautology) ∧
    Requoted part "\"1' unıon" ∧ detectInjection "\"1' unıon" = detectInjection part ∧
    classify sql = ⟨.select, some .products⟩ ∧ detectTautology sql = some .quotedTautology ∧
    detectInjection sql = some .quotedTautology ∧
    (execute default sql (.seeded default)).events =
      [.injectionDetected .products .quotedTautology] := by
  intro sql part
  have union : detectInjection part = some .union := by decide +kernel
  have requoted : Requoted part "\"1' unıon" := by decide +kernel
  have select : classify sql = ⟨.select, some .products⟩ := by decide +kernel
  have tautology : detectTautology sql = some .quotedTautology := by decide +kernel
  have whole : detectInjection ("\"1\"=" ++ part ++ " 1=1") = some .quotedTautology := by
    decide +kernel
  obtain ⟨-, within, -, exchanged, -⟩ := triggers_reported part
  obtain ⟨-, -, -, -, -, overridden⟩ := triggers_reported sql
  obtain ⟨first, found, order⟩ := within "\"1\"=" " 1=1" .union union
  obtain ⟨injection, same⟩ := overridden .products .quotedTautology select (by decide) tautology
  exact ⟨union, ⟨first, found, order, Option.some.inj (found.symm.trans whole)⟩, requoted,
    (exchanged _ requoted).1, select, tautology, injection, (same default (.seeded default)).1⟩

end InjectionLab
