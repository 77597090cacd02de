import InjectionLab.Proofs.Effect
import InjectionLab.Proofs.Text.LetterCase

/-!
Statements up to the case of ASCII letters. Two texts that differ only there are classified alike,
set off the same trigger, and give the same clauses and literal lists up to that case, so that they
report the same mutation and leave the same numbers of rows.
-/
namespace InjectionLab
open Text

def CaseVariants (s t : String) : Prop := Alike s.toList t.toList

instance (s t : String) : Decidable (CaseVariants s t) :=
  inferInstanceAs (Decidable (Alike s.toList t.toList))

theorem variants_of_alike {a b : List Char} (alike : Alike a b) :
    CaseVariants (String.ofList a) (String.ofList b) := by
  simpa only [CaseVariants, String.toList_ofList] using alike

/-! Numerals: digits, signs and points have no case, so alike numerals have one value. -/
namespace Numeral

theorem letter_not_digit {c : Char} (letter : c.isAlpha = true) : c.isDigit = false := by
  have code := letter_code letter
  simp only [Char.isDigit, UInt32.le_iff_toNat_le, Bool.and_eq_false_iff, decide_eq_false_iff_not,
    ge_iff_le, Char.reduceVal, UInt32.reduceToNat, Char.toNat_val]
  omega

theorem digits_alike {a b : List Char} (alike : Alike a b) :
    a.all Char.isDigit = b.all Char.isDigit ∧ (a.all Char.isDigit = true → a = b) := by
  induction alike with
  | nil => exact ⟨rfl, fun _ => rfl⟩
  | @cons c d a b same rest ih =>
    have digit : c.isDigit = d.isDigit :=
      ignores_case_of_letters false (fun _ => letter_not_digit) c d same
    refine ⟨by simp only [List.all_cons, digit, ih.1], ?_⟩
    intro all
    simp only [List.all_cons, Bool.and_eq_true] at all
    rcases same_or_letters same with eq | ⟨letter, _⟩
    · rw [eq, ih.2 all.2]
    · simp [letter_not_digit letter] at all

theorem natural_alike {a b : List Char} (alike : Alike a b) : natural? a = natural? b := by
  obtain ⟨all, eq⟩ := digits_alike alike
  by_cases digits : a.all Char.isDigit = true
  · rw [eq digits]
  · simp only [natural?, ← all, digits, Bool.and_false, Bool.false_eq_true, ↓reduceIte]

theorem split_sign_cons (c : Char) (rest : List Char) :
    splitSign (c :: rest) = if c == '-' then (true, rest) else (false, c :: rest) := by
  by_cases minus : c = '-' <;> simp [splitSign, minus]

theorem split_sign_alike {a b : List Char} (alike : Alike a b) :
    (splitSign a).1 = (splitSign b).1 ∧ Alike (splitSign a).2 (splitSign b).2 := by
  cases alike with
  | nil => exact ⟨rfl, .nil⟩
  | @cons c d a b same rest =>
    have minus : (c == '-') = (d == '-') := other_character_ignores_case rfl c d same
    simp only [split_sign_cons, minus]
    split
    · exact ⟨rfl, rest⟩
    · exact ⟨rfl, .cons same rest⟩

theorem integer_alike {a b : List Char} (alike : Alike a b) : integer? a = integer? b := by
  obtain ⟨sign, digits⟩ := split_sign_alike alike
  simp only [integer?, sign, natural_alike digits]

theorem amount_alike {a b : List Char} (alike : Alike a b) : amount? a = amount? b := by
  obtain ⟨sign, size⟩ := split_sign_alike alike
  have unpointed : IgnoresCase (· != '.') := stop_ignores_case rfl
  obtain ⟨whole, fraction⟩ := run_alike unpointed size
  have fraction := List.forall₂_drop 1 fraction
  simp only [amount?, sign, natural_alike (List.rel_append whole fraction), fraction.length_eq]

end Numeral

/-! What a statement is read as -/

theorem classify_variants {s t : String} (variants : CaseVariants s t) :
    classify s = classify t := by
  simp only [classify, lowered, lowercase_alike variants]

theorem injection_variants {s t : String} (variants : CaseVariants s t) :
    detectInjection s = detectInjection t := by
  simp only [detectInjection, normalized, uppercase_alike variants]

theorem tautology_variants {s t : String} (variants : CaseVariants s t) :
    detectTautology s = detectTautology t := by
  simp only [detectTautology, normalized, uppercase_alike variants]

/-! Clauses and predicates -/

inductive Clause.SameUpToCase : Clause → Clause → Prop where
  | id (n : Option Int64) : SameUpToCase (.id n) (.id n)
  | like {a b : String} (text : CaseVariants a b) : SameUpToCase (.like a) (.like b)
  | role {a b : String} (text : CaseVariants a b) : SameUpToCase (.role a) (.role b)
  | category {a b : String} (text : CaseVariants a b) : SameUpToCase (.category a) (.category b)
  | minPrice (price : Amount) : SameUpToCase (.minPrice price) (.minPrice price)
  | maxPrice (price : Amount) : SameUpToCase (.maxPrice price) (.maxPrice price)

/-- One shape with the same identifiers, fields and bounds, and text that is a case variant. -/
inductive Predicate.SameUpToCase : Predicate → Predicate → Prop where
  | idIs (id : Int64) : SameUpToCase (.idIs id) (.idIs id)
  | equals (field : String) {a b : String} (text : CaseVariants a b) :
      SameUpToCase (.equals field (.ofText a)) (.equals field (.ofText b))
  | atLeast (field : String) (value : Json.Value) :
      SameUpToCase (.atLeast field value) (.atLeast field value)
  | atMost (field : String) (value : Json.Value) :
      SameUpToCase (.atMost field value) (.atMost field value)
  | contains (fields : List String) {a b : String} (text : CaseVariants a b) :
      SameUpToCase (.contains fields a) (.contains fields b)
  | allOf {ps qs : List Predicate} (parts : List.Forall₂ SameUpToCase ps qs) :
      SameUpToCase (.allOf ps) (.allOf qs)
  | always : SameUpToCase .always .always
  | never : SameUpToCase .never .never

theorem and_same {p p' q q' : Predicate} (left : p.SameUpToCase p') (right : q.SameUpToCase q') :
    (p.and q).SameUpToCase (p'.and q') := by
  have both : ∀ {a a' b b' : Predicate}, a.SameUpToCase a' → b.SameUpToCase b' →
      (Predicate.allOf [a, b]).SameUpToCase (.allOf [a', b']) := fun first second =>
    .allOf (.cons first (.cons second .nil))
  -- Only `always` on either side or a conjunction on the left makes something else than a pair.
  have wholeLeft := left
  have wholeRight := right
  cases left with
  | always => exact right
  | allOf parts =>
    cases right with
    | always => exact .allOf parts
    | _ => exact .allOf (List.rel_append parts (.cons wholeRight .nil))
  | _ =>
    cases right with
    | always => exact wholeLeft
    | _ => exact both wholeLeft wholeRight

theorem clause_predicate_same {c d : Clause} (same : c.SameUpToCase d) :
    c.predicate.SameUpToCase d.predicate := by
  cases same with
  | id n =>
    cases n with
    | none => exact .never
    | some n => exact .idIs n
  | like text => exact .contains _ text
  | role text => exact .equals _ text
  | category text => exact .equals _ text
  | minPrice price => exact .atLeast _ _
  | maxPrice price => exact .atMost _ _

theorem fold_same {cs ds : List Clause} (same : List.Forall₂ Clause.SameUpToCase cs ds)
    {p q : Predicate} (start : p.SameUpToCase q) :
    (cs.foldl (fun p clause => p.and clause.predicate) p).SameUpToCase
      (ds.foldl (fun p clause => p.and clause.predicate) q) := by
  induction same generalizing p q with
  | nil => exact start
  | cons first rest ih => exact ih (and_same start (clause_predicate_same first))

theorem conjunction_same {cs ds : List Clause} (same : List.Forall₂ Clause.SameUpToCase cs ds) :
    Option.Rel Predicate.SameUpToCase (Clause.conjunction? cs) (Clause.conjunction? ds) := by
  cases same with
  | nil => exact .none
  | cons first rest => exact .some (fold_same (.cons first rest) .always)

theorem captured_alike {pattern : Pattern} (unlettered : ∀ piece ∈ pattern, piece.IsUnlettered)
    {s t : String} (variants : CaseVariants s t) :
    Option.Rel Alike (Clause.captured? pattern s) (Clause.captured? pattern t) := by
  have found := Pattern.find_alike unlettered variants
  simp only [Clause.captured?]
  generalize pattern.find? s.toList = x at found
  generalize pattern.find? t.toList = y at found
  cases found with
  | none => exact .none
  | some tokens =>
    rcases tokens with _ | ⟨token, _ | ⟨_, _⟩⟩
    · exact .none
    · exact .some token
    · exact .none

theorem clause_of_capture {pattern : Pattern} (unlettered : ∀ piece ∈ pattern, piece.IsUnlettered)
    {make : List Char → Option Clause}
    (makes : ∀ a b, Alike a b → Option.Rel Clause.SameUpToCase (make a) (make b))
    {s t : String} (variants : CaseVariants s t) :
    Option.Rel Clause.SameUpToCase ((Clause.captured? pattern s).bind make)
      ((Clause.captured? pattern t).bind make) := by
  have captured := captured_alike unlettered variants
  generalize Clause.captured? pattern s = x at captured
  generalize Clause.captured? pattern t = y at captured
  cases captured with
  | none => exact .none
  | some token => exact makes _ _ token

theorem id_same {s t : String} (variants : CaseVariants s t) :
    Option.Rel Clause.SameUpToCase (Clause.id? s) (Clause.id? t) := by
  simp only [Clause.id?, Option.map_eq_bind]
  refine clause_of_capture (by decide) (fun a b alike => ?_) variants
  simp only [Function.comp_apply, Numeral.integer_alike alike]
  exact .some (.id _)

theorem text_clause_same {pattern : Pattern} (unlettered : ∀ piece ∈ pattern, piece.IsUnlettered)
    {make : String → Clause}
    (makes : ∀ {a b : String}, CaseVariants a b → (make a).SameUpToCase (make b))
    {s t : String} (variants : CaseVariants s t) :
    Option.Rel Clause.SameUpToCase
      ((Clause.captured? pattern s).map fun token => make (String.ofList token))
      ((Clause.captured? pattern t).map fun token => make (String.ofList token)) := by
  simp only [Option.map_eq_bind]
  exact clause_of_capture unlettered (fun a b alike => .some (makes (variants_of_alike alike)))
    variants

theorem price_clause_same {pattern : Pattern} (unlettered : ∀ piece ∈ pattern, piece.IsUnlettered)
    {make : Amount → Clause} (makes : ∀ price, (make price).SameUpToCase (make price))
    {s t : String} (variants : CaseVariants s t) :
    Option.Rel Clause.SameUpToCase
      (((Clause.captured? pattern s).bind Numeral.amount?).map make)
      (((Clause.captured? pattern t).bind Numeral.amount?).map make) := by
  simp only [Option.map_bind]
  refine clause_of_capture unlettered (fun a b alike => ?_) variants
  simp only [Function.comp_apply, Numeral.amount_alike alike]
  cases Numeral.amount? b with
  | none => exact .none
  | some price => exact .some (makes price)

theorem or_same {α : Type} {R : α → α → Prop} {a a' b b' : Option α} (first : Option.Rel R a a')
    (second : Option.Rel R b b') : Option.Rel R (a.or b) (a'.or b') := by
  cases first with
  | none => exact second
  | some same => exact .some same

theorem option_list_same {α : Type} {R : α → α → Prop} {a b : Option α} (same : Option.Rel R a b) :
    List.Forall₂ R a.toList b.toList := by
  cases same with
  | none => exact .nil
  | some same => exact .cons same .nil

theorem user_clauses_same {s t : String} (variants : CaseVariants s t) :
    List.Forall₂ Clause.SameUpToCase (Clause.ofUsers s) (Clause.ofUsers t) :=
  option_list_same (or_same (id_same variants)
    (or_same (text_clause_same (by decide) .like variants)
      (text_clause_same (by decide) .role variants)))

theorem product_clauses_same {s t : String} (variants : CaseVariants s t) :
    List.Forall₂ Clause.SameUpToCase (Clause.ofProducts s) (Clause.ofProducts t) := by
  have id := id_same variants
  have category : Option.Rel Clause.SameUpToCase (Clause.category? s) (Clause.category? t) :=
    text_clause_same (by decide) .category variants
  have low : Option.Rel Clause.SameUpToCase (Clause.minPrice? s) (Clause.minPrice? t) :=
    price_clause_same (by decide) .minPrice variants
  have high : Option.Rel Clause.SameUpToCase (Clause.maxPrice? s) (Clause.maxPrice? t) :=
    price_clause_same (by decide) .maxPrice variants
  simp only [Clause.ofProducts]
  generalize Clause.id? s = x at id
  generalize Clause.id? t = y at id
  cases id with
  | none =>
    exact List.rel_append (List.rel_append (option_list_same category) (option_list_same low))
      (option_list_same high)
  | some same => exact .cons same .nil

/-! Literal lists -/

def UserValues.SameUpToCase (v w : UserValues) : Prop :=
  CaseVariants v.username w.username ∧ CaseVariants v.email w.email ∧
    CaseVariants v.password w.password ∧ CaseVariants v.role w.role

def ProductValues.SameUpToCase (v w : ProductValues) : Prop :=
  CaseVariants v.name w.name ∧ CaseVariants v.description w.description ∧ v.price = w.price ∧
    CaseVariants v.category w.category ∧ v.stock = w.stock

theorem bind_same {α β : Type} {R : β → β → Prop} {x : Option α} {f g : α → Option β}
    (later : ∀ v, Option.Rel R (f v) (g v)) : Option.Rel R (x.bind f) (x.bind g) := by
  cases x with
  | none => exact .none
  | some v => exact later v

theorem user_values_same {s t : String} (variants : CaseVariants s t) :
    Option.Rel UserValues.SameUpToCase (userValues s) (userValues t) := by
  have found : Option.Rel (List.Forall₂ Alike) (UserValues.pattern.find? s.toList)
      (UserValues.pattern.find? t.toList) := Pattern.find_alike (by decide) variants
  simp only [userValues]
  generalize UserValues.pattern.find? s.toList = x at found
  generalize UserValues.pattern.find? t.toList = y at found
  cases found with
  | none => exact .none
  | some tokens =>
    rcases tokens with _ | ⟨username, _ | ⟨email, _ | ⟨password, _ | ⟨role, _ | ⟨_, _⟩⟩⟩⟩⟩
    case cons.cons.cons.cons.nil =>
      exact .some ⟨variants_of_alike username, variants_of_alike email, variants_of_alike password,
        variants_of_alike role⟩
    all_goals exact .none

theorem product_values_same {s t : String} (variants : CaseVariants s t) :
    Option.Rel ProductValues.SameUpToCase (productValues s) (productValues t) := by
  have found : Option.Rel (List.Forall₂ Alike) (ProductValues.pattern.find? s.toList)
      (ProductValues.pattern.find? t.toList) := Pattern.find_alike (by decide) variants
  simp only [productValues]
  generalize ProductValues.pattern.find? s.toList = x at found
  generalize ProductValues.pattern.find? t.toList = y at found
  cases found with
  | none => exact .none
  | some tokens =>
    rcases tokens with _ | ⟨name, _ | ⟨description, _ | ⟨price, _ | ⟨category, _ | ⟨stock, _ |
      ⟨_, _⟩⟩⟩⟩⟩⟩
    case cons.cons.cons.cons.cons.nil =>
      simp only [Numeral.amount_alike price, Numeral.integer_alike stock]
      exact bind_same fun _ => bind_same fun _ => .some ⟨variants_of_alike name,
        variants_of_alike description, rfl, variants_of_alike category, rfl⟩
    all_goals exact .none

theorem order_values_same {s t : String} (variants : CaseVariants s t) :
    orderValues s = orderValues t := by
  have found : Option.Rel (List.Forall₂ Alike) (OrderValues.pattern.find? s.toList)
      (OrderValues.pattern.find? t.toList) := Pattern.find_alike (by decide) variants
  simp only [orderValues]
  generalize OrderValues.pattern.find? s.toList = x at found
  generalize OrderValues.pattern.find? t.toList = y at found
  cases found with
  | none => rfl
  | some tokens =>
    rcases tokens with _ | ⟨userId, _ | ⟨productId, _ | ⟨quantity, _ | ⟨totalPrice, _ | ⟨_, _⟩⟩⟩⟩⟩
    case cons.cons.cons.cons.nil =>
      simp only [Numeral.integer_alike userId, Numeral.integer_alike productId,
        Numeral.integer_alike quantity, Numeral.amount_alike totalPrice]
    all_goals rfl

/-! Effects -/

theorem found_alike {α : Type} {R : α → α → Prop} {a b : Option α} (same : Option.Rel R a b) :
    a.isSome = b.isSome := by
  cases same <;> rfl

theorem entry_found_variants {s t : String} (variants : CaseVariants s t) (r : Relation) :
    (r.entry? s).isSome = (r.entry? t).isSome := by
  cases r with
  | users =>
    simpa only [Relation.entry?, Option.isSome_map] using found_alike (user_values_same variants)
  | products =>
    simpa only [Relation.entry?, Option.isSome_map] using found_alike (product_values_same variants)
  | orders => simp only [Relation.entry?, order_values_same variants]

theorem counts_add {e e' : Entry} (same : e.relation = e'.relation) (now now' : Timestamp)
    (store : Store) : (store.add now e).counts = (store.add now' e').counts := by
  cases e <;> cases e' <;>
    simp_all [Entry.relation, Store.add, Store.appendUser, Store.appendProduct, Store.appendOrder,
      Store.counts, Table.append]

theorem execute_variants {s t : String} (variants : CaseVariants s t) (now now' : Timestamp)
    (store : Store) :
    (execute now s store).outcome.runResult = (execute now' t store).outcome.runResult ∧
      (execute now s store).store.counts = (execute now' t store).store.counts := by
  have classified := classify_variants variants
  by_cases insert : ∃ r, classify s = ⟨.insert, some r⟩
  · obtain ⟨r, insert⟩ := insert
    rw [execute_insert now store insert, execute_insert now' store (classified ▸ insert)]
    have found := entry_found_variants variants r
    cases first : r.entry? s with
    | none =>
      cases second : r.entry? t with
      | none => exact ⟨rfl, rfl⟩
      | some e' => simp [first, second] at found
    | some e =>
      cases second : r.entry? t with
      | none => simp [first, second] at found
      | some e' =>
        have relation := (entry_relation first).trans (entry_relation second).symm
        exact ⟨rfl, counts_add relation now now' store⟩
  · have read : ∀ r, classify s ≠ ⟨.insert, some r⟩ := fun r other => insert ⟨r, other⟩
    obtain ⟨kept, rows, outcome⟩ := execute_read now store read
    obtain ⟨kept', rows', outcome'⟩ := execute_read now' store (classified ▸ read)
    rw [kept, kept', outcome, outcome']
    exact ⟨rfl, rfl⟩

/-- Case variants of a statement are classified alike, set off the same triggers, narrow a SELECT by
    predicates of one shape, and hold the same literal list up to case. So they report the same
    mutation and leave the same numbers of rows. -/
theorem letter_case_ignored {s t : String} (variants : CaseVariants s t) :
    classify s = classify t ∧
    detectInjection s = detectInjection t ∧ detectTautology s = detectTautology t ∧
    Option.Rel Predicate.SameUpToCase (userPredicate s) (userPredicate t) ∧
    Option.Rel Predicate.SameUpToCase (productPredicate s) (productPredicate t) ∧
    Option.Rel UserValues.SameUpToCase (userValues s) (userValues t) ∧
    Option.Rel ProductValues.SameUpToCase (productValues s) (productValues t) ∧
    orderValues s = orderValues t ∧
    ∀ now now' store,
      (execute now s store).outcome.runResult = (execute now' t store).outcome.runResult ∧
        (execute now s store).store.counts = (execute now' t store).store.counts :=
  ⟨classify_variants variants, injection_variants variants, tautology_variants variants,
    conjunction_same (user_clauses_same variants), conjunction_same (product_clauses_same variants),
    user_values_same variants, product_values_same variants, order_values_same variants,
    execute_variants variants⟩

/-- Beside the letters the texts hold a final sigma, a sharp s and a long s, left alone. -/
theorem letter_case_ignored_in_unicode :
    CaseVariants "Insert INTO users valueſ ('ΑΣ', 'Straße', 'PW', 'a')"
      "iNSERT into USERS VALUEſ ('ΑΣ', 'sTRAßE', 'pw', 'A')" ∧
    Option.Rel UserValues.SameUpToCase
      (userValues "Insert INTO users valueſ ('ΑΣ', 'Straße', 'PW', 'a')")
      (userValues "iNSERT into USERS VALUEſ ('ΑΣ', 'sTRAßE', 'pw', 'A')") := by
  have variants : CaseVariants "Insert INTO users valueſ ('ΑΣ', 'Straße', 'PW', 'a')"
      "iNSERT into USERS VALUEſ ('ΑΣ', 'sTRAßE', 'pw', 'A')" := by decide +kernel
  exact ⟨variants, (letter_case_ignored variants).2.2.2.2.2.1⟩

end InjectionLab
