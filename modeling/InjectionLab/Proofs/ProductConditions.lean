import InjectionLab.Proofs.InsertText
import InjectionLab.Proofs.Selection
import InjectionLab.Proofs.Text.Operator
import InjectionLab.Proofs.Text.Uppercase

/-!
Products under conditions. A SELECT of products lists conditions on the category and on the price
in any order. Every `=` in its text is that of a condition, because no literal holds one, and what
stands before it tells which pattern fits there. So each condition is found with its own literal,
nothing else is, and the rows are those that meet all conditions.
-/
namespace InjectionLab
open Text

inductive Aspect where
  | category
  | least
  | most
deriving DecidableEq, Repr

inductive Condition where
  | category (name : String)
  | atLeast (token : String) (bound : Amount)
  | atMost (token : String) (bound : Amount)
deriving DecidableEq, Repr

def Amount.finiteLe : Amount → Amount → Bool
  | .finite x, .finite y => x.scaled ≤ y.scaled
  | _, _ => false

namespace Condition

def aspect : Condition → Aspect
  | category _ => .category
  | atLeast _ _ => .least
  | atMost _ _ => .most

def text : Condition → String
  | category name => "category = '" ++ name ++ "'"
  | atLeast token _ => "price >= " ++ token
  | atMost token _ => "price <= " ++ token

/-- The name can stand in a literal, holds no `=` and does not mention the users after FROM; a bound
    is a numeral without a sign and the amount nearest to it. -/
def Written : Condition → Prop
  | category name => Quotable name ∧ '=' ∉ name.toList ∧
      ¬ Relation.users.MentionedIn "from" name.toList
  | atLeast token bound | atMost token bound =>
      ∃ size, Numeral.Size token.toList size ∧ bound.Nearest false size

def met (p : Product) : Condition → Bool
  | category name => p.category == name
  | atLeast _ bound => bound.finiteLe p.price
  | atMost _ bound => p.price.finiteLe bound

end Condition

def selectProductsText (conditions : List Condition) : String :=
  "SELECT * FROM products WHERE " ++ " AND ".intercalate (conditions.map Condition.text)

/-! The text of the statement -/

def Aspect.lead : Aspect → List Char
  | .category => ['c', 'a', 't', 'e', 'g', 'o', 'r', 'y', ' ']
  | .least => ['p', 'r', 'i', 'c', 'e', ' ', '>']
  | .most => ['p', 'r', 'i', 'c', 'e', ' ', '<']

namespace Condition

def token : Condition → List Char
  | category name => name.toList
  | atLeast token _ | atMost token _ => token.toList

def value (c : Condition) : List Char :=
  match c.aspect with
  | .category => ' ' :: '\'' :: (c.token ++ ['\''])
  | .least | .most => ' ' :: c.token

theorem text_split (c : Condition) : c.text.toList = c.aspect.lead ++ '=' :: c.value := by
  cases c with
  | category name =>
    have head : "category = '".toList = Aspect.category.lead ++ ['=', ' ', '\''] := by decide +kernel
    have quote : "'".toList = ['\''] := by decide +kernel
    calc (category name).text.toList
        = "category = '".toList ++ name.toList ++ "'".toList := by
          rw [text, String.toList_append, String.toList_append]
      _ = Aspect.category.lead ++ ['=', ' ', '\''] ++ name.toList ++ ['\''] := by rw [head, quote]
      _ = (category name).aspect.lead ++ '=' :: (category name).value := by
          simp only [List.append_assoc]
          rfl
  | atLeast token bound =>
    have head : "price >= ".toList = Aspect.least.lead ++ ['=', ' '] := by decide +kernel
    rw [text, String.toList_append, head, List.append_assoc]
    rfl
  | atMost token bound =>
    have head : "price <= ".toList = Aspect.most.lead ++ ['=', ' '] := by decide +kernel
    rw [text, String.toList_append, head, List.append_assoc]
    rfl

theorem token_characters {c : Condition} (written : c.Written) : '=' ∉ c.token := by
  cases c with
  | category name => exact written.2.1
  | atLeast token bound | atMost token bound =>
    obtain ⟨size, unsigned, -⟩ := written
    intro member
    have character := numeral_characters (Numeral.size_is_numeral unsigned) '=' member
    revert character
    decide

theorem value_characters {c : Condition} (written : c.Written) : '=' ∉ c.value := by
  have clear := token_characters written
  cases c <;> simpa [value, aspect] using clear

def glued (joint : List Char) : List Condition → List Char
  | [] => []
  | c :: conditions =>
    joint ++ c.aspect.lead ++ '=' :: c.value ++ glued " AND ".toList conditions

end Condition

open Condition

def selectLead : List Char := "SELECT * FROM products WHERE ".toList

theorem glued_texts (joint : List Char) (c : Condition) (conditions : List Condition) :
    glued joint (c :: conditions) = joint ++
      " AND ".toList.intercalate ((c :: conditions).map fun c => c.text.toList) := by
  induction conditions generalizing joint c with
  | nil => simp only [glued, List.map_cons, List.map_nil, List.intercalate_singleton, text_split,
      List.append_assoc, List.append_nil]
  | cons d conditions ih =>
    simp only [List.map_cons] at ih ⊢
    rw [glued, ih, List.intercalate_cons_cons, text_split c]
    simp only [List.append_assoc, List.cons_append]

theorem select_text_split (conditions : List Condition) :
    (selectProductsText conditions).toList = selectLead ++ glued [] conditions := by
  have texts : (conditions.map text).map String.toList = conditions.map fun c => c.text.toList := by
    rw [List.map_map]
    rfl
  have joined : " AND ".toList.intercalate (conditions.map fun c => c.text.toList) =
      glued [] conditions := by
    cases conditions with
    | nil => exact List.intercalate_nil
    | cons c conditions => exact (glued_texts [] c conditions).symm
  calc (selectProductsText conditions).toList
      = selectLead ++ (" AND ".intercalate (conditions.map text)).toList := String.toList_append
    _ = selectLead ++ glued [] conditions := by
      rw [String.toList_intercalate, texts, joined]

theorem glued_spaced (conditions : List Condition) :
    Outside (· != ' ') (glued " AND ".toList conditions) := by
  intro c rest starts
  cases conditions with
  | nil => cases starts
  | cons condition conditions =>
    obtain rfl : ' ' = c := (List.cons.inj starts).1
    rfl

section Places
variable {conditions : List Condition} (written : ∀ c ∈ conditions, c.Written)
include written

/-- Every `=` is that of a condition, with the condition's own literal after it. -/
theorem equals_placed {front joint before after : List Char} (clear : '=' ∉ front ++ joint)
    (split : front ++ glued joint conditions = before ++ '=' :: after) :
    ∃ c ∈ conditions, ∃ earlier later, before = earlier ++ c.aspect.lead ∧
      after = c.value ++ later ∧ Outside (· != ' ') later := by
  induction conditions generalizing front joint before with
  | nil =>
    rw [glued, List.append_nil] at split
    exact absurd (by simp [split]) clear
  | cons c conditions ih =>
    have absent : '=' ∉ front ++ joint ++ c.aspect.lead := by
      have unmarked : '=' ∉ c.aspect.lead := by cases c.aspect <;> decide +kernel
      rw [List.mem_append]
      exact not_or.mpr ⟨clear, unmarked⟩
    have valued : '=' ∉ c.value ++ " AND ".toList := by
      have unmarked : '=' ∉ " AND ".toList := by decide +kernel
      rw [List.mem_append]
      exact not_or.mpr ⟨value_characters (written c (by simp)), unmarked⟩
    have split : (front ++ joint ++ c.aspect.lead) ++ '=' ::
        (c.value ++ glued " AND ".toList conditions) = before ++ '=' :: after := by
      simpa only [glued, List.append_assoc, List.cons_append] using split
    -- Either it is the first `=`, or it comes behind the literal, the front of the later conditions.
    rcases split_at_first absent split with ⟨rfl, rfl⟩ | ⟨between, rfl, inner⟩
    · exact ⟨c, by simp, front ++ joint, _, rfl, rfl, glued_spaced conditions⟩
    · obtain ⟨d, member, earlier, later, rfl, rest⟩ :=
        ih (fun c member => written c (by simp [member])) valued inner
      refine ⟨d, by simp [member], front ++ joint ++ c.aspect.lead ++ '=' :: earlier, later, ?_, rest⟩
      simp only [List.append_assoc, List.cons_append]

end Places

theorem condition_placed {conditions : List Condition} {c : Condition} (member : c ∈ conditions)
    (joint : List Char) : ∃ earlier later, glued joint conditions =
      earlier ++ (c.aspect.lead ++ '=' :: (c.value ++ later)) ∧ Outside (· != ' ') later := by
  induction conditions generalizing joint with
  | nil => cases member
  | cons d conditions ih =>
    rcases List.mem_cons.mp member with rfl | behind
    · refine ⟨joint, _, ?_, glued_spaced conditions⟩
      simp only [glued, List.append_assoc, List.cons_append]
    · obtain ⟨earlier, later, split, spaced⟩ := ih behind " AND ".toList
      refine ⟨joint ++ d.aspect.lead ++ '=' :: d.value ++ earlier, later, ?_, spaced⟩
      simp only [glued, split, List.append_assoc, List.cons_append]

/-! What the patterns find -/

namespace Aspect

def closing : Aspect → Char
  | .category => 'y'
  | .least => '>'
  | .most => '<'

def front : Aspect → Pattern
  | .category => Pattern.word "category" ++ [.gap]
  | .least => Pattern.word "price" ++ [.gap, .mark '>']
  | .most => Pattern.word "price" ++ [.gap, .mark '<']

def back : Aspect → Pattern
  | .category => .gap :: Pattern.quoted
  | .least | .most => [.gap, .numeral false true]

def pattern (a : Aspect) : Pattern := a.front ++ .mark '=' :: a.back

theorem front_silent (a : Aspect) : ∀ piece ∈ a.front, piece.captured = false := by
  cases a <;> decide

theorem lead_closes (a : Aspect) (earlier : List Char) :
    lastSolid (earlier ++ a.lead) = some a.closing := by
  have last : lastSolid a.lead = some a.closing := by cases a <;> decide +kernel
  rw [last_solid_append, last]
  rfl

theorem front_closes {a b : Aspect} {parts : List (List Char)} (start : List Char)
    (fits : List.Forall₂ Piece.Fits a.front parts)
    (closed : lastSolid (start ++ parts.flatten) = some b.closing) : a = b := by
  cases a with
  | category =>
    have split : front .category = Pattern.word "categor" ++ [.letter 'y', .gap] := by decide
    rw [split] at fits
    obtain ⟨c, same, last⟩ := Pattern.word_closes (by decide) start fits
    obtain rfl := Option.some.inj (last.symm.trans closed)
    revert same
    cases b <;> decide
  | least | most =>
    have same := Option.some.inj ((Pattern.mark_closes (by decide) start fits).symm.trans closed)
    revert same
    cases b <;> decide

theorem lead_fits (a : Aspect) : List.Forall₂ Piece.Fits a.front (a.lead.map ([·])) := by
  rw [List.forall₂_map_right_iff]
  cases a <;> simp [front, lead, Pattern.word, Piece.Fits, sameLetter, one_blank]

theorem lead_reads (a : Aspect) (rest : List Char) :
    a.front.Reads (a.lead.map ([·])) ('=' :: rest) := by
  have determined : a.front.determinate = true := by cases a <;> decide
  have stops : (a.front.getLast?.all fun piece => !piece.goesOn '=') = true := by
    cases a <;> decide
  refine Pattern.reads_of_fits determined (lead_fits a) fun piece part last _ => ?_
  refine ends_where_barred fun c more starts => ?_
  obtain ⟨rfl, _⟩ := List.cons.inj starts
  simpa [last] using stops

end Aspect

theorem name_read {name : String} (quotable : Quotable name) (later : List Char) :
    Aspect.category.back.read? (' ' :: '\'' :: (name.toList ++ ['\'']) ++ later) =
      some [name.toList] := by
  have fits : List.Forall₂ Piece.Fits Aspect.category.back
      [[' '], ['\''], name.toList, ['\'']] :=
    .cons one_blank (.cons rfl (.cons (token_fits.mp (quotable_fits quotable)) (.cons rfl .nil)))
  have text : ' ' :: '\'' :: (name.toList ++ ['\'']) ++ later =
      [[' '], ['\''], name.toList, ['\'']].flatten ++ later := by simp
  rw [text]
  exact Pattern.read_to_close (by decide) rfl fits later

theorem bound_read {token later : List Char} (fits : NumeralText false true token)
    (spaced : Outside (· != ' ') later) :
    Pattern.read? [.gap, .numeral false true] (' ' :: token ++ later) = some [token] := by
  have parts : List.Forall₂ Piece.Fits [.gap, .numeral false true] [[' '], token] :=
    .cons one_blank (.cons fits .nil)
  have reads : Pattern.Reads _ _ later := Pattern.reads_of_fits (by decide) parts
    (by
      intro piece part last _
      obtain rfl := Option.some.inj last
      refine ends_where_barred fun c more starts => ?_
      obtain rfl : c = ' ' := by simpa using spaced c more starts
      decide)
  exact Pattern.read_iff.mpr ⟨_, later, by simp, reads, rfl⟩

theorem value_read {c : Condition} (written : c.Written) {later : List Char}
    (spaced : Outside (· != ' ') later) : c.aspect.back.read? (c.value ++ later) = some [c.token] := by
  cases c with
  | category name => exact name_read written.1 later
  | atLeast token bound | atMost token bound =>
    obtain ⟨size, unsigned, -⟩ := written
    exact bound_read (Numeral.size_is_numeral unsigned) spaced

theorem condition_read {c : Condition} (written : c.Written) {later : List Char}
    (spaced : Outside (· != ' ') later) :
    c.aspect.pattern.read? (c.aspect.lead ++ '=' :: (c.value ++ later)) = some [c.token] := by
  have behind : Pattern.read? (.mark '=' :: c.aspect.back) ('=' :: (c.value ++ later)) =
      some [c.token] :=
    (@Pattern.read_word_iff ['='] _ c.aspect.back _).mpr ⟨_, rfl, value_read written spaced⟩
  have silent : c.aspect.front.captures (c.aspect.lead.map ([·])) = [] := by
    cases c.aspect <;> decide
  have read := Pattern.read_after (c.aspect.lead_reads (c.value ++ later)) behind
  have flat : (c.aspect.lead.map ([·])).flatten = c.aspect.lead := by simp [← List.flatMap_def]
  rwa [flat, silent, List.nil_append] at read

def Condition.clause : Condition → Clause
  | category name => .category name
  | atLeast _ bound => .minPrice bound
  | atMost _ bound => .maxPrice bound

def Aspect.clause? : Aspect → List Char → Option Clause
  | .category, token => some (.category (String.ofList token))
  | .least, token => (Numeral.amount? token).map .minPrice
  | .most, token => (Numeral.amount? token).map .maxPrice

theorem own_clause {c : Condition} (written : c.Written) :
    c.aspect.clause? c.token = some c.clause := by
  cases c with
  | category name => exact congrArg (fun name => some (Clause.category name)) String.ofList_toList
  | atLeast token bound | atMost token bound =>
    obtain ⟨size, unsigned, nearest⟩ := written
    have read := (Numeral.amount_read_iff (.positive unsigned)).mpr nearest
    exact congrArg (Option.map _) read

theorem read_bound_written {token : String} {size : ℚ} (unsigned : Numeral.Size token.toList size)
    {bound : Amount} (read : Numeral.amount? token.toList = some bound) :
    (Condition.atLeast token bound).Written ∧ (Condition.atMost token bound).Written := by
  have nearest := (Numeral.amount_read_iff (.positive unsigned)).mp read
  exact ⟨⟨size, unsigned, nearest⟩, ⟨size, unsigned, nearest⟩⟩

theorem find_aspect_iff {conditions : List Condition} (apart : (conditions.map aspect).Nodup)
    {a : Aspect} {c : Condition} :
    conditions.find? (·.aspect == a) = some c ↔ c ∈ conditions ∧ c.aspect = a := by
  constructor
  · intro found
    exact ⟨List.mem_of_find?_eq_some found, by simpa using List.find?_some found⟩
  · intro ⟨member, same⟩
    cases found : conditions.find? (·.aspect == a) with
    | none => exact absurd (List.find?_eq_none.mp found c member) (by simp [same])
    | some d =>
      have about : d.aspect = a := by simpa using List.find?_some found
      have equal := List.inj_on_of_nodup_map apart (List.mem_of_find?_eq_some found) member
        (about.trans same.symm)
      rw [equal]

theorem lead_without_equals : '=' ∉ selectLead ++ [] := by decide +kernel

section Found
variable {conditions : List Condition} (written : ∀ c ∈ conditions, c.Written)
include written

theorem found_at_condition {front back : Pattern} (silent : ∀ piece ∈ front, piece.captured = false)
    {tokens : List (List Char)} (found : (front ++ .mark '=' :: back).find?
      (selectProductsText conditions).toList = some tokens) :
    ∃ c ∈ conditions, ∃ start parts later, List.Forall₂ Piece.Fits front parts ∧
      lastSolid (start ++ parts.flatten) = some c.aspect.closing ∧
      Outside (· != ' ') later ∧ back.read? (c.value ++ later) = some tokens := by
  rw [select_text_split] at found
  obtain ⟨start, parts, rest, split, fits, read⟩ := Pattern.found_at_mark silent found
  obtain ⟨c, member, earlier, later, before, rfl, spaced⟩ :=
    equals_placed written lead_without_equals split
  exact ⟨c, member, start, parts, later, fits, by rw [before, Aspect.lead_closes], spaced, read⟩

theorem aspect_found (apart : (conditions.map aspect).Nodup) (a : Aspect) :
    a.pattern.find? (selectProductsText conditions).toList =
      (conditions.find? (·.aspect == a)).map fun c => [c.token] := by
  have sound {tokens : List (List Char)}
      (found : a.pattern.find? (selectProductsText conditions).toList = some tokens) :
      ∃ c ∈ conditions, c.aspect = a ∧ tokens = [c.token] := by
    obtain ⟨c, member, start, parts, later, fits, closed, spaced, read⟩ :=
      found_at_condition written a.front_silent found
    obtain rfl := Aspect.front_closes start fits closed
    have own := value_read (written c member) spaced
    exact ⟨c, member, rfl, Option.some.inj (read.symm.trans own)⟩
  cases present : conditions.find? (·.aspect == a) with
  | none =>
    rw [Option.map_none, Option.eq_none_iff_forall_ne_some]
    intro tokens found
    obtain ⟨c, member, about, -⟩ := sound found
    exact List.find?_eq_none.mp present c member (by simp [about])
  | some c =>
    obtain ⟨member, rfl⟩ := (find_aspect_iff apart).mp present
    have readable : c.aspect.pattern.find? (selectProductsText conditions).toList ≠ none := by
      intro nowhere
      obtain ⟨earlier, later, split, spaced⟩ := condition_placed member []
      have unread := Pattern.find_none_iff.mp nowhere (selectLead ++ earlier)
        (c.aspect.lead ++ '=' :: (c.value ++ later))
        (by rw [select_text_split, split, List.append_assoc])
      cases unread.symm.trans (condition_read (written c member) spaced)
    obtain ⟨tokens, found⟩ := Option.ne_none_iff_exists'.mp readable
    -- What is found first belongs to some condition of the aspect, and there is only one.
    obtain ⟨d, listed, about, rfl⟩ := sound found
    obtain rfl : d = c := List.inj_on_of_nodup_map apart listed member about
    exact found

theorem no_id_found : Clause.id? (selectProductsText conditions) = none := by
  have split : Clause.idPattern =
      (Pattern.word "i" ++ [.letter 'd', .gap]) ++ .mark '=' :: [.gap, .numeral false false] := by
    decide
  have nowhere : Clause.idPattern.find? (selectProductsText conditions).toList = none := by
    rw [Option.eq_none_iff_forall_ne_some]
    intro tokens found
    rw [split] at found
    obtain ⟨c, -, start, parts, -, fits, closed, -, -⟩ :=
      found_at_condition written (by decide) found
    obtain ⟨letter, same, last⟩ := Pattern.word_closes (by decide) start fits
    obtain rfl := Option.some.inj (last.symm.trans closed)
    revert same
    cases c.aspect <;> decide
  simp only [Clause.id?, Clause.captured?, nowhere, Option.map_none]

/-! The clauses -/

theorem captured_aspect (apart : (conditions.map aspect).Nodup) (a : Aspect) :
    Clause.captured? a.pattern (selectProductsText conditions) =
      (conditions.find? (·.aspect == a)).map token := by
  rw [Clause.captured?, aspect_found written apart]
  cases conditions.find? (·.aspect == a) <;> rfl

theorem clause_found (apart : (conditions.map aspect).Nodup) (a : Aspect) :
    (Clause.captured? a.pattern (selectProductsText conditions)).bind a.clause? =
      (conditions.find? (·.aspect == a)).map clause := by
  rw [captured_aspect written apart]
  cases present : conditions.find? (·.aspect == a) with
  | none => rfl
  | some c =>
    obtain ⟨member, rfl⟩ := (find_aspect_iff apart).mp present
    exact own_clause (written c member)

theorem clauses_found (apart : (conditions.map aspect).Nodup) :
    Clause.ofProducts (selectProductsText conditions) =
      [Aspect.category, .least, .most].filterMap fun a =>
        (conditions.find? (·.aspect == a)).map clause := by
  have category : Clause.category? (selectProductsText conditions) = _ :=
    Option.map_eq_bind.trans (clause_found written apart .category)
  have least : Clause.minPrice? (selectProductsText conditions) = _ :=
    Option.map_bind.trans (clause_found written apart .least)
  have most : Clause.maxPrice? (selectProductsText conditions) = _ :=
    Option.map_bind.trans (clause_found written apart .most)
  rw [Clause.ofProducts, no_id_found written, category, least, most]
  simp only [List.filterMap_cons, List.filterMap_nil]
  cases conditions.find? (·.aspect == .category) <;> cases conditions.find? (·.aspect == .least) <;>
    cases conditions.find? (·.aspect == .most) <;> rfl

theorem clause_listed_iff (apart : (conditions.map aspect).Nodup) {found : Clause} :
    found ∈ Clause.ofProducts (selectProductsText conditions) ↔
      ∃ c ∈ conditions, c.clause = found := by
  simp only [clauses_found written apart, List.mem_filterMap, Option.map_eq_some_iff,
    find_aspect_iff apart]
  constructor
  · intro listed
    obtain ⟨a, -, c, ⟨member, -⟩, same⟩ := listed
    exact ⟨c, member, same⟩
  · intro given
    obtain ⟨c, member, same⟩ := given
    exact ⟨c.aspect, by cases c.aspect <;> simp, c, ⟨member, rfl⟩, same⟩

end Found

theorem amounts_compared (x y : Amount) :
    (Predicate.le? (.ofAmount x) (.ofAmount y)).getD false = x.finiteLe y := by
  cases x <;> cases y <;> rfl

theorem clause_admits (c : Condition) (p : Product) : c.clause.admits p.record = c.met p := by
  cases c with
  | category name => rfl
  | atLeast token bound => exact amounts_compared bound p.price
  | atMost token bound => exact amounts_compared p.price bound

/-! No trigger, and the target -/

theorem value_mentions {c : Condition} (valid : c.Written) {text : List Char}
    (silent : ¬ Relation.users.MentionedIn "from" text) :
    ¬ Relation.users.MentionedIn "from" (c.value ++ text) := by
  have keyword : isKeyword "from".toList = true := by decide
  cases c with
  | category name =>
    have apart := mentioned_apart keyword (r := .users) (by decide : '\''.isAlpha = false)
      (by decide : isBlank '\'' = false)
    have split : (category name).value ++ text = [' '] ++ '\'' :: (name.toList ++ '\'' :: text) := by
      simp [value, aspect, token]
    rw [split, apart, apart, not_or, not_or]
    exact ⟨blanks_mention_nothing keyword one_blank, valid.2.2, silent⟩
  | atLeast token bound | atMost token bound =>
    obtain ⟨size, unsigned, -⟩ := valid
    have letterless := numeral_letterless (Numeral.size_is_numeral unsigned)
    refine fun mentioned => silent (mentioned_behind keyword letterless ?_)
    exact mentioned_behind keyword (blanks_letterless one_blank) mentioned

section Select
variable {conditions : List Condition} (written : ∀ c ∈ conditions, c.Written)
include written

/-- In a tautology `=` follows a 1 or a quote, and in the statement it follows no such character. -/
theorem select_untriggered : detectTautology (selectProductsText conditions) = none := by
  refine List.find?_eq_none.mpr fun trigger member => ?_
  rw [Trigger.firesOn, Pattern.word_occurs_iff]
  intro fired
  obtain ⟨before, after, split⟩ := fired
  obtain ⟨front, last, back, text, marked⟩ : ∃ front last back,
      trigger.text.toList = front ++ [last] ++ '=' :: back ∧ (last = '1' ∨ last = '\'') := by
    cases trigger with
    | quotedTautology => exact ⟨['\'', '1'], '\'', ['\'', '1'], by decide +kernel, Or.inr rfl⟩
    | tautology => exact ⟨[], '1', ['1'], by decide +kernel, Or.inl rfl⟩
    | or | union => simp [Trigger.all, Trigger.isTautology] at member
  have placed : normalized (selectProductsText conditions) =
      (before ++ front ++ [last]) ++ '=' :: (back ++ after) := by
    rw [← split, text]
    simp
  obtain ⟨x, y, whole, upper, -⟩ := normalized_split (by decide) (by decide) placed
  rw [select_text_split] at whole
  obtain ⟨c, -, earlier, -, rfl, -⟩ := equals_placed written lead_without_equals whole
  have closing : ∃ d, ((uppercase c.aspect.lead).map singleQuote).getLast? = some d ∧
      d ≠ '1' ∧ d ≠ '\'' := by
    cases c.aspect with
    | category => exact ⟨' ', by decide +kernel, by decide⟩
    | least => exact ⟨'>', by decide +kernel, by decide⟩
    | most => exact ⟨'<', by decide +kernel, by decide⟩
  obtain ⟨d, closing, plain⟩ := closing
  have ends := congrArg List.getLast? upper
  rw [uppercase, List.flatMap_append, List.map_append, List.getLast?_append, ← uppercase,
    ← uppercase, closing, List.getLast?_concat, Option.some_or] at ends
  obtain rfl := Option.some.inj ends
  exact marked.elim plain.1 plain.2

theorem glued_mentions {joint : List Char}
    (leads : ∀ a : Aspect, ¬ Relation.users.MentionedIn "from" (joint ++ a.lead)) :
    ¬ Relation.users.MentionedIn "from" (glued joint conditions) := by
  have keyword : isKeyword "from".toList = true := by decide
  induction conditions generalizing joint with
  | nil => exact mentioned_needs_letter keyword (by simp [glued])
  | cons c conditions ih =>
    have joined : ∀ a : Aspect, ¬ Relation.users.MentionedIn "from" (" AND ".toList ++ a.lead) := by
      intro a
      rw [mentioned_iff_occurs keyword]
      cases a <;> decide +kernel
    rw [glued, List.append_assoc, List.cons_append, mentioned_apart keyword (by decide) (by decide),
      not_or]
    have later := ih (fun c member => written c (by simp [member])) joined
    exact ⟨leads c.aspect, value_mentions (written c (by simp)) later⟩

theorem select_classified : classify (selectProductsText conditions) = ⟨.select, some .products⟩ := by
  have keyword : isKeyword "from".toList = true := by decide
  have starts : (selectProductsText conditions).toList =
      Kind.select.name.toList.map Char.toUpper ++
        (" * FROM products WHERE ".toList ++ glued [] conditions) := by
    have head : selectLead =
        Kind.select.name.toList.map Char.toUpper ++ " * FROM products WHERE ".toList := by
      decide +kernel
    rw [select_text_split, head, List.append_assoc]
  refine classify_mentioned rfl starts ?_ ?_
  · have mentioned : Relation.products.MentionedIn "from" selectLead :=
      (mentioned_iff_occurs keyword).mpr (by decide +kernel)
    rw [select_text_split]
    exact mentioned_infix mentioned (List.prefix_append _ _).isInfix
  · intro other earlier
    obtain rfl : other = .users := by
      cases other <;> simp_all [Relation.all]
    rw [select_text_split]
    cases conditions with
    | nil =>
      rw [mentioned_iff_occurs keyword]
      decide +kernel
    | cons c conditions =>
      have leads : ∀ a : Aspect, ¬ Relation.users.MentionedIn "from" (selectLead ++ a.lead) := by
        intro a
        rw [mentioned_iff_occurs keyword]
        cases a <;> decide +kernel
      have joined : selectLead ++ glued [] (c :: conditions) = glued selectLead (c :: conditions) := by
        simp only [glued, List.nil_append, List.append_assoc]
      rw [joined]
      exact glued_mentions written leads

theorem select_rows (apart : (conditions.map aspect).Nodup) (now : Timestamp) (s : Store) :
    (execute now (selectProductsText conditions) s).outcome =
      .rows ((s.products.rows.filter fun p => conditions.all (·.met p)).map .product) := by
  have admitted (p : Product) : (Clause.ofProducts (selectProductsText conditions)).all
      (Clause.admits p.record) = conditions.all (·.met p) := by
    rw [Bool.eq_iff_iff, List.all_eq_true, List.all_eq_true]
    simp only [clause_listed_iff written apart, forall_exists_index, and_imp,
      forall_apply_eq_imp_iff₂, clause_admits]
  simp only [execute, select_classified written, selectProducts, select_untriggered written,
    selected_by_clauses, admitted]

end Select

/-- A SELECT of products under any conditions, at most one of each aspect, returns in stored order
    just the products that meet them all, and the order of the conditions does not matter. -/
theorem conditions_select {conditions : List Condition} (written : ∀ c ∈ conditions, c.Written)
    (apart : (conditions.map aspect).Nodup) (now : Timestamp) (s : Store) :
    (execute now (selectProductsText conditions) s).outcome =
      .rows ((s.products.rows.filter fun p => conditions.all (·.met p)).map .product) ∧
    ∀ other, other.Perm conditions →
      (execute now (selectProductsText other) s).outcome =
        (execute now (selectProductsText conditions) s).outcome := by
  refine ⟨select_rows written apart now s, fun other perm => ?_⟩
  have written' : ∀ c ∈ other, c.Written := fun c member => written c (perm.mem_iff.mp member)
  have apart' : (other.map aspect).Nodup := (perm.map aspect).nodup_iff.mpr apart
  have met (p : Product) : other.all (·.met p) = conditions.all (·.met p) := perm.all_eq
  simp only [select_rows written' apart', select_rows written apart, met]

/-- A category that imitates other clauses, and a price that is just the upper bound. -/
theorem imitating_category_selected :
    let category := "\" OR id price < 9 AND category from orders"
    let conditions := [Condition.atMost "0300.50" (.ofRatio false 601 2), .category category,
      .atLeast "2" (.ofRatio false 2 1)]
    let s := (Store.seeded default).appendProduct default
      ⟨"Hub", "Four ports", .ofRatio false 601 2, category, 3⟩
    (execute default (selectProductsText conditions) s).outcome =
        .rows [.product ⟨5, "Hub", "Four ports", .ofRatio false 601 2, category, 3, default⟩] ∧
      (execute default (selectProductsText conditions.reverse) s).outcome =
        (execute default (selectProductsText conditions) s).outcome := by
  intro category conditions s
  have clean : (Condition.category category).Written := by
    refine ⟨by decide +kernel, by decide +kernel, ?_⟩
    rw [mentioned_iff_occurs (by decide)]
    decide +kernel
  have most : (Condition.atMost "0300.50" (.ofRatio false 601 2)).Written := by
    have whole : Numeral.Plain ['0', '3', '0', '0'] := ⟨by simp, by simp⟩
    have decimals : Numeral.Plain ['5', '0'] := ⟨by simp, by simp⟩
    have token : "0300.50".toList = ['0', '3', '0', '0'] ++ '.' :: ['5', '0'] := by decide +kernel
    have unsigned := Numeral.Size.fraction whole decimals
    have read : Numeral.amount? "0300.50".toList = some (.ofRatio false 601 2) := by decide +kernel
    rw [← token] at unsigned
    exact (read_bound_written unsigned read).2
  have least : (Condition.atLeast "2" (.ofRatio false 2 1)).Written := by
    have plain : Numeral.Plain "2".toList := ⟨by simp, by simp⟩
    have read : Numeral.amount? "2".toList = some (.ofRatio false 2 1) := by decide +kernel
    exact (read_bound_written (.whole plain) read).1
  have written : ∀ c ∈ conditions, c.Written := by
    intro c member
    simp only [conditions, List.mem_cons, List.not_mem_nil, or_false] at member
    rcases member with rfl | rfl | rfl
    · exact most
    · exact clean
    · exact least
  obtain ⟨rows, reordered⟩ := conditions_select written (by decide) default s
  refine ⟨?_, reordered _ (List.reverse_perm conditions)⟩
  rw [rows]
  decide +kernel

end InjectionLab
