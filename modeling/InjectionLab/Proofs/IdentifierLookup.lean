import InjectionLab.Proofs.LiteralList
import InjectionLab.Proofs.Lookup
import InjectionLab.Proofs.Override
import InjectionLab.Proofs.Selection
import InjectionLab.Proofs.Text.Mention
import InjectionLab.Proofs.Text.Operator
import InjectionLab.Proofs.Trace

/-!
Asking for an identifier. The leftmost place where a SELECT asks for one decides alone: its digits
are a position in the relation, and the row there is returned or none. Digits that denote no
position ask for no row, whether they are too many, not ASCII or zero.
-/
namespace InjectionLab
open Text

/-- Between two parts of the text an identifier is asked for: the keyword in either case, `=` with
    white space around it, and digits. -/
def AsksFor (text before digits after : List Char) : Prop :=
  ∃ keyword gap space : List Char,
    text = before ++ (keyword ++ gap ++ '=' :: space ++ digits) ++ after ∧
    keyword.map Char.toLower = "id".toList ∧ Blanks gap ∧ Blanks space ∧ Digits digits

def FirstAsked (sql : String) (digits : List Char) : Prop :=
  ∃ before after, AsksFor sql.toList before digits after ∧ Outside isDigit after ∧
    ∀ before' digits' after', AsksFor sql.toList before' digits' after' →
      before.length ≤ before'.length

/-- The outcome is the row at the position that the digits denote, which is the only row under that
    identifier, or no row if they denote no position. -/
structure LookedUp (rows : List Row) (digits : List Char) (outcome : Outcome) : Prop where
  present : Numeral.Plain digits → 1 ≤ Numeral.natural digits →
    Numeral.natural digits ≤ rows.length →
      ∃ row, rows[Numeral.natural digits - 1]? = some row ∧
        row.id.toInt = Numeral.natural digits ∧
        (∀ other ∈ rows, other.id = row.id → other = row) ∧ outcome = .rows [row]
  absent : ¬ (Numeral.Plain digits ∧ 1 ≤ Numeral.natural digits ∧
    Numeral.natural digits ≤ rows.length) → outcome = .rows []

/-! The place in the text -/

theorem id_spelt {keyword : List Char} : keyword.map Char.toLower = "id".toList ↔
    List.Forall₂ (fun letter c => sameLetter letter c = true) "id".toList keyword := by
  simp only [sameLetter, List.map_eq_cons_iff, List.map_eq_nil_iff, List.forall₂_cons_left_iff,
    List.forall₂_nil_left_iff, String.reduceToList]
  constructor
  · intro spelt
    obtain ⟨i, _, rfl, low, d, _, rfl, low', rfl⟩ := spelt
    exact ⟨i, _, by simp [low], ⟨d, _, by simp [low'], rfl, rfl⟩, rfl⟩
  · intro spelt
    obtain ⟨i, _, low, ⟨d, _, low', rfl, rfl⟩, rfl⟩ := spelt
    exact ⟨i, _, rfl, by simpa using low, d, _, rfl, by simpa using low', rfl⟩

theorem id_parts_fit {parts : List (List Char)} :
    List.Forall₂ Piece.Fits Clause.idPattern parts ↔
      ∃ keyword gap space digits : List Char,
        parts = keyword.map ([·]) ++ [gap, ['='], space, digits] ∧
          keyword.map Char.toLower = "id".toList ∧ Blanks gap ∧ Blanks space ∧ Digits digits := by
  simp only [Clause.idPattern, Pattern.word, fits_append, word_fits, id_spelt,
    List.forall₂_cons_left_iff, List.forall₂_nil_left_iff]
  constructor
  · intro split
    obtain ⟨_, _, rfl, ⟨keyword, spelt, rfl⟩, gap, _, blank, ⟨_, _, rfl, ⟨space, _, blank', ⟨digits,
      _, fits, rfl, rfl⟩, rfl⟩, rfl⟩, rfl⟩ := split
    exact ⟨keyword, gap, space, digits, rfl, spelt, blank, blank', bare_numeral.mp fits⟩
  · intro split
    obtain ⟨keyword, gap, space, digits, rfl, spelt, blank, blank', fits⟩ := split
    exact ⟨_, _, rfl, ⟨keyword, spelt, rfl⟩, gap, _, blank, ⟨_, _, rfl, ⟨space, _, blank', ⟨digits,
      _, bare_numeral.mpr fits, rfl, rfl⟩, rfl⟩, rfl⟩, rfl⟩

theorem id_parts_text (keyword gap space digits : List Char) :
    (keyword.map ([·]) ++ [gap, ['='], space, digits]).flatten =
      keyword ++ gap ++ '=' :: space ++ digits := by
  simp [← List.flatMap_def]

theorem id_read_iff {text : List Char} {tokens : List (List Char)} :
    Clause.idPattern.read? text = some tokens ↔ ∃ digits rest,
      AsksFor text [] digits rest ∧ Outside isDigit rest ∧ tokens = [digits] := by
  have last : Clause.idPattern.getLast? = some (.numeral false false) := rfl
  rw [Pattern.read_iff]
  constructor
  · intro read
    obtain ⟨parts, rest, rfl, reads, rfl⟩ := read
    obtain ⟨keyword, gap, space, digits, rfl, spelt, blank, blank', valid⟩ :=
      id_parts_fit.mp (Pattern.reads_fit reads)
    have partLast : (keyword.map ([·]) ++ [gap, ['='], space, digits]).getLast? = some digits := by
      simp
    have outside := (Pattern.reads_end reads last partLast).1
    refine ⟨digits, rest, ⟨keyword, gap, space, by rw [id_parts_text, List.nil_append], spelt, blank, blank',
      valid⟩, outside, ?_⟩
    obtain ⟨i, _, rfl, -, d, _, rfl, -, rfl⟩ := by
      simpa only [List.map_eq_cons_iff, List.map_eq_nil_iff, String.reduceToList] using spelt
    rfl
  · intro split
    obtain ⟨digits, rest, ⟨keyword, gap, space, rfl, spelt, blank, blank', valid⟩, outside, rfl⟩ :=
      split
    have fits := id_parts_fit.mpr ⟨keyword, gap, space, digits, rfl, spelt, blank, blank', valid⟩
    have reads : Clause.idPattern.Reads _ rest := Pattern.reads_of_fits (by decide) fits (by
      intro piece part pieceLast partLast
      obtain rfl := Option.some.inj (last.symm.trans pieceLast)
      exact ⟨outside, fun signed => by cases signed⟩)
    refine ⟨_, rest, by rw [id_parts_text, List.nil_append], reads, ?_⟩
    obtain ⟨i, _, rfl, -, d, _, rfl, -, rfl⟩ := by
      simpa only [List.map_eq_cons_iff, List.map_eq_nil_iff, String.reduceToList] using spelt
    rfl

theorem asks_for_behind {text before digits after : List Char} :
    AsksFor text before digits after ↔ ∃ rest, text = before ++ rest ∧ AsksFor rest [] digits after
    := by
  constructor
  · intro asks
    obtain ⟨keyword, gap, space, rfl, parts⟩ := asks
    exact ⟨_, List.append_assoc _ _ _, keyword, gap, space, rfl, parts⟩
  · intro asks
    obtain ⟨rest, rfl, keyword, gap, space, rfl, parts⟩ := asks
    exact ⟨keyword, gap, space, (List.append_assoc _ _ _).symm, parts⟩

theorem asks_for_longest {text before digits after : List Char}
    (asks : AsksFor text before digits after) :
    ∃ digits' after', AsksFor text before digits' after' ∧ Outside isDigit after' := by
  obtain ⟨keyword, gap, space, rfl, spelt, blank, blank', valid⟩ := asks
  obtain ⟨split, more, outside⟩ := (@span_iff isDigit after _ _).mp ⟨rfl, rfl⟩
  refine ⟨digits ++ after.takeWhile isDigit, after.dropWhile isDigit,
    ⟨keyword, gap, space, ?_, spelt, blank, blank', by simp [valid.1], ?_⟩, outside⟩
  · simp [← split]
  · intro c member
    rcases List.mem_append.mp member with first | second
    · exact valid.2 c first
    · exact more c second

theorem readable_iff_asks {text before rest : List Char} (split : text = before ++ rest) :
    Clause.idPattern.read? rest ≠ none ↔ ∃ digits after, AsksFor text before digits after := by
  simp only [ne_eq, ← Option.not_isSome_iff_eq_none, not_not, Option.isSome_iff_exists, id_read_iff]
  constructor
  · intro readable
    obtain ⟨_, digits, after, asks, _, rfl⟩ := readable
    exact ⟨digits, after, asks_for_behind.mpr ⟨rest, split, asks⟩⟩
  · intro asks
    obtain ⟨digits, after, asks⟩ := asks
    obtain ⟨digits, after, asks, outside⟩ := asks_for_longest asks
    obtain ⟨rest', split', asks⟩ := asks_for_behind.mp asks
    obtain rfl := List.append_cancel_left (split.symm.trans split')
    exact ⟨_, digits, after, asks, outside, rfl⟩

theorem asked_iff {text : List Char} : Clause.idPattern.occursIn text = true ↔
    ∃ parts, List.Forall₂ Piece.Fits Clause.idPattern parts ∧ parts.flatten <:+: text := by
  rw [Pattern.occursIn, Option.isSome_iff_ne_none, ne_eq, Pattern.find_none_iff]
  simp only [not_forall]
  constructor
  · intro found
    obtain ⟨before, rest, split, readable⟩ := found
    obtain ⟨digits, after, keyword, gap, space, placed, spelt⟩ :=
      (readable_iff_asks split).mp readable
    refine ⟨_, id_parts_fit.mpr ⟨keyword, gap, space, digits, rfl, spelt⟩, before, after, ?_⟩
    rw [id_parts_text, placed]
  · intro found
    obtain ⟨parts, fits, before, after, split⟩ := found
    obtain ⟨keyword, gap, space, digits, rfl, spelt⟩ := id_parts_fit.mp fits
    rw [id_parts_text] at split
    have placed := split.symm.trans (List.append_assoc _ _ _)
    exact ⟨before, _, placed, (readable_iff_asks placed).mpr
      ⟨digits, after, keyword, gap, space, split.symm, spelt⟩⟩

theorem asked_apart {mark : Char} (unheld : ∀ piece ∈ Clause.idPattern, piece.mayHold mark = false)
    (front back : List Char) : Clause.idPattern.occursIn (front ++ mark :: back) =
      (Clause.idPattern.occursIn front || Clause.idPattern.occursIn back) := by
  rw [Bool.eq_iff_iff, Bool.or_eq_true, asked_iff, asked_iff, asked_iff, ← exists_or]
  refine exists_congr fun parts => ?_
  rw [← and_or_left]
  exact and_congr_right fun fits => infix_apart (absent_from_parts unheld fits)

theorem first_asked_iff {sql : String} {digits : List Char} :
    FirstAsked sql digits ↔ Clause.idPattern.find? sql.toList = some [digits] := by
  rw [Pattern.find_some_iff]
  constructor
  · intro asked
    obtain ⟨before, after, asks, outside, leftmost⟩ := asked
    obtain ⟨rest, split, asks⟩ := asks_for_behind.mp asks
    refine ⟨before, rest, split, id_read_iff.mpr ⟨digits, after, asks, outside, rfl⟩, ?_⟩
    intro earlier later split' readable
    obtain ⟨digits', after', asks'⟩ := (readable_iff_asks split').mp readable
    exact leftmost earlier digits' after' asks'
  · intro found
    obtain ⟨before, rest, split, read, leftmost⟩ := found
    obtain ⟨_, after, asks, outside, same⟩ := id_read_iff.mp read
    obtain rfl := List.singleton_inj.mp same
    refine ⟨before, after, asks_for_behind.mpr ⟨rest, split, asks⟩, outside, ?_⟩
    intro before' digits' after' asks'
    obtain ⟨rest', split', _⟩ := asks_for_behind.mp asks'
    exact leftmost before' rest' split' ((readable_iff_asks split').mpr ⟨digits', after', asks'⟩)

/-! The rows -/

theorem asked_clauses {sql : String} {digits : List Char} (asked : FirstAsked sql digits) :
    Clause.ofUsers sql = [.id (Numeral.integer? digits)] ∧
      Clause.ofProducts sql = [.id (Numeral.integer? digits)] := by
  have found := first_asked_iff.mp asked
  have clause : Clause.id? sql = some (.id (Numeral.integer? digits)) := by
    simp only [Clause.id?, Clause.captured?, found, Option.map_some]
  exact ⟨by rw [Clause.ofUsers, clause]; rfl, by rw [Clause.ofProducts, clause]⟩

theorem no_id_selects_nothing {α : Type} (record : α → Record) (rows : List α) :
    selected record none [.id none] rows = [] := by
  rw [selected_by_clauses]
  exact List.filter_eq_nil_iff.mpr fun _ _ => Bool.false_ne_true

theorem row_at_beyond {α : Type} {rows : List α} {id : Int64} {n : Nat} (number : id.toInt = n)
    (beyond : ¬ (1 ≤ n ∧ n ≤ rows.length)) : rowAt rows id = none := by
  rw [rowAt, number]
  split
  · exact List.getElem?_eq_none (by omega)
  · rfl

section Selected
variable {α : Type} {key : α → Int64} {t : Table α} (numbered : t.Numbered key)
include numbered

theorem row_at_within {id : Int64} {n : Nat} (number : id.toInt = n) (positive : 1 ≤ n)
    (inside : n ≤ t.rows.length) : ∃ row, rowAt t.rows id = some row ∧
      t.rows[n - 1]? = some row ∧ key row = id ∧ ∀ other ∈ t.rows, key other = id → other = row := by
  have at_position : t.rows[n - 1]? = some t.rows[n - 1] := List.getElem?_eq_getElem (by omega)
  have found : rowAt t.rows id = some t.rows[n - 1] := by
    rw [rowAt, number, if_pos (by omega), show ((n : Int) - 1).toNat = n - 1 by omega, at_position]
  have only : t.rows.filter (key · == id) = [t.rows[n - 1]] := by
    rw [filter_by_id numbered, found]
    rfl
  have under (row : α) : row ∈ t.rows ∧ key row = id ↔ row = t.rows[n - 1] := by
    have member : row ∈ t.rows.filter (key · == id) ↔ row ∈ [t.rows[n - 1]] := by rw [only]
    simpa only [List.mem_filter, beq_iff_eq, List.mem_singleton] using member
  exact ⟨t.rows[n - 1], found, at_position, ((under _).mpr rfl).2,
    fun other stored same => (under other).mp ⟨stored, same⟩⟩

variable {record : α → Record} (keyed : ∀ row, (record row).id = key row)
include keyed

theorem selected_by_id (id : Int64) :
    selected record none [.id (some id)] t.rows = (rowAt t.rows id).toList := by
  rw [selected_by_clauses, ← filter_by_id numbered]
  simp [Clause.admits, Clause.predicate, Predicate.holds, keyed]

theorem selected_lookup {wrap : α → Row} (named : ∀ row, (wrap row).id = key row)
    (room : t.rows.length < Int64.maxValue.toInt) {digits : List Char} (valid : Digits digits) :
    LookedUp (t.rows.map wrap) digits (.rows
      ((selected record none [.id (Numeral.integer? digits)] t.rows).map wrap)) := by
  have nothing (unheld : Numeral.integer? digits = none) : Outcome.rows
      ((selected record none [.id (Numeral.integer? digits)] t.rows).map wrap) = .rows [] := by
    rw [unheld, no_id_selects_nothing, List.map_nil]
  rcases Numeral.plain_or_foreign valid with plain | foreign
  · have read := Numeral.integer_denoted (.positive plain)
    cases held : Numeral.int64? (Numeral.natural digits) with
    | none =>
      -- A number that 64 bits do not hold is greater than any row count.
      have beyond := Numeral.int64_none_iff.mp held
      have least : Int64.minValue.toInt < 0 := by decide
      refine ⟨fun _ _ inside => ?_, fun _ => nothing (read.trans held)⟩
      rw [List.length_map] at inside
      omega
    | some id =>
      have number := Numeral.int64_some_iff.mp held
      rw [read, held, selected_by_id numbered keyed]
      constructor
      · intro _ positive inside
        rw [List.length_map] at inside
        obtain ⟨row, found, position, keyId, only⟩ := row_at_within numbered number positive inside
        refine ⟨wrap row, by rw [List.getElem?_map, position]; rfl, by rw [named, keyId, number], ?_,
          by rw [found]; rfl⟩
        intro other member same
        obtain ⟨row', stored, rfl⟩ := List.mem_map.mp member
        rw [named, named, keyId] at same
        rw [only row' stored same]
      · intro outside
        rw [List.length_map] at outside
        rw [row_at_beyond number fun within => outside ⟨plain, within⟩]
        rfl
  · refine ⟨fun plain => absurd foreign (Numeral.plain_not_foreign plain), fun _ => nothing ?_⟩
    have fits : NumeralText true false digits :=
      ⟨[], digits, [], by simp, valid, Or.inl rfl, Or.inl rfl⟩
    rcases Numeral.integer_text fits with ⟨_, unheld⟩ | ⟨plain, _⟩
    · exact unheld
    · exact absurd foreign plain

end Selected

/-- A SELECT on users or products that no trigger overrides and that asks for an identifier looks
    up the digits at the leftmost place where it asks, and heeds nothing else: not what else it
    asks for, and no other identifier. -/
theorem identifier_looked_up {s : Store} (reachable : s.Reachable) {sql : String} {r : Relation}
    (select : classify sql = ⟨.select, some r⟩) (checked : r ≠ .orders)
    (harmless : overriding? sql = none) {digits : List Char} (asked : FirstAsked sql digits)
    (room : (s.rowsOf r).length < Int64.maxValue.toInt) (now : Timestamp) :
    LookedUp (s.rowsOf r) digits (execute now sql s).outcome := by
  obtain ⟨ofUsers, ofProducts⟩ := asked_clauses asked
  have valid : Digits digits := by
    obtain ⟨_, _, ⟨_, _, _, _, _, _, _, valid⟩, _⟩ := asked
    exact valid
  cases r with
  | users =>
    rw [Store.rowsOf, List.length_map] at room
    have untriggered : detectInjection sql = none := by simpa [overriding?, select] using harmless
    simp only [execute, select, selectUsers, untriggered, ofUsers]
    exact selected_lookup (users_numbered reachable room) (fun _ => rfl) (fun _ => rfl) room valid
  | products =>
    rw [Store.rowsOf, List.length_map] at room
    have untriggered : detectTautology sql = none := by simpa [overriding?, select] using harmless
    simp only [execute, select, selectProducts, untriggered, ofProducts]
    exact selected_lookup (products_numbered reachable room) (fun _ => rfl) (fun _ => rfl) room valid
  | orders => exact absurd rfl checked

/-- Digits with zeros in front and a letter behind them, after another column's name and before a
    second identifier and a role. -/
theorem padded_identifier_looked_up :
    let sql := "SELECT email FROM users WHERE user_Id =\t0003x AND id = 1 AND role = 'admin'"
    FirstAsked sql "0003".toList ∧ ∃ row, row.id.toInt = 3 ∧
      (execute default sql (.seeded default)).outcome = .rows [row] := by
  intro sql
  have fresh : (Store.seeded default).Reachable := ⟨_, [], Or.inr ⟨default, rfl⟩, rfl⟩
  have select : classify sql = ⟨.select, some .users⟩ := by decide +kernel
  have harmless : overriding? sql = none := by decide +kernel
  have asked : FirstAsked sql "0003".toList := first_asked_iff.mpr (by decide +kernel)
  have count : ((Store.seeded default).rowsOf .users).length = 4 := by decide +kernel
  have room : (((Store.seeded default).rowsOf .users).length : Int) < Int64.maxValue.toInt := by
    rw [count]
    decide
  have plain : Numeral.Plain "0003".toList := ⟨by simp, by simp⟩
  have value : Numeral.natural "0003".toList = 3 := by decide
  have found := (identifier_looked_up fresh select (by decide) harmless asked room default).present
    plain (by rw [value]; decide) (by rw [value, count]; decide)
  obtain ⟨row, _, number, _, outcome⟩ := found
  rw [value] at number
  exact ⟨asked, row, number, outcome⟩

example : (execute default "SELECT * FROM products WHERE id=\u0663 AND id = 1"
    (.seeded default)).outcome = .rows [] := by decide +kernel

end InjectionLab
