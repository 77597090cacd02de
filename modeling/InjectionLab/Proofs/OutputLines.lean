import InjectionLab.Proofs.Override
import InjectionLab.Proofs.ScriptTranscript

/-!
Lines of a transcript. A statement of a script is a part of one line, and what it stores is a part
of the statement, so no line break gets into the store. Rows are printed with their texts as they
are, but each of them fills one line, and the outcomes alone settle how many lines there are.
-/
namespace InjectionLab
open Text

def Unbroken (text : String) : Prop := '\n' ∉ text.toList

def StoredRow.texts : StoredRow → List String
  | user u => [u.username, u.email, u.password, u.role]
  | product p => [p.name, p.description, p.category]
  | order o => [o.status]

def Row.texts : Row → List String
  | user u => [u.username, u.email, u.password, u.role]
  | product p => [p.name, p.description, p.category]
  | order o => [o.order.status, o.username, o.productName]

def Store.Flat (s : Store) : Prop :=
  ∀ r, ∀ row ∈ s.stored r, ∀ text ∈ row.texts, Unbroken text

theorem unbroken_append {front back : String} :
    Unbroken (front ++ back) ↔ Unbroken front ∧ Unbroken back := by
  rw [Unbroken, String.toList_append, List.mem_append, not_or]
  rfl

/-! What is stored -/

/-- What a row is made of stands in the statement, but for the status of an order. -/
theorem written_within {sql : String} {entry : Entry} (written : written? sql = some entry)
    (id : Int64) (now : Timestamp) :
    ∀ text ∈ (entry.row id now).texts, text.toList <:+: sql.toList ∨ text = "pending" := by
  obtain ⟨before, l, ⟨derived, after, split⟩, holds⟩ := written_holds written
  have tokens : ∀ token ∈ l.tokens, (String.ofList token).toList <:+: sql.toList := by
    intro token member
    have read := list_read_iff.mpr ⟨l, after, derived, rfl, rfl⟩
    rw [String.toList_ofList, split, List.append_assoc]
    exact (Pattern.read_within read token member).trans (List.suffix_append _ _).isInfix
  generalize l.tokens = found at holds tokens
  intro text member
  cases holds with
  | user | product =>
    simp only [Entry.row, StoredRow.texts, List.mem_cons, List.not_mem_nil, or_false] at member
    left
    rcases member with rfl | rfl | rfl | rfl <;> exact tokens _ (by simp)
  | order => exact Or.inr (List.mem_singleton.mp member)

theorem execute_flat {s : Store} (flat : s.Flat) {sql : String} (unbroken : Unbroken sql)
    (now : Timestamp) : (execute now sql s).store.Flat := by
  have effect := execute_written now sql s
  cases written : written? sql with
  | none =>
    simp only [written] at effect
    rw [effect.1]
    exact flat
  | some entry =>
    simp only [written] at effect
    rw [effect.1]
    intro r row stored
    rw [stored_add] at stored
    split at stored
    · rcases List.mem_append.mp stored with old | new
      · exact flat r row old
      · obtain rfl := List.mem_singleton.mp new
        intro text member broken
        rcases written_within written _ now text member with within | rfl
        · exact unbroken (within.subset broken)
        · revert broken
          decide +kernel
    · exact flat r row stored

theorem seed_unbroken :
    (∀ v ∈ Store.seedUsers, ∀ text ∈ [v.username, v.email, v.password, v.role], Unbroken text) ∧
      ∀ v ∈ Store.seedProducts, ∀ text ∈ [v.name, v.description, v.category], Unbroken text := by
  simp only [Unbroken]
  decide +kernel

theorem seeded_flat (now : Timestamp) : (Store.seeded now).Flat := by
  obtain ⟨users, products⟩ := seed_unbroken
  simp only [Store.seedUsers, Store.seedProducts, List.forall_mem_cons] at users products
  intro r row stored
  cases r with
  | users =>
    obtain ⟨u, member, rfl⟩ := List.mem_map.mp stored
    fin_cases member <;> simp_all [StoredRow.texts]
  | products =>
    obtain ⟨p, member, rfl⟩ := List.mem_map.mp stored
    fin_cases member <;> simp_all [StoredRow.texts]
  | orders => cases stored

/-! What is returned -/

theorem returned_stored {now : Timestamp} {sql : String} {s : Store} {row : Row}
    (returned : row ∈ (execute now sql s).outcome.rowList) : ∃ r, row ∈ s.rowsOf r := by
  by_cases select : ∃ r, classify sql = ⟨.select, some r⟩
  · obtain ⟨r, select⟩ := select
    exact ⟨r, (select_sublist now s select).subset returned⟩
  · have hidden := Cli.hidden_part now sql s
    generalize named : classify sql = c at select hidden
    obtain ⟨kind, relation⟩ := c
    cases kind with
    | insert =>
      rw [if_pos rfl] at hidden
      rw [hidden] at returned
      cases returned
    | select =>
      cases relation with
      | none =>
        rw [execute, named] at returned
        cases returned
      | some r => exact absurd ⟨r, rfl⟩ select
    | unknown =>
      rw [execute, named] at returned
      cases relation <;> cases returned

theorem name_unbroken {α : Type} {rows : List α} {name : α → String}
    (unbroken : ∀ row ∈ rows, Unbroken (name row)) (asked : α → Bool) :
    Unbroken (((rows.find? asked).map name).getD Store.unknownName) := by
  cases found : rows.find? asked with
  | none => exact (by decide +kernel : '\n' ∉ Store.unknownName.toList)
  | some row => exact unbroken row (List.mem_of_find?_eq_some found)

theorem row_unbroken {s : Store} (flat : s.Flat) {r : Relation} {row : Row}
    (member : row ∈ s.rowsOf r) : ∀ text ∈ row.texts, Unbroken text := by
  cases r with
  | users =>
    obtain ⟨u, stored, rfl⟩ := List.mem_map.mp member
    exact flat .users (.user u) (List.mem_map_of_mem stored)
  | products =>
    obtain ⟨p, stored, rfl⟩ := List.mem_map.mp member
    exact flat .products (.product p) (List.mem_map_of_mem stored)
  | orders =>
    obtain ⟨_, viewed, rfl⟩ := List.mem_map.mp member
    obtain ⟨o, stored, rfl⟩ := List.mem_map.mp viewed
    have users : ∀ u ∈ s.users.rows, Unbroken u.username := fun u stored =>
      flat .users (.user u) (List.mem_map_of_mem stored) _ (by simp [StoredRow.texts])
    have products : ∀ p ∈ s.products.rows, Unbroken p.name := fun p stored =>
      flat .products (.product p) (List.mem_map_of_mem stored) _ (by simp [StoredRow.texts])
    have status : Unbroken o.status := flat .orders (.order o) (List.mem_map_of_mem stored) _
      (by simp [StoredRow.texts])
    intro text listed
    simp only [Row.texts, List.mem_cons, List.not_mem_nil, or_false] at listed
    rcases listed with rfl | rfl | rfl
    · exact status
    · exact name_unbroken users _
    · exact name_unbroken products _

/-! The fields of a row -/

theorem numeric_unbroken {text : List Char} (numeric : Json.Number.Numeric text) :
    '\n' ∉ text := by
  intro broken
  have allowed := numeric '\n' broken
  revert allowed
  decide

theorem padded_unbroken (width n : Nat) : '\n' ∉ Timestamp.padded width n := by
  intro broken
  have digit := Timestamp.padded_digits width n '\n' broken
  revert digit
  decide

theorem timestamp_unbroken (t : Timestamp) : Unbroken (String.ofList t.text) := by
  have year : '\n' ∉ Timestamp.yearText t.year := by
    unfold Timestamp.yearText
    split_ifs <;> simp [padded_unbroken]
  have fraction : '\n' ∉ Timestamp.fractionText t.nano := by
    unfold Timestamp.fractionText
    split_ifs <;> simp [padded_unbroken]
  simp [Unbroken, Timestamp.text, padded_unbroken, year, fraction]

theorem int_unbroken (n : Int) : Unbroken (toString n) := by
  rw [← Cli.int_string_eq, Unbroken, Cli.intString, String.toList_ofList]
  exact numeric_unbroken (Json.Number.int_text_numeric n)

theorem amount_unbroken (amount : Amount) : Unbroken (Json.ofAmount amount).compactText := by
  rw [Unbroken, Json.compactText, String.toList_ofList]
  cases amount with
  | finite x =>
    rw [Json.ofAmount, Json.compact]
    exact numeric_unbroken (Json.Number.text_numeric (.real x))
  | infinite => simp [Json.ofAmount, Json.compact]

theorem cells_unbroken {row : Row} (unbroken : ∀ text ∈ row.texts, Unbroken text) :
    ∀ cell ∈ row.cells, Unbroken (cell.1 ++ "=" ++ cell.2) := by
  have names : ∀ cell ∈ row.cells, Unbroken cell.1 := by
    cases row <;> simp [Row.cells, Unbroken]
  have values : ∀ cell ∈ row.cells, Unbroken cell.2 := by
    have whole (n : Int) : Unbroken n.repr := int_unbroken n
    simp only [Row.texts] at unbroken
    cases row <;> simp_all [Row.cells, timestamp_unbroken, amount_unbroken]
  intro cell member
  rw [unbroken_append, unbroken_append]
  exact ⟨⟨names cell member, by simp [Unbroken]⟩, values cell member⟩

namespace Cli

def OneLine (text : String) : Prop := ∃ content, Unbroken content ∧ text = line content

/-- What shows of a text where colours do: all but the codes for them, each of which goes from an
    escape to the next `m`. -/
def shown (inCode : Bool) : List Char → List Char
  | [] => []
  | c :: rest =>
    if inCode then shown (c != 'm') rest
    else if c = '\x1b' then shown true rest else c :: shown false rest

/-- The text shows the sign and the identifier of the row in front, two spaces in. -/
def ShowsRow (row : Row) (text : String) : Prop :=
  ("  #" ++ intString row.id.toInt ++ " ").toList <+: shown false text.toList

/-- The lines for an outcome: one, or one and another one for each of the rows. -/
inductive Report : Outcome → List String → Prop
  | result {change : RunResult} {text : String} : Report (.mutation change) [text]
  | nothing {text : String} : Report (.rows []) [text]
  | rows {row : Row} {more : List Row} {heading : String} {lines : List String}
      (each : List.Forall₂ ShowsRow (row :: more) lines) :
      Report (.rows (row :: more)) (heading :: lines)

structure Prints (medium : Medium) (execution : String × Outcome) (lines : List String) : Prop where
  each : ∀ text ∈ lines, OneLine text
  echoed : lines.head? = some (echo medium execution.1)
  reported : Report execution.2 lines.tail

def lineCount : Outcome → Nat
  | .mutation _ => 2
  | .rows rows => if rows.isEmpty then 2 else 2 + rows.length

def executions (now : Timestamp) (s : Store) : List String → List (String × Outcome)
  | [] => []
  | sql :: rest =>
    let step := execute now sql s
    (sql, step.outcome) :: executions now step.store rest

/-! The lines of an outcome -/

theorem int_string_unbroken (n : Int) : Unbroken (intString n) := by
  rw [int_string_eq]
  exact int_unbroken n

theorem resume_unbroken (style : Style) {text : List Char} (unbroken : '\n' ∉ text) :
    '\n' ∉ style.resume text := by
  induction text using Style.resume.induct with
  | case1 rest ih =>
    simp only [List.mem_cons, not_or] at unbroken
    have codes : '\n' ∉ reset ++ style.start := by cases style <;> decide
    rw [Style.resume, List.mem_append, not_or]
    exact ⟨codes, ih unbroken.2.2.2.2⟩
  | case2 c rest other ih =>
    rw [List.mem_cons, not_or] at unbroken
    rw [Style.resume, List.mem_cons, not_or]
    · exact ⟨unbroken.1, ih unbroken.2⟩
    · exact other
  | case3 => exact unbroken

theorem paint_unbroken (inColor : Bool) (style : Style) {text : String} (unbroken : Unbroken text) :
    Unbroken (paint inColor style text) := by
  unfold paint
  split_ifs
  · have start : '\n' ∉ style.start := by cases style <;> decide
    rw [Unbroken, String.toList_ofList]
    simp [start, resume_unbroken style unbroken, reset]
  · exact unbroken

theorem intercalate_unbroken {separator : String} (apart : Unbroken separator) {texts : List String}
    (unbroken : ∀ text ∈ texts, Unbroken text) : Unbroken (separator.intercalate texts) := by
  rw [Unbroken, String.toList_intercalate]
  induction texts using List.twoStepInduction with
  | nil => simp
  | singleton text => simpa [Unbroken] using unbroken
  | cons_cons first second rest _ ih =>
    rw [List.forall_mem_cons] at unbroken
    have later := ih second unbroken.2
    rw [List.map_cons] at later
    rw [List.map_cons, List.map_cons, List.intercalate_cons_cons, List.mem_append, List.mem_append,
      not_or, not_or]
    exact ⟨⟨unbroken.1, apart⟩, later⟩

theorem echo_one_line {medium : Medium} (table : medium.format = .table) {sql : String}
    (unbroken : Unbroken sql) : OneLine (echo medium sql) := by
  rw [echo, table]
  refine ⟨_, ?_, rfl⟩
  have arrow : Unbroken "→" := by simp [Unbroken]
  simp only [unbroken_append]
  exact ⟨⟨paint_unbroken _ _ arrow, by simp [Unbroken]⟩, paint_unbroken _ _ unbroken⟩

theorem run_one_line {medium : Medium} (table : medium.format = .table) (change : RunResult) :
    OneLine (runReport medium change) := by
  have mark : Unbroken "•" ∧ Unbroken "✓" := by simp [Unbroken]
  rw [runReport, table]
  dsimp only
  split_ifs <;> refine ⟨_, ?_, rfl⟩ <;> simp only [unbroken_append]
  · exact ⟨paint_unbroken _ _ mark.1, by simp [Unbroken]⟩
  · have words : Unbroken " " ∧ Unbroken " row changed (lastInsertRowid: " ∧ Unbroken ")" := by
      simp [Unbroken]
    exact ⟨⟨⟨⟨⟨paint_unbroken _ _ mark.2, words.1⟩, int_string_unbroken _⟩, words.2.1⟩,
      int_string_unbroken _⟩, words.2.2⟩

theorem row_one_line (inColor : Bool) {row : Row} (unbroken : ∀ text ∈ row.texts, Unbroken text) :
    OneLine (rowLine inColor row) := by
  refine ⟨_, ?_, rfl⟩
  have indent : Unbroken "  " ∧ Unbroken " " ∧ Unbroken "#" := by simp [Unbroken]
  have number : Unbroken ("#" ++ intString row.id.toInt) :=
    unbroken_append.mpr ⟨indent.2.2, int_string_unbroken _⟩
  have each : ∀ text ∈ (rowFields row).map fieldText, Unbroken text := by
    rw [fields_of_cells, List.forall_mem_map]
    exact cells_unbroken unbroken
  have fields := intercalate_unbroken indent.2.1 each
  simp only [unbroken_append]
  exact ⟨⟨⟨indent.1, paint_unbroken _ _ number⟩, indent.2.1⟩, paint_unbroken _ _ fields⟩

theorem empty_one_line {medium : Medium} (table : medium.format = .table) (sql : String) :
    OneLine (outcomeReport medium sql (.rows [])) := by
  have empty : OneLine (rowReport medium []) := by
    have words : Unbroken "No rows" := by simp [Unbroken]
    rw [rowReport, table]
    exact ⟨_, paint_unbroken _ _ words, rfl⟩
  rw [outcomeReport]
  cases (classify sql).kind with
  | insert => exact run_one_line table _
  | select | unknown => exact empty

theorem row_table_lines (inColor : Bool) (row : Row) (more : List Row) :
    ∃ heading, OneLine heading ∧ rowTable inColor (row :: more) =
      String.join (heading :: (row :: more).map (rowLine inColor)) := by
  have words : Unbroken "✓" ∧ Unbroken " " ∧ Unbroken " row(s):" := by simp [Unbroken]
  refine ⟨line (paint inColor .green "✓" ++ " " ++ intString (row :: more).length ++ " row(s):"),
    ⟨_, ?_, rfl⟩, ?_⟩
  · simp only [unbroken_append]
    exact ⟨⟨⟨paint_unbroken _ _ words.1, words.2.1⟩, int_string_unbroken _⟩, words.2.2⟩
  · rw [String.join_cons]
    rfl

/-! What shows of a row -/

theorem shown_plain {front : List Char} (plain : '\x1b' ∉ front) (rest : List Char) :
    shown false (front ++ rest) = front ++ shown false rest := by
  induction front with
  | nil => rfl
  | cons c front ih =>
    rw [List.mem_cons, not_or] at plain
    rw [List.cons_append, shown, if_neg Bool.false_ne_true, if_neg (Ne.symm plain.1), ih plain.2,
      List.cons_append]

theorem resume_plain (style : Style) {text : List Char} (plain : '\x1b' ∉ text) :
    style.resume text = text := by
  induction text with
  | nil => rfl
  | cons c rest ih =>
    rw [List.mem_cons, not_or] at plain
    rw [Style.resume, ih plain.2]
    rintro more rfl
    exact absurd rfl plain.1

theorem shown_paint (inColor : Bool) (style : Style) {text : String} (plain : '\x1b' ∉ text.toList)
    (rest : List Char) :
    shown false ((paint inColor style text).toList ++ rest) = text.toList ++ shown false rest := by
  unfold paint
  split_ifs
  · have start (after : List Char) : shown false (style.start ++ after) = shown false after := by
      cases style <;> rfl
    have ended : shown false (reset ++ rest) = shown false rest := rfl
    rw [String.toList_ofList, resume_plain style plain, List.append_assoc, List.append_assoc, start,
      shown_plain plain, ended]
  · exact shown_plain plain rest

theorem row_line_shown (inColor : Bool) (row : Row) : ShowsRow row (rowLine inColor row) := by
  have plain : '\x1b' ∉ ("#" ++ intString row.id.toInt).toList := by
    rw [String.toList_append, List.mem_append, not_or]
    refine ⟨by decide, fun escape => ?_⟩
    rw [intString, String.toList_ofList] at escape
    have allowed := Json.Number.int_text_numeric _ _ escape
    revert allowed
    decide
  have spaces : '\x1b' ∉ "  ".toList ∧ '\x1b' ∉ " ".toList := by decide
  have opening : "  #" ++ intString row.id.toInt = "  " ++ ("#" ++ intString row.id.toInt) := by
    rw [← String.append_assoc]
    rfl
  rw [ShowsRow, rowLine, line, opening]
  generalize "#" ++ intString row.id.toInt = number at plain
  simp only [String.toList_append, List.append_assoc]
  rw [shown_plain spaces.1, shown_paint inColor _ plain, shown_plain spaces.2]
  rw [List.prefix_append_right_inj, List.prefix_append_right_inj]
  exact List.prefix_append _ _

/-! Statements and scripts -/

theorem statement_unbroken {text sql : String} (stated : sql ∈ statements text) : Unbroken sql := by
  obtain ⟨part, member, held⟩ := List.mem_filterMap.mp stated
  rw [split_at_eq] at member
  have flat := separator_in_no_part member
  cases line_iff.mpr held with
  | statement =>
    rw [Unbroken, String.toList_ofList]
    simp only [List.mem_append, not_or] at flat
    exact flat.1.2

/-- A change is what comes of an INSERT. Rows come of anything else, and none of an INSERT on no
    relation. -/
theorem outcome_forms (now : Timestamp) (sql : String) (s : Store) :
    (∃ change, (execute now sql s).outcome = .mutation change ∧ (classify sql).kind = .insert) ∨
      ∃ rows, (execute now sql s).outcome = .rows rows ∧
        ((classify sql).kind = .insert → rows = []) := by
  by_cases insert : ∃ r, classify sql = ⟨.insert, some r⟩
  · obtain ⟨r, insert⟩ := insert
    left
    rw [execute_insert now s insert, insert]
    cases r.entry? sql <;> exact ⟨_, rfl, rfl⟩
  · obtain ⟨_, rows, outcome⟩ := execute_read now s fun r other => insert ⟨r, other⟩
    have hidden := hidden_part now sql s
    rw [outcome] at hidden
    refine Or.inr ⟨rows, outcome, fun kind => ?_⟩
    rwa [if_pos kind] at hidden

theorem report_lines (now : Timestamp) {medium : Medium} (table : medium.format = .table) {s : Store}
    (flat : s.Flat) (sql : String) :
    ∃ lines, Report (execute now sql s).outcome lines ∧ (∀ text ∈ lines, OneLine text) ∧
      outcomeReport medium sql (execute now sql s).outcome = String.join lines := by
  have returned {row : Row} (member : row ∈ (execute now sql s).outcome.rowList) :
      OneLine (rowLine medium.inColor row) := by
    obtain ⟨r, held⟩ := returned_stored member
    exact row_one_line _ (row_unbroken flat held)
  rcases outcome_forms now sql s with ⟨change, outcome, kind⟩ | ⟨rows, outcome, others⟩
  · rw [outcome, outcomeReport, kind]
    exact ⟨[_], .result, by simpa using run_one_line table change, by simp [Outcome.runResult]⟩
  · rw [outcome] at returned ⊢
    cases rows with
    | nil =>
      have empty := empty_one_line table sql
      exact ⟨[_], .nothing, by simpa using empty, by simp⟩
    | cons row more =>
      obtain ⟨heading, single, lines⟩ := row_table_lines medium.inColor row more
      refine ⟨heading :: (row :: more).map (rowLine medium.inColor), .rows ?_, ?_, ?_⟩
      · exact List.forall₂_map_right_iff.mpr
          (List.forall₂_same.mpr fun row _ => row_line_shown medium.inColor row)
      · rw [List.forall_mem_cons, List.forall_mem_map]
        exact ⟨single, fun row member => returned member⟩
      · rw [← lines, outcomeReport]
        cases kind : (classify sql).kind with
        | insert => cases others kind
        | select | unknown =>
          dsimp only
          rw [rowReport, table]
          rfl

theorem statement_prints (now : Timestamp) {medium : Medium} (table : medium.format = .table)
    {s : Store} (flat : s.Flat) {sql : String} (unbroken : Unbroken sql) :
    ∃ lines, Prints medium (sql, (execute now sql s).outcome) lines ∧
      echo medium sql ++ outcomeReport medium sql (execute now sql s).outcome = String.join lines := by
  obtain ⟨lines, reported, each, joined⟩ := report_lines now table flat sql
  refine ⟨echo medium sql :: lines, ⟨?_, rfl, reported⟩, ?_⟩
  · exact List.forall_mem_cons.mpr ⟨echo_one_line table unbroken, each⟩
  · rw [joined, String.join_cons]

/-- A store without line breaks is left as one, so each statement prints lines of its own. -/
theorem transcript_prints (now : Timestamp) {medium : Medium} (table : medium.format = .table)
    {s : Store} (flat : s.Flat) {sqls : List String} (unbroken : ∀ sql ∈ sqls, Unbroken sql) :
    ∃ blocks, List.Forall₂ (Prints medium) (executions now s sqls) blocks ∧
      scriptReport now medium s sqls = String.join blocks.flatten := by
  induction sqls generalizing s with
  | nil => exact ⟨[], .nil, rfl⟩
  | cons sql rest ih =>
    rw [List.forall_mem_cons] at unbroken
    obtain ⟨lines, prints, first⟩ := statement_prints now table flat unbroken.1
    obtain ⟨blocks, each, others⟩ := ih (execute_flat flat unbroken.1 now) unbroken.2
    refine ⟨lines :: blocks, .cons prints each, ?_⟩
    rw [scriptReport, first, others, List.flatten_cons, String.join_append]

theorem one_line_break {text : String} (single : OneLine text) : text.toList.count '\n' = 1 := by
  obtain ⟨content, unbroken, rfl⟩ := single
  rw [line, String.toList_append, List.count_append, List.count_eq_zero_of_not_mem unbroken]
  rfl

theorem line_breaks_counted {lines : List String} (each : ∀ text ∈ lines, OneLine text) :
    (String.join lines).toList.count '\n' = lines.length := by
  induction lines with
  | nil => rfl
  | cons text rest ih =>
    rw [List.forall_mem_cons] at each
    rw [String.join_cons, String.toList_append, List.count_append, one_line_break each.1,
      ih each.2, List.length_cons, Nat.add_comm]

theorem lines_counted {medium : Medium} {execution : String × Outcome} {lines : List String}
    (prints : Prints medium execution lines) : lines.length = lineCount execution.2 := by
  obtain ⟨_, echoed, reported⟩ := prints
  cases lines with
  | nil => cases echoed
  | cons first lines =>
    rw [List.tail_cons] at reported
    generalize execution.2 = outcome at reported
    cases reported with
    | result | nothing => rfl
    | rows each =>
      have same := each.length_eq
      rw [lineCount, List.isEmpty_cons, if_neg Bool.false_ne_true, same, List.length_cons,
        List.length_cons]
      omega

theorem blocks_counted {medium : Medium} {executed : List (String × Outcome)}
    {blocks : List (List String)} (each : List.Forall₂ (Prints medium) executed blocks) :
    (String.join blocks.flatten).toList.count '\n' =
      (executed.map fun execution => lineCount execution.2).sum := by
  induction each with
  | nil => rfl
  | cons prints _ ih =>
    rw [List.flatten_cons, String.join_append, String.toList_append, List.count_append,
      line_breaks_counted prints.each, lines_counted prints, ih, List.map_cons, List.sum_cons]

/-- Whatever a script stores, its transcript is made of the lines that its outcomes call for. -/
theorem output_lines_unforged {around : Surroundings} {arguments : List String} {medium : Medium}
    {text : String} (asked : Asked around arguments medium text) (table : medium.format = .table) :
    let executed := executions around.now (.seeded around.now) (statements text)
    let stdout := (run around arguments).stdout
    ∃ blocks, List.Forall₂ (Prints medium) executed blocks ∧ stdout = String.join blocks.flatten ∧
      stdout.toList.count '\n' = (executed.map fun execution => lineCount execution.2).sum := by
  intro executed stdout
  obtain ⟨blocks, each, joined⟩ := transcript_prints around.now table
    (seeded_flat around.now) (fun sql => statement_unbroken)
  have printed : stdout = String.join blocks.flatten := by
    show (run around arguments).stdout = _
    rw [asked_script asked, ← joined]
    rfl
  exact ⟨blocks, each, printed, printed ▸ blocks_counted each⟩

/-- A user whose name starts on a carriage return like a row and spells a line break out, in
    colour. -/
theorem carriage_return_unforged :
    let text := "INSERT INTO users VALUES ('\r  #1 forged\\n', 'e', 'pw', 'user')\n" ++
      "select * from users where id = 5\nDROP TABLE users"
    let around : Surroundings :=
      { Surroundings.bare with
        env := fun name => if name = "CLICOLOR_FORCE" then some "1" else none
        stdin := text.toUTF8 }
    ∃ blocks, List.Forall₂ (Prints ⟨.table, true⟩)
        (executions .epoch (.seeded .epoch) (statements text)) blocks ∧
      (run around ["script"]).stdout = String.join blocks.flatten ∧
      (run around ["script"]).stdout.toList.count '\n' = 7 := by
  intro text around
  have asked : Asked around ["script"] ⟨.table, true⟩ text :=
    ⟨none, ⟨none, none⟩, .default, by decide, rfl, rfl, rfl⟩
  obtain ⟨blocks, each, joined, breaks⟩ := output_lines_unforged asked rfl
  have counts : ((executions .epoch (.seeded .epoch) (statements text)).map
      fun execution => lineCount execution.2).sum = 7 := by
    decide +kernel
  exact ⟨blocks, each, joined, breaks.trans counts⟩

end Cli
end InjectionLab
