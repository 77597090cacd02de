import InjectionLab.Proofs.History
import InjectionLab.Trace

/-!
The trace of a statement against its outcome. A statement takes one of four courses: a SELECT is
overridden by a trigger, a statement only reads, an INSERT adds a row, or an INSERT is skipped. The
trace shows which of them it was, and the numbers in it are those of the outcome.
-/
namespace InjectionLab

def overriding? (sql : String) : Option Trigger :=
  match classify sql with
  | ⟨.select, some .users⟩ => detectInjection sql
  | ⟨.select, some .products⟩ => detectTautology sql
  | _ => none

namespace TraceEntry

def field? (entry : TraceEntry) (name : String) : Option Json :=
  (entry.fields.find? (·.1 = name)).map (·.2)

def Says (message : String) (entry : TraceEntry) : Prop :=
  entry.what = "event" ∧ entry.field? "message" = some (.string message)

end TraceEntry

/-- The order of the entries of a trace: the span with the statement, the relation if there is one,
    the events, and last one number, which is that of the outcome. -/
structure Framed (sql : String) (outcome : Outcome) (entries : List TraceEntry) : Prop where
  order : ∃ opening naming events closing, entries = opening :: (naming ++ events ++ [closing]) ∧
    opening.what = "db.query" ∧
    opening.field? "db.operation.name" = some (.string (classify sql).kind.name) ∧
    opening.field? "db.query.text" = some (.string sql) ∧
    (∀ entry ∈ naming, entry.what = "record") ∧
    naming.map TraceEntry.fields =
      (classify sql).relation.toList.map (fun r => [("db.collection.name", .string r.name)]) ∧
    (∀ entry ∈ events, entry.what = "event") ∧
    closing.what = "record" ∧
    (∀ found, outcome = .rows found →
      closing.fields = [("db.response.returned_rows", .int found.length)]) ∧
    ∀ result, outcome = .mutation result →
      closing.fields = [("db.response.affected_rows", .int result.changes)]

structure Truthful (sql : String) (s : Store) (outcome : Outcome) (entries : List TraceEntry) :
    Prop where
  framed : Framed sql outcome entries
  warned : (∃ entry ∈ entries, entry.level = .warn) ↔ (overriding? sql).isSome
  overridden : ∀ trigger, overriding? sql = some trigger →
    (∀ entry ∈ entries, entry.level = .warn →
      entry.field? "trigger" = some (.string trigger.text)) ∧
    (∀ entry ∈ entries, ¬ entry.Says "Extractor matched") ∧
    ∃ r last, (classify sql).relation = some r ∧ entries.getLast? = some last ∧
      last.fields = [("db.response.returned_rows", .int (s.ids r).length)]
  recorded : ∀ r, classify sql = ⟨.insert, some r⟩ →
    ((∃ entry ∈ entries, entry.level = .info ∧ entry.Says "Row inserted") ↔
      ¬ ∃ entry ∈ entries, entry.level = .debug ∧
        entry.Says "VALUES list did not match; insert skipped")
  inserted : (∃ entry ∈ entries, entry.level = .info ∧ entry.Says "Row inserted") ↔
    outcome.runResult.changes = 1
  identified : ∀ entry ∈ entries, entry.Says "Row inserted" →
    entry.field? "id" = some (.ofInt64 outcome.runResult.lastInsertRowid)

/-! Courses of a statement -/

/-- The course that a statement takes, its events and its outcome. -/
inductive Course (sql : String) (s : Store) (step : Step) : Prop where
  | overridden (r : Relation) (trigger : Trigger) (found : List Row)
      (select : classify sql = ⟨.select, some r⟩) (overrides : overriding? sql = some trigger)
      (events : step.events = [.injectionDetected r trigger])
      (outcome : step.outcome = .rows found) (whole : found.length = (s.ids r).length)
  | read (found : List Row) (harmless : overriding? sql = none)
      (other : ∀ r, classify sql ≠ ⟨.insert, some r⟩)
      (events : ∀ event ∈ step.events,
        (∃ clause, event = .clauseMatched clause) ∨ ∃ kind, event = .unrecognised kind)
      (outcome : step.outcome = .rows found)
  | inserted (r : Relation) (id : Int64) (insert : classify sql = ⟨.insert, some r⟩)
      (events : step.events = [.rowInserted r id])
      (outcome : step.outcome = .mutation (.inserted id))
  | skipped (r : Relation) (insert : classify sql = ⟨.insert, some r⟩)
      (events : step.events = [.insertSkipped r])
      (outcome : step.outcome = .mutation .none)

theorem insert_not_overridden {sql : String} {r : Relation}
    (insert : classify sql = ⟨.insert, some r⟩) : overriding? sql = none := by
  rw [overriding?, insert]

theorem selection_course {α : Type} {sql : String} {r : Relation} (s : Store)
    {record : α → Record} {wrap : α → Row} {clauses : List Clause} {rows : List α}
    (select : classify sql = ⟨.select, some r⟩) (whole : rows.length = (s.ids r).length) :
    Course sql s ⟨.rows ((selected record (overriding? sql) clauses rows).map wrap), s,
      selectionEvents r (overriding? sql) clauses⟩ := by
  cases overrides : overriding? sql with
  | some trigger =>
    exact .overridden r trigger _ select overrides rfl rfl (by rw [List.length_map, selected, whole])
  | none =>
    refine .read _ overrides (fun r' insert => ?_) (fun event noticed => Or.inl ?_) rfl
    · rw [select] at insert
      cases insert
    · obtain ⟨clause, _, matched⟩ := List.mem_map.mp noticed
      exact ⟨clause, matched.symm⟩

theorem course_of (now : Timestamp) (sql : String) (s : Store) :
    Course sql s (execute now sql s) := by
  by_cases insert : ∃ r, classify sql = ⟨.insert, some r⟩
  · obtain ⟨r, insert⟩ := insert
    rw [execute_insert now s insert]
    cases r.entry? sql with
    | none => exact .skipped r insert rfl rfl
    | some entry => exact .inserted r _ insert rfl rfl
  · have other : ∀ r, classify sql ≠ ⟨.insert, some r⟩ := fun r same => insert ⟨r, same⟩
    generalize named : classify sql = c
    obtain ⟨kind, relation⟩ := c
    have unrecognised (step : Step) (harmless : overriding? sql = none)
        (events : step.events = [.unrecognised kind]) (outcome : step.outcome = .rows []) :
        Course sql s step := by
      refine .read [] harmless other (fun event noticed => Or.inr ⟨kind, ?_⟩) outcome
      rwa [events, List.mem_singleton] at noticed
    cases kind with
    | select =>
      cases relation with
      | none =>
        simp only [execute, named]
        exact unrecognised _ (by rw [overriding?, named]) rfl rfl
      | some r =>
        cases r with
        | users =>
          have checked : overriding? sql = detectInjection sql := by rw [overriding?, named]
          simp only [execute, named, selectUsers, ← checked]
          exact selection_course s named (by simp [Store.ids])
        | products =>
          have checked : overriding? sql = detectTautology sql := by rw [overriding?, named]
          simp only [execute, named, selectProducts, ← checked]
          exact selection_course s named (by simp [Store.ids])
        | orders =>
          simp only [execute, named, selectOrders]
          refine .read _ (by rw [overriding?, named]) other ?_ rfl
          intro event noticed
          cases noticed
    | insert =>
      cases relation with
      | none =>
        simp only [execute, named]
        exact unrecognised _ (by rw [overriding?, named]) rfl rfl
      | some r => exact absurd named (other r)
    | unknown =>
      cases relation <;> simp only [execute, named] <;>
        exact unrecognised _ (by rw [overriding?, named]) rfl rfl

section Course
variable {sql : String} {s : Store} {step : Step} (course : Course sql s step)
include course

theorem course_warns :
    (∃ event ∈ step.events, event.level = .warn) ↔ (overriding? sql).isSome := by
  cases course with
  | overridden r trigger found select overrides events =>
    rw [events, overrides]
    exact iff_of_true ⟨_, List.mem_singleton_self _, rfl⟩ rfl
  | read found harmless other events =>
    rw [harmless]
    refine iff_of_false ?_ Bool.false_ne_true
    rintro ⟨event, noticed, warning⟩
    rcases events event noticed with ⟨_, rfl⟩ | ⟨_, rfl⟩ <;> cases warning
  | inserted r id insert events =>
    rw [events, insert_not_overridden insert]
    simp [Event.level]
  | skipped r insert events =>
    rw [events, insert_not_overridden insert]
    simp [Event.level]

theorem course_inserts :
    (∃ event ∈ step.events, event.level = .info ∧ event.message = "Row inserted") ↔
      step.outcome.runResult.changes = 1 := by
  cases course with
  | overridden r trigger found select overrides events outcome =>
    rw [events, outcome]
    simp [Event.level, Outcome.runResult, RunResult.none]
  | read found harmless other events outcome =>
    rw [outcome]
    refine iff_of_false ?_ (by simp [Outcome.runResult, RunResult.none])
    rintro ⟨event, noticed, height, _⟩
    rcases events event noticed with ⟨_, rfl⟩ | ⟨_, rfl⟩ <;> cases height
  | inserted r id insert events outcome =>
    rw [events, outcome]
    exact iff_of_true ⟨_, List.mem_singleton_self _, rfl, rfl⟩ rfl
  | skipped r insert events outcome =>
    rw [events, outcome]
    simp [Event.level, Outcome.runResult, RunResult.none]

theorem course_identifies {event : Event} (noticed : event ∈ step.events)
    (message : event.message = "Row inserted") :
    (TraceEntry.noticed event).field? "id" =
      some (.ofInt64 step.outcome.runResult.lastInsertRowid) := by
  cases course with
  | overridden r trigger found select overrides events =>
    rw [events, List.mem_singleton] at noticed
    subst noticed
    simp [Event.message] at message
  | read found harmless other events =>
    rcases events event noticed with ⟨_, rfl⟩ | ⟨_, rfl⟩ <;> simp [Event.message] at message
  | inserted r id insert events outcome =>
    rw [events, List.mem_singleton] at noticed
    rw [noticed, outcome]
    rfl
  | skipped r insert events =>
    rw [events, List.mem_singleton] at noticed
    subst noticed
    simp [Event.message] at message

theorem course_of_insert {r : Relation} (insert : classify sql = ⟨.insert, some r⟩) :
    (∃ id, step.events = [.rowInserted r id]) ∨ step.events = [.insertSkipped r] := by
  cases course with
  | overridden r' trigger found select =>
    rw [insert] at select
    cases select
  | read found harmless other => exact absurd insert (other r)
  | inserted r' id insert' events =>
    rw [insert] at insert'
    cases insert'
    exact Or.inl ⟨id, events⟩
  | skipped r' insert' events =>
    rw [insert] at insert'
    cases insert'
    exact Or.inr events

theorem course_overridden {trigger : Trigger} (overrides : overriding? sql = some trigger) :
    ∃ r found, (classify sql).relation = some r ∧ step.events = [.injectionDetected r trigger] ∧
      step.outcome = .rows found ∧ found.length = (s.ids r).length := by
  cases course with
  | overridden r trigger' found select overrides' events outcome whole =>
    rw [overrides] at overrides'
    cases overrides'
    exact ⟨r, found, by rw [select], events, outcome, whole⟩
  | read found harmless =>
    rw [overrides] at harmless
    cases harmless
  | inserted r id insert =>
    rw [insert_not_overridden insert] at overrides
    cases overrides
  | skipped r insert =>
    rw [insert_not_overridden insert] at overrides
    cases overrides

end Course

/-! Entries -/

theorem noticed_message (event : Event) :
    (TraceEntry.noticed event).field? "message" = some (.string event.message) := rfl

theorem says_iff {message : String} {entry : TraceEntry} :
    entry.Says message ↔ ∃ event, entry = .noticed event ∧ event.message = message := by
  constructor
  · rintro ⟨what, said⟩
    cases entry with
    | noticed event =>
      rw [noticed_message, Option.some.injEq, Json.string.injEq] at said
      exact ⟨event, rfl, said⟩
    | spanOpened => exact absurd what (by simp [TraceEntry.what])
    | collectionNamed => exact absurd what (by simp [TraceEntry.what])
    | rowsReturned => exact absurd what (by simp [TraceEntry.what])
    | rowsAffected => exact absurd what (by simp [TraceEntry.what])
  · rintro ⟨event, rfl, rfl⟩
    exact ⟨rfl, noticed_message event⟩

theorem warning_noticed {entry : TraceEntry} (warning : entry.level = .warn) :
    ∃ event, entry = .noticed event ∧ event.level = .warn := by
  cases entry with
  | noticed event => exact ⟨event, rfl, warning⟩
  | _ => cases warning

section Entries
variable {now : Timestamp} {sql : String} {s : Store}

theorem noticed_mem_iff {event : Event} :
    .noticed event ∈ trace now sql s ↔ event ∈ (execute now sql s).events := by
  have uncounted : ∀ outcome : Outcome, TraceEntry.noticed event ≠ outcome.count := by
    intro outcome
    cases outcome <;> exact TraceEntry.noConfusion
  simp [trace, uncounted]

theorem said_iff {level : Level} {message : String} :
    (∃ entry ∈ trace now sql s, entry.level = level ∧ entry.Says message) ↔
      ∃ event ∈ (execute now sql s).events, event.level = level ∧ event.message = message := by
  constructor
  · rintro ⟨entry, member, height, said⟩
    obtain ⟨event, rfl, message⟩ := says_iff.mp said
    exact ⟨event, noticed_mem_iff.mp member, height, message⟩
  · rintro ⟨event, noticed, height, message⟩
    exact ⟨.noticed event, noticed_mem_iff.mpr noticed, height, says_iff.mpr ⟨event, rfl, message⟩⟩

theorem warned_iff : (∃ entry ∈ trace now sql s, entry.level = .warn) ↔
    ∃ event ∈ (execute now sql s).events, event.level = .warn := by
  constructor
  · rintro ⟨entry, member, warning⟩
    obtain ⟨event, rfl, height⟩ := warning_noticed warning
    exact ⟨event, noticed_mem_iff.mp member, height⟩
  · rintro ⟨event, noticed, height⟩
    exact ⟨.noticed event, noticed_mem_iff.mpr noticed, height⟩

end Entries

theorem trace_framed (now : Timestamp) (sql : String) (s : Store) :
    Framed sql (execute now sql s).outcome (trace now sql s) := by
  refine ⟨.spanOpened (classify sql) sql, (classify sql).relation.toList.map .collectionNamed,
    (execute now sql s).events.map .noticed, (execute now sql s).outcome.count, rfl, rfl, rfl, rfl,
    ?_, ?_, ?_, ?_, ?_, ?_⟩
  · intro entry named
    obtain ⟨r, _, rfl⟩ := List.mem_map.mp named
    rfl
  · rw [List.map_map]
    rfl
  · intro entry noticed
    obtain ⟨event, _, rfl⟩ := List.mem_map.mp noticed
    rfl
  · cases (execute now sql s).outcome <;> rfl
  · intro found outcome
    rw [outcome]
    rfl
  · intro result outcome
    rw [outcome]
    rfl

/-- The trace of a statement tells the truth about it: which statement it was, what it returned or
    changed, whether a trigger overrode it and which one, and whether a row was inserted and under
    which identifier. -/
theorem trace_truthful (now : Timestamp) (sql : String) (s : Store) :
    Truthful sql s (execute now sql s).outcome (trace now sql s) where
  framed := trace_framed now sql s
  warned := warned_iff.trans (course_warns (course_of now sql s))
  overridden := by
    intro trigger overrides
    obtain ⟨r, found, relation, events, outcome, whole⟩ :=
      course_overridden (course_of now sql s) overrides
    have only (event : Event) (noticed : event ∈ (execute now sql s).events) :
        event = .injectionDetected r trigger := by
      rwa [events, List.mem_singleton] at noticed
    refine ⟨?_, ?_, r, .rowsReturned found.length, relation, ?_, by rw [whole]; rfl⟩
    · intro entry member warning
      obtain ⟨event, rfl, _⟩ := warning_noticed warning
      rw [only event (noticed_mem_iff.mp member)]
      rfl
    · intro entry member said
      obtain ⟨event, rfl, message⟩ := says_iff.mp said
      rw [only event (noticed_mem_iff.mp member)] at message
      simp [Event.message] at message
    · rw [trace, List.getLast?_concat, outcome]
      rfl
  recorded := by
    intro r insert
    rw [said_iff, said_iff]
    rcases course_of_insert (course_of now sql s) insert with ⟨id, events⟩ | events <;> rw [events]
    · simp [Event.level, Event.message]
    · simp [Event.level, Event.message]
  inserted := said_iff.trans (course_inserts (course_of now sql s))
  identified := by
    intro entry member said
    obtain ⟨event, rfl, message⟩ := says_iff.mp said
    exact course_identifies (course_of now sql s) (noticed_mem_iff.mp member) message

end InjectionLab
