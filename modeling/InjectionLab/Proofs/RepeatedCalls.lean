import InjectionLab.Proofs.Isolation
import InjectionLab.Proofs.Lookup

/-!
One statement called again and again. Every call runs it, so which calls they are decides what is
answered and nothing else. An INSERT that writes adds one row for each call, under the next
identifiers; any other statement finds the same each time and leaves the store as it was.
-/
namespace InjectionLab

def Request.repeated (sql : String) (calls : List (Call × Timestamp)) : List Request :=
  calls.map fun call => ⟨sql, call.1, call.2⟩

def Store.answers (s : Store) : List Request → List Answer
  | [] => []
  | request :: rest =>
    let (answer, next) := s.perform request.now request.sql request.call
    answer :: next.answers rest

namespace Call

def added (id : Int64) : Call → Answer
  | get => .row none
  | all => .rows []
  | run => .result ⟨id, 1⟩
  | execute => .outcome (.mutation ⟨id, 1⟩)

def unchanged (outcome : Outcome) : Call → Answer
  | get => .row outcome.rowList.head?
  | all => .rows outcome.rowList
  | run => .result ⟨0, 0⟩
  | execute => .outcome outcome

end Call

theorem repeated_texts (sql : String) (calls : List (Call × Timestamp)) :
    Request.texts (Request.repeated sql calls) = List.replicate calls.length sql := by
  simp [Request.texts, Request.repeated, Function.comp_def]

theorem perform_all_repeated (now : Timestamp) (sql : String) (s : Store) (calls : List Call) :
    s.performAll now sql calls =
      (s.answers (Request.repeated sql (calls.map (·, now))),
        s.serve (Request.repeated sql (calls.map (·, now)))) := by
  induction calls generalizing s with
  | nil => rfl
  | cons call calls ih =>
    simp only [Store.performAll, ih]
    rfl

theorem answers_cons (s : Store) (sql : String) (call : Call × Timestamp)
    (calls : List (Call × Timestamp)) :
    s.answers (Request.repeated sql (call :: calls)) =
      call.1.answer (execute call.2 sql s).outcome ::
        (execute call.2 sql s).store.answers (Request.repeated sql calls) := rfl

/-! A statement that writes -/

section Insert
variable {sql : String} {r : Relation} {entry : Entry}
  (insert : classify sql = ⟨.insert, some r⟩) (read : r.entry? sql = some entry)
include insert read

theorem insert_adds (now : Timestamp) (s : Store) :
    execute now sql s = insertedStep r (s.nextId r) (s.add now entry) := by
  rw [execute_insert now s insert, read]

theorem repeated_insert {s : Store} {n : Nat} (next : s.nextId r = Int64.ofNat (n + 1))
    (calls : List (Call × Timestamp)) :
    (s.serve (Request.repeated sql calls)).stored r = s.stored r ++
        calls.mapIdx (fun i call => entry.row (Int64.ofNat (n + i + 1)) call.2) ∧
      s.answers (Request.repeated sql calls) =
        calls.mapIdx fun i call => call.1.added (Int64.ofNat (n + i + 1)) := by
  -- The induction is over the calls; the store and its row count are left general.
  have same := entry_relation read
  induction calls generalizing s n with
  | nil => exact ⟨(List.append_nil _).symm, rfl⟩
  | cons call calls ih =>
    have added := insert_adds insert read call.2 s
    have grown : (execute call.2 sql s).store = s.add call.2 entry := congrArg Step.store added
    have later : (s.add call.2 entry).nextId r = Int64.ofNat (n + 1 + 1) := by
      rw [next_id_add, if_pos same, next]
      exact (Int64.ofNat_add _ 1).symm
    have shift (i : Nat) : n + 1 + i + 1 = n + (i + 1) + 1 := by omega
    obtain ⟨rows, answers⟩ := ih later
    simp only [shift] at rows answers
    constructor
    · calc (s.serve (Request.repeated sql (call :: calls))).stored r
          = ((s.add call.2 entry).serve (Request.repeated sql calls)).stored r :=
            congrArg (fun t => (Store.serve t (Request.repeated sql calls)).stored r) grown
        _ = _ := by
            rw [rows, stored_add, if_pos same, next, List.mapIdx_cons, List.append_assoc]
            rfl
    · have answer : call.1.answer (execute call.2 sql s).outcome =
          call.1.added (Int64.ofNat (n + 0 + 1)) := by
        rw [added, next]
        cases call.1 <;> rfl
      rw [answers_cons, answer, grown, answers, List.mapIdx_cons]

theorem other_relations_kept {other : Relation} (apart : other ≠ r) (s : Store)
    (calls : List (Call × Timestamp)) :
    (s.serve (Request.repeated sql calls)).stored other = s.stored other := by
  have same := entry_relation read
  induction calls generalizing s with
  | nil => rfl
  | cons call calls ih =>
    have added := insert_adds insert read call.2 s
    have kept : (execute call.2 sql s).store.stored other = s.stored other := by
      rw [added, insertedStep, stored_add, if_neg (same.trans_ne apart.symm)]
    exact (ih _).trans kept

end Insert

/-! A statement that does not write -/

theorem read_ignores_clock {sql : String} (read : ∀ r, classify sql ≠ ⟨.insert, some r⟩)
    (now now' : Timestamp) (s : Store) :
    (execute now sql s).outcome = (execute now' sql s).outcome := by
  generalize named : classify sql = c at read
  obtain ⟨kind, relation⟩ := c
  simp only [execute, named]
  cases kind with
  | select =>
    cases relation with
    | none => rfl
    | some r => cases r <;> rfl
  | insert =>
    cases relation with
    | none => rfl
    | some r => exact absurd rfl (read r)
  | unknown => cases relation <;> rfl

theorem execute_unwritten {sql : String} (unwritten : written? sql = none) (s : Store) :
    ∃ outcome : Outcome, outcome.runResult = ⟨0, 0⟩ ∧
      ∀ now, (execute now sql s).store = s ∧ (execute now sql s).outcome = outcome := by
  refine ⟨(execute default sql s).outcome, ?_, fun now => ⟨?_, ?_⟩⟩
  · have effect := execute_written default sql s
    rw [unwritten] at effect
    exact effect.2
  · have effect := execute_written now sql s
    rw [unwritten] at effect
    exact effect.1
  · by_cases insert : ∃ r, classify sql = ⟨.insert, some r⟩
    · obtain ⟨r, insert⟩ := insert
      rw [insert_writes insert] at unwritten
      rw [execute_insert now s insert, execute_insert default s insert, unwritten]
    · exact read_ignores_clock (fun r other => insert ⟨r, other⟩) now default s

theorem repeated_unchanged {sql : String} {s : Store} {outcome : Outcome}
    (idle : outcome.runResult = ⟨0, 0⟩)
    (same : ∀ now, (execute now sql s).store = s ∧ (execute now sql s).outcome = outcome)
    (calls : List (Call × Timestamp)) :
    s.serve (Request.repeated sql calls) = s ∧
      s.answers (Request.repeated sql calls) = calls.map fun call => call.1.unchanged outcome := by
  induction calls with
  | nil => exact ⟨rfl, rfl⟩
  | cons call calls ih =>
    obtain ⟨kept, found⟩ := same call.2
    have answer : call.1.answer outcome = call.1.unchanged outcome := by
      cases call.1 <;> simp [Call.answer, Call.unchanged, idle]
    refine ⟨?_, ?_⟩
    · exact (congrArg (Store.serve · (Request.repeated sql calls)) kept).trans ih.1
    · rw [answers_cons, kept, found, answer, ih.2, List.map_cons]

/-- However often one statement is called, only the number of calls settles what is stored, the
    times of creation aside. If it is an INSERT whose literal list is read, each call adds one
    row: the first gets the identifier after the row count, as 64 bits hold it, and so on, and
    only `run` tells it. Otherwise the store stays as it is and every call answers from one and
    the same outcome. -/
theorem prepared_statement_repeated {s : Store} (reachable : s.Reachable) (sql : String)
    (calls : List (Call × Timestamp)) :
    let requests := Request.repeated sql calls
    (∀ other : List (Call × Timestamp), other.length = calls.length →
      ∀ r, (s.serve requests).SameIn (s.serve (Request.repeated sql other)) r) ∧
    (∀ r entry, classify sql = ⟨.insert, some r⟩ → r.entry? sql = some entry →
      let id := fun i => Int64.ofNat ((s.stored r).length + i + 1)
      (s.serve requests).stored r =
          s.stored r ++ calls.mapIdx (fun i call => entry.row (id i) call.2) ∧
        (∀ other ≠ r, (s.serve requests).stored other = s.stored other) ∧
        s.answers requests = calls.mapIdx fun i call => call.1.added (id i)) ∧
    ((∀ r, classify sql = ⟨.insert, some r⟩ → r.entry? sql = none) →
      s.serve requests = s ∧
        ∃ outcome, s.answers requests = calls.map fun call => call.1.unchanged outcome) := by
  intro requests
  refine ⟨fun other lengths r => ?_, fun r entry insert read => ?_, fun unread => ?_⟩
  · apply served_same
    rw [repeated_texts, repeated_texts, lengths]
  · have counted : s.nextId r = Int64.ofNat ((s.stored r).length + 1) := by
      have next := (reachable_counts_up reachable r).2
      cases r <;> simpa [Store.ids, Store.stored] using next
    obtain ⟨rows, answers⟩ := repeated_insert insert read counted calls
    exact ⟨rows, fun other apart => other_relations_kept insert read apart s calls, answers⟩
  · have unwritten : written? sql = none := by
      by_cases insert : ∃ r, classify sql = ⟨.insert, some r⟩
      · obtain ⟨r, insert⟩ := insert
        rw [insert_writes insert, unread r insert]
      · exact read_writes_nothing fun r other => insert ⟨r, other⟩
    obtain ⟨outcome, idle, same⟩ := execute_unwritten unwritten s
    obtain ⟨kept, answers⟩ := repeated_unchanged idle same calls
    exact ⟨kept, outcome, answers⟩

/-- An INSERT that is called in three ways adds three orders, and only one call tells of it. -/
theorem insert_called_in_three_ways :
    let sql := "INSERT INTO orders VALUES (1, 9, -2, 0.5)"
    let s := Store.seeded default
    (s.performAll default sql [.get, .run, .all]).1 =
        [.row none, .result ⟨2, 1⟩, .rows []] ∧
      ((s.performAll default sql [.get, .run, .all]).2.stored .orders).length = 3 := by
  intro sql s
  have fresh : s.Reachable := ⟨_, [], Or.inr ⟨default, rfl⟩, rfl⟩
  have insert : classify sql = ⟨.insert, some .orders⟩ := by decide +kernel
  obtain ⟨entry, read⟩ : ∃ entry, Relation.orders.entry? sql = some entry :=
    Option.isSome_iff_exists.mp (by decide +kernel)
  have none_yet : s.stored .orders = [] := rfl
  obtain ⟨rows, _, answers⟩ := (prepared_statement_repeated fresh sql
    [(.get, default), (.run, default), (.all, default)]).2.1 .orders entry insert read
  rw [perform_all_repeated]
  refine ⟨answers, ?_⟩
  have count := congrArg List.length rows
  rwa [none_yet, List.nil_append, List.length_mapIdx] at count

end InjectionLab
