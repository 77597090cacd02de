import InjectionLab.Proofs.Lookup
import InjectionLab.Proofs.Run

/-!
The same statements in another order, as when several clients take turns. Whether a statement adds a
row is settled by its text, so each reports the same number of changes; a relation hands out the
same identifiers without a gap, though to other statements; and the same contents are stored.
-/
namespace InjectionLab

def rowsWritten (sql : String) : Nat := if (written? sql).isSome then 1 else 0

def numbersAfter (n count : Nat) : List Int := (List.range count).map fun i : Nat => (n : Int) + i + 1

def idsAfter (n count : Nat) : List Int64 :=
  (List.range count).map fun i => Int64.ofNat (n + i + 1)

def idsFrom (first : Int64) : Nat → List Int64
  | 0 => []
  | count + 1 => first :: idsFrom (first + 1) count

namespace Store

def reports (s : Store) : List Request → List RunResult
  | [] => []
  | request :: rest =>
    let step := execute request.now request.sql s
    step.outcome.runResult :: reports step.store rest

/-- The identifiers that the successful INSERTs on a relation report, in the order of the run. -/
def handedOut (s : Store) (r : Relation) (run : List Request) : List Int64 :=
  ((run.zip (s.reports run)).filter fun (request, report) =>
    classify request.sql = ⟨.insert, some r⟩ ∧ report.changes = 1).map (·.2.lastInsertRowid)

end Store

/-! Reports -/

theorem changes_reported (s : Store) (run : List Request) :
    (s.reports run).map RunResult.changes = (Request.texts run).map rowsWritten := by
  induction run generalizing s with
  | nil => rfl
  | cons request rest ih =>
    have effect := execute_written request.now request.sql s
    simp only [Store.reports, Request.texts, List.map_cons] at ih ⊢
    rw [ih, rowsWritten]
    cases written : written? request.sql with
    | none =>
      simp only [written] at effect
      rw [effect.2]
      rfl
    | some entry =>
      simp only [written] at effect
      rw [effect.2]
      rfl

theorem handed_out_cons (s : Store) (r : Relation) (request : Request) (rest : List Request) :
    s.handedOut r (request :: rest) =
      match written? request.sql with
      | some entry =>
        if entry.relation = r then s.nextId r :: (s.add request.now entry).handedOut r rest
        else (s.add request.now entry).handedOut r rest
      | none => s.handedOut r rest := by
  have effect := execute_written request.now request.sql s
  rw [Store.handedOut, Store.reports, List.zip_cons_cons, List.filter_cons]
  cases written : written? request.sql with
  | none =>
    simp only [written] at effect
    simp [effect.1, effect.2, RunResult.none, Store.handedOut]
  | some entry =>
    simp only [written] at effect
    have insert := written_relation written
    by_cases same : entry.relation = r
    · subst same
      simp [effect.1, effect.2, insert, RunResult.inserted, Store.handedOut]
    · simp [effect.1, insert, same, Store.handedOut]

theorem handed_out_from (s : Store) (r : Relation) (run : List Request) :
    s.handedOut r run = idsFrom (s.nextId r) (writtenTo r (Request.texts run)).length := by
  induction run generalizing s with
  | nil => rfl
  | cons request rest ih =>
    rw [handed_out_cons, Request.texts, List.map_cons, written_to_cons, ← Request.texts]
    cases written? request.sql with
    | none => exact ih s
    | some entry =>
      have later := ih (s.add request.now entry)
      rw [next_id_add] at later
      simp only
      split
      · rename_i same
        rw [if_pos same] at later
        rw [later]
        rfl
      · rename_i apart
        rw [if_neg apart] at later
        exact later

theorem ids_served (s : Store) (r : Relation) (run : List Request) :
    (s.serve run).ids r = s.ids r ++ s.handedOut r run := by
  induction run generalizing s with
  | nil => simp [Store.serve, Store.after, Store.handedOut]
  | cons request rest ih =>
    have effect := execute_written request.now request.sql s
    rw [serve_cons, handed_out_cons]
    cases written : written? request.sql with
    | none =>
      simp only [written] at effect ⊢
      rw [effect.1, ih]
    | some entry =>
      simp only [written] at effect ⊢
      rw [effect.1, ih, ids_add]
      split <;> simp

/-! Numbers -/

theorem one_to_add (n count : Nat) : oneTo (n + count) = oneTo n ++ numbersAfter n count := by
  rw [oneTo, List.range_add, List.map_append, List.map_map]
  rfl

theorem handed_out_after {s : Store} (reachable : s.Reachable) (r : Relation) (run : List Request) :
    s.handedOut r run = idsAfter (s.ids r).length (s.handedOut r run).length := by
  have later := (reachable_counts_up (reachable_after reachable (run.map Request.action)) r).1
  have before := (reachable_counts_up reachable r).1
  rw [← Store.serve, ids_served, List.length_append, List.range_add, List.map_append, ← before,
    List.map_map] at later
  exact List.append_cancel_left later

theorem handed_out_numbers {s : Store} (reachable : s.Reachable) {r : Relation} {run : List Request}
    (room : ((s.serve run).ids r).length < Int64.maxValue.toInt) :
    (s.handedOut r run).map Int64.toInt =
        numbersAfter (s.ids r).length (s.handedOut r run).length ∧
      (s.handedOut r run).Nodup := by
  have counted := reachable_counts_up (reachable_after reachable (run.map Request.action))
  have later := (ids_as_numbers counted room).1
  rw [← Store.serve] at later
  rw [ids_served, List.length_append] at later room
  have before := (ids_as_numbers (reachable_counts_up reachable) (r := r) (by omega)).1
  rw [List.map_append, before, one_to_add] at later
  have numbers := List.append_cancel_left later
  refine ⟨numbers, ?_⟩
  apply List.Nodup.of_map Int64.toInt
  have distinct := one_to_nodup ((s.ids r).length + (s.handedOut r run).length)
  rw [one_to_add] at distinct
  rw [numbers]
  exact distinct.of_append_right

/-! Contents -/

theorem content_undated (row : StoredRow) : row.undated.content = row.content := by
  cases row <;> rfl

theorem rows_from_content (first : Int64) (entries : List Entry) :
    (rowsFrom first entries).map StoredRow.content =
      entries.map fun entry => (entry.row 0 default).content := by
  induction entries generalizing first with
  | nil => rfl
  | cons entry rest ih =>
    rw [rowsFrom, List.map_cons, List.map_cons, ih]
    cases entry <;> rfl

theorem served_content (s : Store) (r : Relation) (run : List Request) :
    ((s.serve run).stored r).map StoredRow.content = (s.stored r).map StoredRow.content ++
      (writtenTo r (Request.texts run)).map fun entry => (entry.row 0 default).content := by
  have forgotten (rows : List StoredRow) :
      rows.map StoredRow.content = (rows.map StoredRow.undated).map StoredRow.content := by
    simp only [List.map_map, Function.comp_def, content_undated]
  rw [forgotten, (served_relation s run r).1, List.map_append, ← forgotten, rows_from_content]

theorem written_to_perm {statements other : List String} (permuted : statements.Perm other)
    (r : Relation) : (writtenTo r statements).Perm (writtenTo r other) :=
  (permuted.filterMap written?).filter _

/-- Two runs of the same statements in any two orders, through any calls and at any moments. In both
    each statement reports as many changes as its text says, a relation hands out the same
    identifiers, which are those after its row count and which follow the old ones in the relation,
    and the relation holds the same contents with the same multiplicity. As far as 64 bits can count
    the rows, the identifiers are numbers of which none is handed out twice. -/
theorem order_of_statements_free {s : Store} (reachable : s.Reachable) {run other : List Request}
    (permuted : (Request.texts run).Perm (Request.texts other)) :
    (s.reports run).map RunResult.changes = (Request.texts run).map rowsWritten ∧
    (s.reports other).map RunResult.changes = (Request.texts other).map rowsWritten ∧
    ∀ r, s.handedOut r run = s.handedOut r other ∧
      s.handedOut r run = idsAfter (s.ids r).length (s.handedOut r run).length ∧
      (s.serve run).ids r = s.ids r ++ s.handedOut r run ∧
      (s.serve other).ids r = s.ids r ++ s.handedOut r other ∧
      (((s.serve run).ids r).length < Int64.maxValue.toInt →
        (s.handedOut r run).map Int64.toInt =
            numbersAfter (s.ids r).length (s.handedOut r run).length ∧
          (s.handedOut r run).Nodup) ∧
      (((s.serve run).stored r).map StoredRow.content).Perm
        (((s.serve other).stored r).map StoredRow.content) := by
  refine ⟨changes_reported s run, changes_reported s other, ?_⟩
  intro r
  have written := written_to_perm permuted r
  refine ⟨?_, handed_out_after reachable r run, ids_served s r run, ids_served s r other,
    handed_out_numbers reachable, ?_⟩
  · rw [handed_out_from, handed_out_from, written.length_eq]
  · rw [served_content, served_content]
    exact (written.map _).append_left _

/-- Two clients, one of whom sends a malformed INSERT between two good ones. -/
def firstClient : List Request :=
  [⟨"INSERT INTO orders VALUES (1, 2, 3, 4.5)", .run, default⟩,
   ⟨"INSERT INTO orders VALUES (1, 2)", .get, default⟩,
   ⟨"INSERT INTO orders VALUES (2, 2, 1, 0)", .all, .epoch⟩]

def secondClient : List Request :=
  [⟨"INSERT INTO orders VALUES (9, 9, 9, 9)", .execute, .epoch⟩,
   ⟨"SELECT * FROM orders", .all, .epoch⟩]

theorem clients_in_either_order :
    (Request.texts (firstClient ++ secondClient)).Perm
      (Request.texts (secondClient ++ firstClient)) ∧
    ((Store.seeded default).handedOut .orders (firstClient ++ secondClient)).map Int64.toInt =
      [1, 2, 3] ∧
    (Store.seeded default).handedOut .orders (firstClient ++ secondClient) =
      (Store.seeded default).handedOut .orders (secondClient ++ firstClient) ∧
    ((((Store.seeded default).serve (firstClient ++ secondClient)).stored .orders).map
      StoredRow.content).Perm
      ((((Store.seeded default).serve (secondClient ++ firstClient)).stored .orders).map
        StoredRow.content) := by
  have fresh : (Store.seeded default).Reachable := ⟨_, [], Or.inr ⟨default, rfl⟩, rfl⟩
  have permuted : (Request.texts (firstClient ++ secondClient)).Perm
      (Request.texts (secondClient ++ firstClient)) := by
    rw [Request.texts, Request.texts, List.map_append, List.map_append]
    exact List.perm_append_comm
  have counts : (((Store.seeded default).serve (firstClient ++ secondClient)).ids .orders).length =
      3 ∧ ((Store.seeded default).handedOut .orders (firstClient ++ secondClient)).length = 3 ∧
      ((Store.seeded default).ids .orders).length = 0 := by decide +kernel
  obtain ⟨_, _, kept⟩ := order_of_statements_free fresh permuted
  obtain ⟨same, _, _, _, numbers, contents⟩ := kept .orders
  have handed := (numbers (by rw [counts.1]; decide)).1
  rw [counts.2.1, counts.2.2] at handed
  exact ⟨permuted, handed, same, contents⟩

end InjectionLab
