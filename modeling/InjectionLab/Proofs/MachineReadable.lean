import InjectionLab.Cli.Program
import InjectionLab.Proofs.Files
import InjectionLab.Proofs.RowRoundTrip
import Mathlib

/-!
Output for machines. In JSON format each statement that is executed prints one document and a line
break, and so do the counts. Only a first row that is not there is reported in words.
-/
namespace InjectionLab

/-! Documents within bounds -/

theorem row_bounded (row : Row) : row.toJson.Bounded := by
  cases row with
  | user u => exact user_bounded u
  | product p => exact product_bounded p
  | order view =>
    exact Json.bounded_members_append (order_bounded view.order) ⟨trivial, trivial, trivial⟩

theorem rows_bounded (rows : List Row) : (Json.array (rows.map Row.toJson)).Bounded := by
  rw [Json.Bounded]
  apply Json.bounded_items
  intro x member
  obtain ⟨row, _, rfl⟩ := List.mem_map.mp member
  exact row_bounded row

theorem result_bounded {result : RunResult} (few : result.changes ≤ 1) : result.toJson.Bounded := by
  have fits : result.changes < UInt64.size := Nat.lt_of_le_of_lt few (by decide)
  exact ⟨Json.int64_bounded result.lastInsertRowid, Json.nat_bounded fits, trivial⟩

theorem changes_at_most_one (now : Timestamp) (sql : String) (s : Store) :
    (execute now sql s).outcome.runResult.changes ≤ 1 := by
  have effect := execute_written now sql s
  cases written : written? sql with
  | none =>
    simp only [written] at effect
    rw [effect.2]
    exact Nat.zero_le 1
  | some entry =>
    simp only [written] at effect
    rw [effect.2]
    exact Nat.le_refl 1

namespace Cli

def DocumentLine (out : String) : Prop :=
  ∃ text json, out = text ++ "\n" ∧ Json.read? text.toList = some json

/-- The statements of a script that are executed: none if its file cannot be had. -/
def executed (around : Surroundings) : Option String → List String
  | none => (readableStatements around.stdin).1
  | some path =>
    match around.files.content path with
    | .ok content => (readableStatements content).1
    | .error _ => []

theorem document_printed {json : Json} (bounded : json.Bounded) :
    DocumentLine (documentLine json) :=
  ⟨json.prettyText, json, rfl, Json.read_pretty bounded⟩

/-! Reports -/

variable {medium : Medium}

theorem rows_printed (json : medium.format = .json) (rows : List Row) :
    DocumentLine (rowReport medium rows) := by
  rw [rowReport, json]
  exact document_printed (rows_bounded rows)

theorem result_printed (json : medium.format = .json) (now : Timestamp) (sql : String) (s : Store) :
    DocumentLine (runReport medium (execute now sql s).outcome.runResult) := by
  rw [runReport, json]
  exact document_printed (result_bounded (changes_at_most_one now sql s))

theorem counts_printed (json : medium.format = .json) (now : Timestamp) :
    DocumentLine (countReport medium (Store.seeded now).counts) := by
  have few {n : Nat} (small : n ≤ 4) : (Json.int n).Bounded :=
    Json.nat_bounded (Nat.lt_of_le_of_lt small (by decide))
  have seeded : (Store.seeded now).counts = ⟨4, 4, 0⟩ := rfl
  rw [countReport, json, seeded]
  exact document_printed ⟨few (by decide), few (by decide), few (by decide), trivial⟩

theorem missing_row_unread (inColor : Bool) :
    Json.read? (paint inColor .yellow "No row").toList = none := by
  cases inColor <;> rfl

theorem first_row_printed (json : medium.format = .json) (rows : List Row) :
    DocumentLine (firstRowReport medium rows.head?) ↔ rows ≠ [] := by
  cases rows with
  | nil =>
    apply iff_of_false
    · intro printed
      obtain ⟨text, json, same, read⟩ := printed
      obtain rfl : paint medium.inColor .yellow "No row" = text := by
        exact (String.append_left_inj _).mp same
      rw [missing_row_unread] at read
      cases read
    · exact fun none => none rfl
  | cons row rest => exact iff_of_true (rows_printed json [row]) (List.cons_ne_nil row rest)

theorem script_printed (json : medium.format = .json) (now : Timestamp) (s : Store)
    (sqls : List String) :
    ∃ documents, scriptReport now medium s sqls = String.join documents ∧
      (∀ d ∈ documents, DocumentLine d) ∧ documents.length = sqls.length := by
  -- The induction is over the statements, with the store left general.
  induction sqls generalizing s with
  | nil => exact ⟨[], rfl, by simp, rfl⟩
  | cons sql rest ih =>
    obtain ⟨documents, joined, each, count⟩ := ih (execute now sql s).store
    have silent : echo medium sql = "" := by rw [echo, json]
    have first : DocumentLine (outcomeReport medium sql (execute now sql s).outcome) := by
      rw [outcomeReport]
      split
      · exact result_printed json now sql s
      · exact rows_printed json _
    refine ⟨_ :: documents, ?_, List.forall_mem_cons.mpr ⟨first, each⟩, congrArg Nat.succ count⟩
    rw [scriptReport, silent, String.empty_append, joined, String.join_cons]

theorem text_readable (text : String) :
    readableStatements text.toUTF8 = (statements text, true) := by
  simp only [readableStatements, text_decoded]

theorem content_printed (now : Timestamp) (medium : Medium) (content : ByteArray) :
    (runScript now medium content).stdout =
      scriptReport now medium (.seeded now) (readableStatements content).1 := by
  rw [runScript]
  dsimp only
  split <;> rfl

theorem executed_printed (around : Surroundings) (medium : Medium) (file : Option String) :
    (runCommand around medium (.script file)).stdout =
      scriptReport around.now medium (.seeded around.now) (executed around file) := by
  cases file with
  | none => exact content_printed around.now medium around.stdin
  | some path =>
    rw [runCommand, runScriptFile, executed]
    split
    · rename_i content held
      rw [content_printed, held]
    · rename_i missing
      rw [missing]
      rfl
    · rename_i cause _ missing
      rw [missing]
      rfl

/-- A command prints one document, and a script one for each statement that it executes. Asking for
    a first row prints a document just if there is one. -/
def Readable (around : Surroundings) (out : Response) : Command → Prop
  | .query _ | .run _ | .stats => out.exit = 0 ∧ DocumentLine out.stdout
  | .get sql => out.exit = 0 ∧ (DocumentLine out.stdout ↔
      (execute around.now sql (.seeded around.now)).outcome.rowList ≠ [])
  | .script file => ∃ documents, out.stdout = String.join documents ∧
      (∀ d ∈ documents, DocumentLine d) ∧ documents.length = (executed around file).length

theorem command_readable (json : medium.format = .json) (around : Surroundings) (command : Command) :
    Readable around (runCommand around medium command) command := by
  cases command with
  | query sql => exact ⟨rfl, rows_printed json _⟩
  | get sql => exact ⟨rfl, first_row_printed json _⟩
  | run sql => exact ⟨rfl, result_printed json around.now sql _⟩
  | stats => exact ⟨rfl, counts_printed json around.now⟩
  | script file =>
    rw [Readable, executed_printed]
    exact script_printed json around.now _ _

/-- What the program prints when its output format comes down to JSON. -/
theorem json_output_readable {around : Surroundings} {arguments : List String} {command : Command}
    {options : Options} {c : Config}
    (asked : Request.ofArguments (around.env Config.pathVariable) arguments =
      .command command options)
    (loaded : Config.load around.files around.env options.config = .ok c)
    (json : options.format.getD c.output = .json) :
    Readable around (run around arguments) command := by
  rw [run, asked, runRequest, runConfigured, loaded]
  exact command_readable json around command

def Surroundings.bare : Surroundings :=
  ⟨⟨fun _ => none⟩, ⟨fun _ => false, fun _ => .error .notFound⟩, .empty, false, .epoch⟩

/-- Two statements, one of them malformed and the other of no kind, beside a comment. -/
theorem script_documented :
    let around : Surroundings :=
      { Surroundings.bare with stdin := " INSERT INTO users\n-- \n\tDROP TABLE users\r\n".toUTF8 }
    ∃ documents, (run around ["--format", "json", "script"]).stdout = String.join documents ∧
      (∀ d ∈ documents, DocumentLine d) ∧ documents.length = 2 := by
  intro around
  have asked : Request.ofArguments (around.env Config.pathVariable) ["--format", "json", "script"] =
      .command (.script none) ⟨none, some .json⟩ := by decide +kernel
  obtain ⟨documents, joined, each, count⟩ := json_output_readable asked rfl rfl
  have lines : statements " INSERT INTO users\n-- \n\tDROP TABLE users\r\n" =
      ["INSERT INTO users", "DROP TABLE users"] := by decide +kernel
  rw [executed, text_readable, lines] at count
  exact ⟨documents, joined, each, count⟩

theorem missing_row_in_words :
    let out := run .bare ["--format", "json", "get", "SELECT * FROM users WHERE id = 42"]
    out = ⟨0, "No row\n", none⟩ ∧ ¬ DocumentLine out.stdout := by
  intro out
  have said : out = ⟨0, "No row\n", none⟩ := by decide +kernel
  have json : (⟨.json, false⟩ : Medium).format = .json := rfl
  refine ⟨said, ?_⟩
  rw [said]
  intro printed
  exact (first_row_printed json []).mp printed rfl

end Cli
end InjectionLab
