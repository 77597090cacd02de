import InjectionLab.Proofs.MachineReadable

/-!
What is printed of an outcome, said without the program's own reports: in JSON one document that is
read back as it was, and in a table a line for a change, or a heading and a line for each row with
every field of the row.
-/
namespace InjectionLab

def Row.cells : Row → List (String × String)
  | user u => [("created_at", String.ofList u.createdAt.text), ("email", u.email),
      ("password", u.password), ("role", u.role), ("username", u.username)]
  | product p => [("category", p.category), ("created_at", String.ofList p.createdAt.text),
      ("description", p.description), ("name", p.name),
      ("price", (Json.ofAmount p.price).compactText), ("stock", toString p.stock.toInt)]
  | order o => [("created_at", String.ofList o.order.createdAt.text),
      ("product_id", toString o.order.productId.toInt), ("product_name", o.productName),
      ("quantity", toString o.order.quantity.toInt), ("status", o.order.status),
      ("total_price", (Json.ofAmount o.order.totalPrice).compactText),
      ("user_id", toString o.order.userId.toInt), ("username", o.username)]

namespace Cli

/-- The text is the document on lines of its own, and is read back as this document. -/
def Documents (json : Json) (out : String) : Prop :=
  out = json.prettyText ++ "\n" ∧ Json.read? json.prettyText.toList = some json

def tableRow (inColor : Bool) (row : Row) : String :=
  "  " ++ paint inColor .boldCyan ("#" ++ toString row.id.toInt) ++ " " ++
    paint inColor .dimmed (" ".intercalate (row.cells.map fun cell => cell.1 ++ "=" ++ cell.2)) ++
    "\n"

inductive RowsReported (medium : Medium) : List Row → String → Prop
  | document {rows : List Row} {out : String} (json : medium.format = .json)
      (written : Documents (.array (rows.map Row.toJson)) out) : RowsReported medium rows out
  | none (table : medium.format = .table) :
      RowsReported medium [] (paint medium.inColor .yellow "No rows" ++ "\n")
  | some {row : Row} {more : List Row} (table : medium.format = .table) :
      RowsReported medium (row :: more)
        (paint medium.inColor .green "✓" ++ " " ++ toString (more.length + 1) ++ " row(s):\n" ++
          String.join ((row :: more).map (tableRow medium.inColor)))

inductive ChangeReported (medium : Medium) : RunResult → String → Prop
  | document {change : RunResult} {out : String} (json : medium.format = .json)
      (written : Documents change.toJson out) : ChangeReported medium change out
  | unchanged {change : RunResult} (table : medium.format = .table) (none : change.changes = 0) :
      ChangeReported medium change (paint medium.inColor .yellow "•" ++ " 0 rows changed\n")
  | changed {change : RunResult} (table : medium.format = .table) (some : change.changes ≠ 0) :
      ChangeReported medium change
        (paint medium.inColor .green "✓" ++ " " ++ toString change.changes ++
          " row changed (lastInsertRowid: " ++ toString change.lastInsertRowid.toInt ++ ")\n")

/-! The program's reports -/

theorem int_string_eq (n : Int) : intString n = toString n := by
  rw [intString, Json.Number.intText]
  cases n with
  | ofNat n =>
    rw [if_neg (show ¬ Int.ofNat n < 0 by simp)]
    rfl
  | negSucc n =>
    have negative : toString (Int.negSucc n) = "-" ++ Nat.repr (n + 1) := rfl
    rw [if_pos (Int.negSucc_lt_zero n), negative, ← String.toList_inj]
    simp [Nat.repr, Json.Number.natText]

theorem fields_of_cells (row : Row) :
    (rowFields row).map fieldText = row.cells.map fun cell => cell.1 ++ "=" ++ cell.2 := by
  have dated (t : Timestamp) : fieldText ("created_at", t.toJson.sorted) =
      "created_at=" ++ String.ofList t.text := by
    rw [Timestamp.toJson, Json.sorted] <;> simp [fieldText]
  have whole (name : String) (n : Int64) : fieldText (name, (Json.ofInt64 n).sorted) =
      name ++ "=" ++ toString n.toInt := by
    rw [← int_string_eq, Json.ofInt64, Json.int, Json.sorted]
    · rfl
    all_goals simp
  have sized (name : String) (a : Amount) : fieldText (name, (Json.ofAmount a).sorted) =
      name ++ "=" ++ (Json.ofAmount a).compactText := by
    cases a <;> rw [Json.ofAmount, Json.sorted] <;> simp [fieldText]
  cases row with
  | user u =>
    simp +decide [rowFields, Row.toJson, User.toJson, Json.sorted, Json.sortedMembers,
      Json.insertMember, dated]
    simp [fieldText, Row.cells]
  | product p =>
    simp +decide [rowFields, Row.toJson, Product.toJson, Json.sorted, Json.sortedMembers,
      Json.insertMember, dated, whole, sized]
    simp [fieldText, Row.cells]
  | order o =>
    simp +decide [rowFields, Row.toJson, OrderView.toJson, Order.members, Json.sorted,
      Json.sortedMembers, Json.insertMember, dated, whole, sized]
    simp [fieldText, Row.cells]

theorem row_line_eq (inColor : Bool) (row : Row) : rowLine inColor row = tableRow inColor row := by
  rw [rowLine, fields_of_cells, int_string_eq]
  rfl

theorem row_table_eq (inColor : Bool) (row : Row) (more : List Row) :
    rowTable inColor (row :: more) =
      paint inColor .green "✓" ++ " " ++ toString (more.length + 1) ++ " row(s):\n" ++
        String.join ((row :: more).map (tableRow inColor)) := by
  have lines : rowLine inColor = tableRow inColor := funext (row_line_eq inColor)
  have heading : line (paint inColor .green "✓" ++ " " ++ intString (row :: more).length ++
      " row(s):") =
      paint inColor .green "✓" ++ " " ++ toString (more.length + 1) ++ " row(s):\n" := by
    rw [line, String.append_assoc, int_string_eq]
    rfl
  rw [rowTable, List.isEmpty_cons, if_neg Bool.false_ne_true, lines, heading]

theorem rows_reported (medium : Medium) (rows : List Row) :
    RowsReported medium rows (rowReport medium rows) := by
  cases format : medium.format with
  | json =>
    rw [rowReport, format]
    exact .document format ⟨rfl, Json.read_pretty (rows_bounded rows)⟩
  | table =>
    rw [rowReport, format]
    dsimp only
    cases rows with
    | nil => exact .none format
    | cons row more =>
      rw [row_table_eq]
      exact .some format

theorem change_line_eq (inColor : Bool) (change : RunResult) :
    line (paint inColor .green "✓" ++ " " ++ intString change.changes ++
      " row changed (lastInsertRowid: " ++ intString change.lastInsertRowid.toInt ++ ")") =
    paint inColor .green "✓" ++ " " ++ toString change.changes ++
      " row changed (lastInsertRowid: " ++ toString change.lastInsertRowid.toInt ++ ")\n" := by
  rw [int_string_eq, int_string_eq, line, String.append_assoc]
  rfl

theorem change_reported (medium : Medium) {change : RunResult} (few : change.changes ≤ 1) :
    ChangeReported medium change (runReport medium change) := by
  cases format : medium.format with
  | json =>
    rw [runReport, format]
    exact .document format ⟨rfl, Json.read_pretty (result_bounded few)⟩
  | table =>
    rw [runReport, format]
    dsimp only
    by_cases none : change.changes = 0
    · rw [if_pos none, line, String.append_assoc]
      exact .unchanged format none
    · rw [if_neg none, change_line_eq]
      exact .changed format none

end Cli
end InjectionLab
