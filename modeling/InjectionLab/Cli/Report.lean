import InjectionLab.Cli.Style
import InjectionLab.Json.Writer
import InjectionLab.Row.Document

/-!
What is printed for rows, results and counts, as a table for people or as one JSON document.
-/
namespace InjectionLab.Cli

structure Medium where
  format : OutputFormat
  inColor : Bool
deriving DecidableEq, Repr

def line (text : String) : String := text ++ "\n"

def documentLine (json : Json) : String := line json.prettyText

def intString (n : Int) : String := String.ofList (Json.Number.intText n)

def fieldText : String × Json → String
  | (name, .string s) => name ++ "=" ++ s
  | (name, value) => name ++ "=" ++ value.compactText

/-- The fields of a row in name order, its identifier apart. -/
def rowFields (row : Row) : List (String × Json) :=
  match row.toJson.sorted with
  | .object members => members.filter fun member => member.1 != "id"
  | _ => []

def rowLine (inColor : Bool) (row : Row) : String :=
  line ("  " ++ paint inColor .boldCyan ("#" ++ intString row.id.toInt) ++ " " ++
    paint inColor .dimmed (String.intercalate " " ((rowFields row).map fieldText)))

def rowTable (inColor : Bool) (rows : List Row) : String :=
  if rows.isEmpty then line (paint inColor .yellow "No rows")
  else
    line (paint inColor .green "✓" ++ " " ++ intString rows.length ++ " row(s):") ++
      String.join (rows.map (rowLine inColor))

def rowReport (medium : Medium) (rows : List Row) : String :=
  match medium.format with
  | .json => documentLine (.array (rows.map Row.toJson))
  | .table => rowTable medium.inColor rows

def runReport (medium : Medium) (result : RunResult) : String :=
  match medium.format with
  | .json => documentLine result.toJson
  | .table =>
    if result.changes = 0 then line (paint medium.inColor .yellow "•" ++ " 0 rows changed")
    else
      line (paint medium.inColor .green "✓" ++ " " ++ intString result.changes ++
        " row changed (lastInsertRowid: " ++ intString result.lastInsertRowid.toInt ++ ")")

/-- The first row alone. That there is none is said in words in either format. -/
def firstRowReport (medium : Medium) : Option Row → String
  | some row => rowReport medium [row]
  | none => line (paint medium.inColor .yellow "No row")

def countLine (inColor : Bool) (name : String) (count : Nat) : String :=
  line ("  " ++ paint inColor .green "•" ++ " " ++ name ++ ": " ++ intString count)

def countReport (medium : Medium) (counts : Counts) : String :=
  match medium.format with
  | .json => documentLine counts.toJson
  | .table =>
    line (paint medium.inColor .boldCyan "Relations:") ++
      countLine medium.inColor "users" counts.users ++
      countLine medium.inColor "products" counts.products ++
      countLine medium.inColor "orders" counts.orders

end InjectionLab.Cli
