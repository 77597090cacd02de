import InjectionLab.Cli.Report
import InjectionLab.Execution
import InjectionLab.Text.Split

/-!
Scripts: one statement to a line, all of them run on one store. Blank lines and comments are passed
over, and white space around a statement does not count.
-/
namespace InjectionLab.Cli

def isComment : List Char → Bool
  | '-' :: '-' :: _ => true
  | _ => false

def lineStatement? (text : List Char) : Option String :=
  let statement := Text.trim text
  if statement.isEmpty || isComment statement then none else some (String.ofList statement)

def statements (text : String) : List String :=
  (Text.splitAt '\n' text.toList).filterMap lineStatement?

/-- Statements up to the first line that is not UTF-8, and whether there is no such line. -/
def readableStatements (content : ByteArray) : List String × Bool :=
  match String.fromUTF8? content with
  | some text => (statements text, true)
  | none =>
    let lines := (Text.splitAt 10 content.toList).map fun bytes =>
      String.fromUTF8? ⟨bytes.toArray⟩
    let readable := (lines.takeWhile Option.isSome).filterMap fun line => line
    (readable.filterMap fun line => lineStatement? line.toList, false)

def echo (medium : Medium) (sql : String) : String :=
  match medium.format with
  | .json => ""
  | .table => line (paint medium.inColor .cyan "→" ++ " " ++ paint medium.inColor .brightWhite sql)

def outcomeReport (medium : Medium) (sql : String) (outcome : Outcome) : String :=
  match (classify sql).kind with
  | .insert => runReport medium outcome.runResult
  | _ => rowReport medium outcome.rowList

def scriptReport (now : Timestamp) (medium : Medium) (s : Store) : List String → String
  | [] => ""
  | sql :: rest =>
    let step := execute now sql s
    echo medium sql ++ outcomeReport medium sql step.outcome ++
      scriptReport now medium step.store rest

end InjectionLab.Cli
