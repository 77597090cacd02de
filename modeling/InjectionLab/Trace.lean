import InjectionLab.Execution

/-!
The trace of a statement: the opening of its span, the relation if one was recognised, what was
noticed on the way, and last the number of rows returned or changed.
-/
namespace InjectionLab

inductive Level where
  | debug
  | info
  | warn
deriving DecidableEq, Repr

def Level.name : Level → String
  | debug => "DEBUG"
  | info => "INFO"
  | warn => "WARN"

namespace Clause

def extractor : Clause → String
  | id _ => "id"
  | like _ => "like"
  | role _ => "role"
  | category _ => "category"
  | minPrice _ => "min_price"
  | maxPrice _ => "max_price"

def idText : Option Int64 → String
  | some n => "IdEq(" ++ String.ofList (Json.Number.intText n.toInt) ++ ")"
  | none => "None"

def detail : Clause → String × Json
  | id n => ("predicate", .string (idText n))
  | like term => ("term", .string term)
  | role name => ("role", .string name)
  | category name => ("category", .string name)
  | minPrice price => ("min", .ofAmount price)
  | maxPrice price => ("max", .ofAmount price)

end Clause

namespace Event

def level : Event → Level
  | injectionDetected _ _ => .warn
  | rowInserted _ _ => .info
  | clauseMatched _ | insertSkipped _ | unrecognised _ => .debug

def message : Event → String
  | injectionDetected _ _ => "SQL injection detected"
  | clauseMatched _ => "Extractor matched"
  | rowInserted _ _ => "Row inserted"
  | insertSkipped _ => "VALUES list did not match; insert skipped"
  | unrecognised _ => "Unrecognised statement"

def fields : Event → List (String × Json)
  | injectionDetected relation trigger =>
    [("relation", .string relation.name), ("trigger", .string trigger.text)]
  | clauseMatched clause => [("extractor", .string clause.extractor), clause.detail]
  | rowInserted relation id => [("relation", .string relation.name), ("id", .ofInt64 id)]
  | insertSkipped relation => [("relation", .string relation.name)]
  | unrecognised kind => [("kind", .string kind.name)]

end Event

inductive TraceEntry where
  | spanOpened (classified : Classified) (sql : String)
  | collectionNamed (relation : Relation)
  | noticed (event : Event)
  | rowsReturned (count : Nat)
  | rowsAffected (count : Nat)
deriving DecidableEq, Repr

namespace TraceEntry

def level : TraceEntry → Level
  | noticed event => event.level
  | _ => .info

def what : TraceEntry → String
  | spanOpened _ _ => "db.query"
  | noticed _ => "event"
  | _ => "record"

def fields : TraceEntry → List (String × Json)
  | spanOpened classified sql =>
    [("otel.name",
        .string (classified.kind.name ++ " " ++ (classified.relation.map Relation.name).getD "?")),
     ("db.system.name", .string "memory"),
     ("db.operation.name", .string classified.kind.name),
     ("db.query.text", .string sql)]
  | collectionNamed relation => [("db.collection.name", .string relation.name)]
  | noticed event => ("message", .string event.message) :: event.fields
  | rowsReturned count => [("db.response.returned_rows", .int count)]
  | rowsAffected count => [("db.response.affected_rows", .int count)]

end TraceEntry

def Outcome.count : Outcome → TraceEntry
  | rows found => .rowsReturned found.length
  | mutation result => .rowsAffected result.changes

def trace (now : Timestamp) (sql : String) (s : Store) : List TraceEntry :=
  let classified := classify sql
  let step := execute now sql s
  .spanOpened classified sql :: classified.relation.toList.map .collectionNamed ++
    step.events.map .noticed ++ [step.outcome.count]

end InjectionLab
