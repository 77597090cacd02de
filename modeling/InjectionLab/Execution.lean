import InjectionLab.Statement.Clause
import InjectionLab.Statement.Kind
import InjectionLab.Statement.Literals
import InjectionLab.Statement.Trigger
import InjectionLab.Store

/-!
One statement as one step of the store. A step never fails: a statement that is not recognised
returns no rows, and an insert whose literal list has not the right shape changes nothing.
-/
namespace InjectionLab

inductive Outcome where
  | rows (rows : List Row)
  | mutation (result : RunResult)
deriving DecidableEq, Repr

namespace Outcome

def rowList : Outcome → List Row
  | rows found => found
  | mutation _ => []

def runResult : Outcome → RunResult
  | rows _ => .none
  | mutation result => result

end Outcome

inductive Event where
  | injectionDetected (relation : Relation) (trigger : Trigger)
  | clauseMatched (clause : Clause)
  | rowInserted (relation : Relation) (id : Int64)
  | insertSkipped (relation : Relation)
  | unrecognised (kind : Kind)
deriving DecidableEq, Repr

structure Step where
  outcome : Outcome
  store : Store
  events : List Event
deriving DecidableEq, Repr

/-- Rows of a relation that a SELECT returns: all of them if a trigger fires, and those that its
    clauses let through otherwise. -/
def selected {α : Type} (record : α → Record) (trigger : Option Trigger) (clauses : List Clause)
    (rows : List α) : List α :=
  match trigger with
  | some _ => rows
  | none =>
    match Clause.conjunction? clauses with
    | some predicate => predicate.filter record rows
    | none => rows

def selectionEvents (relation : Relation) (trigger : Option Trigger) (clauses : List Clause) :
    List Event :=
  match trigger with
  | some trigger => [.injectionDetected relation trigger]
  | none => clauses.map .clauseMatched

def selectUsers (sql : String) (s : Store) : Step :=
  let trigger := detectInjection sql
  let clauses := Clause.ofUsers sql
  ⟨.rows ((selected User.record trigger clauses s.users.rows).map .user), s,
    selectionEvents .users trigger clauses⟩

def selectProducts (sql : String) (s : Store) : Step :=
  let trigger := detectTautology sql
  let clauses := Clause.ofProducts sql
  ⟨.rows ((selected Product.record trigger clauses s.products.rows).map .product), s,
    selectionEvents .products trigger clauses⟩

def selectOrders (s : Store) : Step := ⟨.rows (s.orderViews.map .order), s, []⟩

def insertedStep (relation : Relation) (id : Int64) (s : Store) : Step :=
  ⟨.mutation (.inserted id), s, [.rowInserted relation id]⟩

def skippedStep (relation : Relation) (s : Store) : Step :=
  ⟨.mutation .none, s, [.insertSkipped relation]⟩

def insertUser (now : Timestamp) (sql : String) (s : Store) : Step :=
  match userValues sql with
  | some v => insertedStep .users s.users.nextId (s.appendUser now v)
  | none => skippedStep .users s

def insertProduct (now : Timestamp) (sql : String) (s : Store) : Step :=
  match productValues sql with
  | some v => insertedStep .products s.products.nextId (s.appendProduct now v)
  | none => skippedStep .products s

def insertOrder (now : Timestamp) (sql : String) (s : Store) : Step :=
  match orderValues sql with
  | some v => insertedStep .orders s.orders.nextId (s.appendOrder now v)
  | none => skippedStep .orders s

/-- Runs a statement; `now` is the time of creation of the row it may add. -/
def execute (now : Timestamp) (sql : String) (s : Store) : Step :=
  match classify sql with
  | ⟨.select, some .users⟩ => selectUsers sql s
  | ⟨.select, some .products⟩ => selectProducts sql s
  | ⟨.select, some .orders⟩ => selectOrders s
  | ⟨.insert, some .users⟩ => insertUser now sql s
  | ⟨.insert, some .products⟩ => insertProduct now sql s
  | ⟨.insert, some .orders⟩ => insertOrder now sql s
  | ⟨kind, _⟩ => ⟨.rows [], s, [.unrecognised kind]⟩

end InjectionLab
