import InjectionLab.Execution

/-!
Ways to call a statement without knowing whether it reads or writes. Each of them runs it, so an
INSERT takes effect even where only rows are asked for.
-/
namespace InjectionLab

inductive Call where
  /-- The first row, if there is one. -/
  | get
  /-- Every row. -/
  | all
  /-- What was changed. -/
  | run
  /-- The outcome as it is. -/
  | execute
deriving DecidableEq, Repr

inductive Answer where
  | row (row : Option Row)
  | rows (rows : List Row)
  | result (result : RunResult)
  | outcome (outcome : Outcome)
deriving DecidableEq, Repr

def Call.answer (outcome : Outcome) : Call → Answer
  | get => .row outcome.rowList.head?
  | all => .rows outcome.rowList
  | run => .result outcome.runResult
  | execute => .outcome outcome

namespace Store

def perform (now : Timestamp) (sql : String) (call : Call) (s : Store) : Answer × Store :=
  let step := execute now sql s
  (call.answer step.outcome, step.store)

/-- Runs one statement through several calls, each on the store that the one before it left. -/
def performAll (now : Timestamp) (sql : String) (s : Store) : List Call → List Answer × Store
  | [] => ([], s)
  | call :: calls =>
    let (answer, next) := s.perform now sql call
    let (answers, last) := performAll now sql next calls
    (answer :: answers, last)

end Store
end InjectionLab
