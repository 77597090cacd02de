import InjectionLab.Text.Pattern
import InjectionLab.Text.Uppercase

/-!
The injection heuristic: fixed pieces of text looked for anywhere in the upper-case form of a
statement, with double quotes read as single quotes. There are no word boundaries, so ORDER and
password hold OR.
-/
namespace InjectionLab
open Text

inductive Trigger where
  | quotedTautology
  | tautology
  | or
  | union
deriving DecidableEq, Repr

def Trigger.text : Trigger → String
  | .quotedTautology => "'1'='1"
  | .tautology => "1=1"
  | .or => "OR"
  | .union => "UNION"

def Trigger.all : List Trigger := [.quotedTautology, .tautology, .or, .union]

def Trigger.isTautology : Trigger → Bool
  | .quotedTautology | .tautology => true
  | .or | .union => false

def singleQuote (c : Char) : Char := if c == '"' then '\'' else c

def normalized (sql : String) : List Char := (uppercase sql.toList).map singleQuote

def Trigger.firesOn (text : List Char) (trigger : Trigger) : Bool :=
  (Pattern.exactly trigger.text).occursIn text

def detectInjection (sql : String) : Option Trigger :=
  Trigger.all.find? (·.firesOn (normalized sql))

/-- Tautologies only, for text in which OR is part of ordinary words. -/
def detectTautology (sql : String) : Option Trigger :=
  (Trigger.all.filter Trigger.isTautology).find? (·.firesOn (normalized sql))

def isInjection (sql : String) : Bool := (detectInjection sql).isSome

end InjectionLab
