import InjectionLab.Numeral
import InjectionLab.Predicate
import InjectionLab.Text.Pattern

/-!
The clauses of a SELECT that narrow its rows. Each is one fragment, found anywhere in the text: no
column name is read, so `user_id = 3` asks for the identifier 3.
-/
namespace InjectionLab
open Text

inductive Clause where
  /-- Identifier asked for; one that 64 bits do not hold stands for no row. -/
  | id (id : Option Int64)
  | like (term : String)
  | role (role : String)
  | category (category : String)
  | minPrice (price : Amount)
  | maxPrice (price : Amount)
deriving DecidableEq, Repr

namespace Clause

def idPattern : Pattern := Pattern.word "id" ++ [.gap, .mark '=', .gap, .numeral false false]

def likePattern : Pattern :=
  Pattern.word "like" ++ [.gap, .mark '\'', .mark '%', .upTo '%', .mark '%', .mark '\'']

def rolePattern : Pattern := Pattern.word "role" ++ [.gap, .mark '=', .gap] ++ Pattern.quoted

def categoryPattern : Pattern := Pattern.word "category" ++ [.gap, .mark '=', .gap] ++ Pattern.quoted

def pricePattern (order : Char) : Pattern :=
  Pattern.word "price" ++ [.gap, .mark order, .mark '=', .gap, .numeral false true]

def captured? (pattern : Pattern) (sql : String) : Option (List Char) :=
  match pattern.find? sql.toList with
  | some [token] => some token
  | _ => none

def id? (sql : String) : Option Clause :=
  (captured? idPattern sql).map fun token => .id (Numeral.integer? token)

def like? (sql : String) : Option Clause :=
  (captured? likePattern sql).map fun token => .like (String.ofList token)

def role? (sql : String) : Option Clause :=
  (captured? rolePattern sql).map fun token => .role (String.ofList token)

def category? (sql : String) : Option Clause :=
  (captured? categoryPattern sql).map fun token => .category (String.ofList token)

/-- A bound that is no number is passed over. -/
def minPrice? (sql : String) : Option Clause :=
  ((captured? (pricePattern '>') sql).bind Numeral.amount?).map .minPrice

def maxPrice? (sql : String) : Option Clause :=
  ((captured? (pricePattern '<') sql).bind Numeral.amount?).map .maxPrice

/-- The one clause that a SELECT on users heeds. -/
def ofUsers (sql : String) : List Clause :=
  ((id? sql).or ((like? sql).or (role? sql))).toList

/-- The clauses that a SELECT on products heeds: the identifier alone, or all the others. -/
def ofProducts (sql : String) : List Clause :=
  match id? sql with
  | some clause => [clause]
  | none => (category? sql).toList ++ (minPrice? sql).toList ++ (maxPrice? sql).toList

def predicate : Clause → Predicate
  | id (some n) => .idIs n
  | id none => .never
  | like term => .contains ["username", "email"] term
  | role name => .equals "role" (.ofText name)
  | category name => .equals "category" (.ofText name)
  | minPrice price => .atLeast "price" (.ofAmount price)
  | maxPrice price => .atMost "price" (.ofAmount price)

def conjunction? : List Clause → Option Predicate
  | [] => none
  | clauses => some (clauses.foldl (fun p clause => p.and clause.predicate) .always)

end Clause

def userPredicate (sql : String) : Option Predicate := Clause.conjunction? (Clause.ofUsers sql)

def productPredicate (sql : String) : Option Predicate := Clause.conjunction? (Clause.ofProducts sql)

end InjectionLab
