import InjectionLab.Numeral
import InjectionLab.Text.Pattern

/-!
Literal lists of an INSERT. A list is found by its shape alone, anywhere in the text: the keyword,
then in brackets the literals that the relation's columns need. The first list of the right shape
counts, even if one of its numbers has no value.
-/
namespace InjectionLab
open Text

structure UserValues where
  username : String
  email : String
  password : String
  role : String
deriving DecidableEq, Repr

structure ProductValues where
  name : String
  description : String
  price : Amount
  category : String
  stock : Int64
deriving DecidableEq, Repr

structure OrderValues where
  userId : Int64
  productId : Int64
  quantity : Int64
  totalPrice : Amount
deriving DecidableEq, Repr

namespace Text.Pattern

def integer : Pattern := [.numeral true false]

def amount : Pattern := [.numeral true true]

def separated : List Pattern → Pattern
  | [] => []
  | [literal] => .gap :: literal ++ [.gap]
  | literal :: rest => .gap :: literal ++ [.gap, .mark ','] ++ separated rest

def valueList (literals : List Pattern) : Pattern :=
  word "values" ++ [.gap, .mark '('] ++ separated literals ++ [.mark ')']

end Text.Pattern

def UserValues.pattern : Pattern :=
  .valueList [.quoted, .quoted, .quoted, .quoted]

def ProductValues.pattern : Pattern :=
  .valueList [.quoted, .quoted, .amount, .quoted, .integer]

def OrderValues.pattern : Pattern :=
  .valueList [.integer, .integer, .integer, .amount]

def userValues (sql : String) : Option UserValues :=
  match UserValues.pattern.find? sql.toList with
  | some [username, email, password, role] =>
    some ⟨String.ofList username, String.ofList email, String.ofList password, String.ofList role⟩
  | _ => none

def productValues (sql : String) : Option ProductValues :=
  match ProductValues.pattern.find? sql.toList with
  | some [name, description, price, category, stock] => do
    let price ← Numeral.amount? price
    let stock ← Numeral.integer? stock
    some ⟨String.ofList name, String.ofList description, price, String.ofList category, stock⟩
  | _ => none

def orderValues (sql : String) : Option OrderValues :=
  match OrderValues.pattern.find? sql.toList with
  | some [userId, productId, quantity, totalPrice] => do
    let userId ← Numeral.integer? userId
    let productId ← Numeral.integer? productId
    let quantity ← Numeral.integer? quantity
    let totalPrice ← Numeral.amount? totalPrice
    some ⟨userId, productId, quantity, totalPrice⟩
  | _ => none

end InjectionLab
