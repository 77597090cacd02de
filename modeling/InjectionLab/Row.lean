import InjectionLab.Json.Basic
import InjectionLab.Timestamp

/-!
Rows of the three relations, orders as they are read, and what a row shows to a predicate. Passwords
are kept in clear text on purpose.
-/
namespace InjectionLab

structure User where
  id : Int64
  username : String
  email : String
  password : String
  role : String
  createdAt : Timestamp
deriving DecidableEq, Repr

structure Product where
  id : Int64
  name : String
  description : String
  price : Amount
  category : String
  stock : Int64
  createdAt : Timestamp
deriving DecidableEq, Repr

/-- User and product are references that nothing checks. -/
structure Order where
  id : Int64
  userId : Int64
  productId : Int64
  quantity : Int64
  totalPrice : Amount
  status : String
  createdAt : Timestamp
deriving DecidableEq, Repr

structure OrderView where
  order : Order
  username : String
  productName : String
deriving DecidableEq, Repr

inductive Row where
  | user (row : User)
  | product (row : Product)
  | order (row : OrderView)
deriving DecidableEq, Repr

def Row.id : Row → Int64
  | .user u => u.id
  | .product p => p.id
  | .order o => o.order.id

structure RunResult where
  lastInsertRowid : Int64
  changes : Nat
deriving DecidableEq, Repr

namespace RunResult

def inserted (id : Int64) : RunResult := ⟨id, 1⟩

def none : RunResult := ⟨0, 0⟩

end RunResult

/-- A row as predicates see it: its identifier and its named fields, the time of creation apart. -/
structure Record where
  id : Int64
  field? : String → Option Json

def User.record (u : User) : Record where
  id := u.id
  field?
    | "id" => some (.ofInt64 u.id)
    | "username" => some (.string u.username)
    | "email" => some (.string u.email)
    | "password" => some (.string u.password)
    | "role" => some (.string u.role)
    | _ => Option.none

def Product.record (p : Product) : Record where
  id := p.id
  field?
    | "id" => some (.ofInt64 p.id)
    | "name" => some (.string p.name)
    | "description" => some (.string p.description)
    | "price" => some (.ofAmount p.price)
    | "category" => some (.string p.category)
    | "stock" => some (.ofInt64 p.stock)
    | _ => Option.none

end InjectionLab
