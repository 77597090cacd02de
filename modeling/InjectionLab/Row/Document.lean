import InjectionLab.Json.Record
import InjectionLab.Row
import InjectionLab.Store

/-!
Rows and results as JSON documents. The fields of a row stand in the order of its columns.
-/
namespace InjectionLab

namespace Timestamp

def toJson (t : Timestamp) : Json := .string (String.ofList t.text)

def ofJson? (json : Json) : Option Timestamp := json.string?.bind fun s => parse? s.toList

end Timestamp

namespace User

def columns : List String := ["id", "username", "email", "password", "role", "created_at"]

def toJson (u : User) : Json :=
  .object [("id", .ofInt64 u.id), ("username", .string u.username), ("email", .string u.email),
    ("password", .string u.password), ("role", .string u.role), ("created_at", u.createdAt.toJson)]

def ofJson? (json : Json) : Option User :=
  match json.allFields? columns with
  | some [id, username, email, password, role, createdAt] => do
    some ⟨← id.int64?, ← username.string?, ← email.string?, ← password.string?, ← role.string?,
      ← Timestamp.ofJson? createdAt⟩
  | _ => none

end User

namespace Product

def columns : List String :=
  ["id", "name", "description", "price", "category", "stock", "created_at"]

def toJson (p : Product) : Json :=
  .object [("id", .ofInt64 p.id), ("name", .string p.name), ("description", .string p.description),
    ("price", .ofAmount p.price), ("category", .string p.category), ("stock", .ofInt64 p.stock),
    ("created_at", p.createdAt.toJson)]

def ofJson? (json : Json) : Option Product :=
  match json.allFields? columns with
  | some [id, name, description, price, category, stock, createdAt] => do
    some ⟨← id.int64?, ← name.string?, ← description.string?, ← price.amount?, ← category.string?,
      ← stock.int64?, ← Timestamp.ofJson? createdAt⟩
  | _ => none

end Product

namespace Order

def columns : List String :=
  ["id", "user_id", "product_id", "quantity", "total_price", "status", "created_at"]

def members (o : Order) : List (String × Json) :=
  [("id", .ofInt64 o.id), ("user_id", .ofInt64 o.userId), ("product_id", .ofInt64 o.productId),
    ("quantity", .ofInt64 o.quantity), ("total_price", .ofAmount o.totalPrice),
    ("status", .string o.status), ("created_at", o.createdAt.toJson)]

def toJson (o : Order) : Json := .object o.members

def ofJson? (json : Json) : Option Order :=
  match json.allFields? columns with
  | some [id, userId, productId, quantity, totalPrice, status, createdAt] => do
    some ⟨← id.int64?, ← userId.int64?, ← productId.int64?, ← quantity.int64?,
      ← totalPrice.amount?, ← status.string?, ← Timestamp.ofJson? createdAt⟩
  | _ => none

end Order

/-- The names come after the order's own columns. -/
def OrderView.toJson (o : OrderView) : Json :=
  .object (o.order.members ++
    [("username", .string o.username), ("product_name", .string o.productName)])

def Row.toJson : Row → Json
  | .user u => u.toJson
  | .product p => p.toJson
  | .order o => o.toJson

namespace RunResult

def columns : List String := ["lastInsertRowid", "changes"]

def toJson (r : RunResult) : Json :=
  .object [("lastInsertRowid", .ofInt64 r.lastInsertRowid), ("changes", .int r.changes)]

def ofJson? (json : Json) : Option RunResult :=
  match json.allFields? columns with
  | some [lastInsertRowid, changes] => do some ⟨← lastInsertRowid.int64?, ← changes.unsigned?⟩
  | _ => Option.none

end RunResult

def Counts.toJson (c : Counts) : Json :=
  .object [("users", .int c.users), ("products", .int c.products), ("orders", .int c.orders)]

end InjectionLab
