import InjectionLab.Row
import InjectionLab.Statement.Literals

/-!
The three relations in memory. Rows are only ever appended, and each relation counts its own
identifiers up from one.
-/
namespace InjectionLab

structure Table (α : Type) where
  rows : List α
  nextId : Int64
deriving DecidableEq, Repr

namespace Table

def empty {α : Type} : Table α := ⟨[], 1⟩

def append {α : Type} (make : Int64 → α) (t : Table α) : Table α :=
  ⟨t.rows ++ [make t.nextId], t.nextId + 1⟩

end Table

structure Store where
  users : Table User
  products : Table Product
  orders : Table Order
deriving DecidableEq, Repr

structure Counts where
  users : Nat
  products : Nat
  orders : Nat
deriving DecidableEq, Repr

namespace Store

def empty : Store := ⟨.empty, .empty, .empty⟩

def appendUser (now : Timestamp) (v : UserValues) (s : Store) : Store :=
  { s with users := s.users.append fun id => ⟨id, v.username, v.email, v.password, v.role, now⟩ }

def appendProduct (now : Timestamp) (v : ProductValues) (s : Store) : Store :=
  { s with products := s.products.append fun id =>
      ⟨id, v.name, v.description, v.price, v.category, v.stock, now⟩ }

/-- An order starts as pending. Its references are not looked up. -/
def appendOrder (now : Timestamp) (v : OrderValues) (s : Store) : Store :=
  { s with orders := s.orders.append fun id =>
      ⟨id, v.userId, v.productId, v.quantity, v.totalPrice, "pending", now⟩ }

def seedUsers : List UserValues :=
  [⟨"admin", "admin@example.com", "admin123", "admin"⟩,
   ⟨"john_doe", "john@example.com", "password123", "user"⟩,
   ⟨"jane_smith", "jane@example.com", "secret456", "user"⟩,
   ⟨"bob_wilson", "bob@example.com", "qwerty789", "user"⟩]

def cents (n : Nat) : Amount := .ofRatio false n 100

def seedProducts : List ProductValues :=
  [⟨"Laptop Pro", "High-performance laptop", cents 129999, "electronics", 10⟩,
   ⟨"Security Book", "Web Application Security Guide", cents 4999, "books", 25⟩,
   ⟨"Wireless Mouse", "Ergonomic wireless mouse", cents 2999, "accessories", 50⟩,
   ⟨"Keyboard", "Mechanical gaming keyboard", cents 8999, "accessories", 15⟩]

def seeded (now : Timestamp) : Store :=
  let withUsers := seedUsers.foldl (fun s v => s.appendUser now v) empty
  seedProducts.foldl (fun s v => s.appendProduct now v) withUsers

def counts (s : Store) : Counts :=
  ⟨s.users.rows.length, s.products.rows.length, s.orders.rows.length⟩

/-! Orders as they are read -/

def unknownName : String := "unknown"

def usernameOf (s : Store) (id : Int64) : String :=
  ((s.users.rows.find? (·.id == id)).map (·.username)).getD unknownName

def productNameOf (s : Store) (id : Int64) : String :=
  ((s.products.rows.find? (·.id == id)).map (·.name)).getD unknownName

def orderViews (s : Store) : List OrderView :=
  s.orders.rows.map fun order => ⟨order, s.usernameOf order.userId, s.productNameOf order.productId⟩

end Store
end InjectionLab
