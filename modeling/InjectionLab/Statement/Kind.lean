import InjectionLab.Text.Class
import InjectionLab.Text.Lowercase
import InjectionLab.Text.Pattern

/-!
What a statement is read as: the leading keyword gives its kind, and the first relation named after
FROM or INTO, in a fixed order of the relations, gives its target. Names are looked for anywhere in
the text, literals and comments included.
-/
namespace InjectionLab
open Text

inductive Kind where
  | select
  | insert
  | unknown
deriving DecidableEq, Repr

inductive Relation where
  | users
  | products
  | orders
deriving DecidableEq, Repr

def Kind.name : Kind → String
  | .select => "select"
  | .insert => "insert"
  | .unknown => "unknown"

def Relation.name : Relation → String
  | .users => "users"
  | .products => "products"
  | .orders => "orders"

def Relation.all : List Relation := [.users, .products, .orders]

structure Classified where
  kind : Kind
  relation : Option Relation
deriving DecidableEq, Repr

/-- A keyword, white space and the relation's name, in lower case. No word boundary is asked for on
    either side. -/
def Relation.pattern (keyword : String) (relation : Relation) : Pattern :=
  Pattern.exactly keyword ++ [.blank, .gap] ++ Pattern.exactly relation.name

def lowered (sql : String) : List Char := trimStart (lowercase sql.toList)

def kindOf (text : List Char) : Kind :=
  if (Pattern.exactly "select").read? text |>.isSome then .select
  else if (Pattern.exactly "insert").read? text |>.isSome then .insert
  else .unknown

def Kind.keyword? : Kind → Option String
  | .select => some "from"
  | .insert => some "into"
  | .unknown => none

def namedRelation? (keyword : String) (text : List Char) : Option Relation :=
  Relation.all.find? fun relation => (relation.pattern keyword).occursIn text

def classify (sql : String) : Classified :=
  let text := lowered sql
  let kind := kindOf text
  ⟨kind, kind.keyword?.bind fun keyword => namedRelation? keyword text⟩

end InjectionLab
