import InjectionLab.Proofs.IdentifierLookup
import InjectionLab.Proofs.InsertText
import InjectionLab.Proofs.Text.Operator

/-!
Users under conditions. A SELECT of users may join searches and roles by AND, but one condition
decides alone: the first search, or the first role if nothing is searched. A term may hold quotes
and whole clauses, and does not lead the search astray: before the first search all literals are
roles, which hold no quote, and around their own quotes nothing can be read as a search.
-/
namespace InjectionLab
open Text

inductive TextColumn where
  | username
  | email
deriving DecidableEq, Repr

def TextColumn.name : TextColumn → String
  | username => "username"
  | email => "email"

inductive UserCondition where
  | search (column : TextColumn) (term : String)
  | role (name : String)
deriving DecidableEq, Repr

namespace UserCondition

def text : UserCondition → String
  | search column term => column.name ++ " LIKE '%" ++ term ++ "%'"
  | role name => "role = '" ++ name ++ "'"

/-- A term is not empty and has no percent sign, the name of a role can stand in a literal, and
    neither asks for an identifier. -/
def Written : UserCondition → Prop
  | search _ term => term ≠ "" ∧ '%' ∉ term.toList ∧ Clause.idPattern.occursIn term.toList = false
  | role name => Quotable name ∧ Clause.idPattern.occursIn name.toList = false

def column? : UserCondition → Option TextColumn
  | search column _ => some column
  | role _ => none

def token : UserCondition → List Char
  | search _ term => term.toList
  | role name => name.toList

def isSearch (c : UserCondition) : Bool := c.column?.isSome

def met (u : User) : UserCondition → Bool
  | search _ term => decide (term.toList <:+: u.username.toList ∨ term.toList <:+: u.email.toList)
  | role name => u.role == name

/-- The first search, or the first role if there is none. -/
def deciding? (conditions : List UserCondition) : Option UserCondition :=
  (conditions.find? isSearch).or conditions.head?

end UserCondition

def selectUsersText (conditions : List UserCondition) : String :=
  "SELECT * FROM users WHERE " ++ " AND ".intercalate (conditions.map UserCondition.text)

/-! The text of the statement -/

namespace UserCondition

def like : List Char := [' ', 'L', 'I', 'K', 'E', ' ']

def conjunction : List Char := [' ', 'A', 'N', 'D', ' ']

def opening : List Char := "SELECT * FROM users WHERE ".toList

def lead : Option TextColumn → List Char
  | some .username => ['u', 's', 'e', 'r', 'n', 'a', 'm', 'e'] ++ like
  | some .email => ['e', 'm', 'a', 'i', 'l'] ++ like
  | none => ['r', 'o', 'l', 'e', ' ', '=', ' ']

def body : UserCondition → List Char
  | search _ term => '%' :: (term.toList ++ ['%'])
  | role name => name.toList

def joined (conditions : List UserCondition) : List Char :=
  conjunction.intercalate (conditions.map fun c => c.text.toList)

theorem text_quoted (c : UserCondition) :
    c.text.toList = lead c.column? ++ '\'' :: (c.body ++ ['\'']) := by
  cases c with
  | search column term =>
    have before : (column.name ++ " LIKE '%").toList = lead (some column) ++ ['\'', '%'] := by
      cases column <;> decide +kernel
    have after : "%'".toList = ['%', '\''] := by decide +kernel
    rw [text, String.toList_append, String.toList_append, before, after, column?, body]
    simp only [List.append_assoc, List.cons_append, List.nil_append]
  | role name =>
    have before : "role = '".toList = lead none ++ ['\''] := by decide +kernel
    have after : "'".toList = ['\''] := by decide +kernel
    rw [text, String.toList_append, String.toList_append, before, after, column?, body]
    simp only [List.append_assoc, List.cons_append, List.nil_append]

def fronts : List (List Char) := [opening, conjunction, []]

theorem joined_cons (c : UserCondition) (conditions : List UserCondition) : ∃ front ∈ fronts,
    joined (c :: conditions) =
      lead c.column? ++ '\'' :: (c.body ++ '\'' :: (front ++ joined conditions)) ∧
    Outside (· != ' ') (front ++ joined conditions) := by
  cases conditions with
  | nil =>
    refine ⟨[], by simp [fronts], ?_, fun _ _ starts => by cases starts⟩
    simp only [joined, List.map_cons, List.map_nil, List.intercalate_singleton, text_quoted,
      List.intercalate_nil, List.append_nil]
  | cons d conditions =>
    refine ⟨conjunction, by simp [fronts], ?_, fun first rest starts => ?_⟩
    · simp only [joined, List.map_cons, List.intercalate_cons_cons, text_quoted c,
        List.append_assoc, List.cons_append, List.nil_append]
    · obtain ⟨rfl, -⟩ := List.cons.inj starts
      rfl

end UserCondition

open UserCondition

theorem select_users_split (conditions : List UserCondition) :
    (selectUsersText conditions).toList = opening ++ joined conditions := by
  have texts : (conditions.map text).map String.toList = conditions.map fun c => c.text.toList := by
    rw [List.map_map]
    rfl
  have joint : " AND ".toList = conjunction := by decide +kernel
  calc (selectUsersText conditions).toList
      = opening ++ (" AND ".intercalate (conditions.map text)).toList := String.toList_append
    _ = opening ++ joined conditions := by
      rw [String.toList_intercalate, texts, joint, joined]

theorem select_users_classified (conditions : List UserCondition) :
    classify (selectUsersText conditions) = ⟨.select, some .users⟩ := by
  have head : opening =
      Kind.select.name.toList.map Char.toUpper ++ " * FROM users WHERE ".toList := by
    decide +kernel
  have starts := select_users_split conditions
  rw [head, List.append_assoc] at starts
  refine classify_mentioned rfl starts ?_ fun other earlier => ?_
  · have mentioned : Relation.users.MentionedIn "from" opening :=
      (mentioned_iff_occurs (by decide)).mpr (by decide +kernel)
    rw [select_users_split]
    exact mentioned_infix mentioned (List.prefix_append _ _).isInfix
  · cases other <;> simp [Relation.all] at earlier

/-! What stands before a condition -/

section Front
variable {front : List Char} (fixed : front ∈ fronts) (column : Option TextColumn)
include fixed

theorem front_unquoted : '\'' ∉ front ++ lead column := by
  revert front
  rcases column with _ | _ | _ <;> decide +kernel

theorem front_unasked : Clause.idPattern.occursIn (front ++ lead column) = false := by
  revert front
  rcases column with _ | _ | _ <;> decide +kernel

end Front

/-! No identifier -/

theorem body_unasked {c : UserCondition} (written : c.Written) :
    Clause.idPattern.occursIn c.body = false := by
  cases c with
  | search column term =>
    have unheld : ∀ piece ∈ Clause.idPattern, piece.mayHold '%' = false := by decide +kernel
    have apart := asked_apart unheld
    have split : (search column term).body = [] ++ '%' :: (term.toList ++ '%' :: []) := rfl
    have nothing : Clause.idPattern.occursIn [] = false := rfl
    rw [split, apart, apart, written.2.2, nothing]
    rfl
  | role name => exact written.2

theorem nothing_asked {conditions : List UserCondition} (written : ∀ c ∈ conditions, c.Written)
    {front : List Char} (fixed : front ∈ fronts) :
    Clause.idPattern.occursIn (front ++ joined conditions) = false := by
  induction conditions generalizing front with
  | nil =>
    revert front
    decide +kernel
  | cons c conditions ih =>
    have unheld : ∀ piece ∈ Clause.idPattern, piece.mayHold '\'' = false := by decide +kernel
    have apart := asked_apart unheld
    obtain ⟨joint, fixed', split, -⟩ := joined_cons c conditions
    have later := ih (fun c member => written c (by simp [member])) fixed'
    rw [split, ← List.append_assoc, apart, apart, front_unasked fixed,
      body_unasked (written c (by simp)), later]
    rfl

/-! The first search -/

def likeFront : Pattern := Pattern.word "like" ++ [.gap]

def likeBack : Pattern := [.mark '%', .upTo '%', .mark '%', .mark '\'']

theorem like_split : Clause.likePattern = likeFront ++ .mark '\'' :: likeBack := rfl

theorem like_silent : ∀ piece ∈ likeFront, piece.captured = false := by decide

theorem like_unheld : ∀ piece ∈ likeFront, piece.mayHold '\'' = false := by decide +kernel

/-- The quotes of a role are passed over: its operator is before the first one, and no percent sign
    behind the second one. -/
theorem like_past_role {name : String} (quotable : Quotable name) {front later : List Char}
    (fixed : front ∈ fronts) (spaced : Outside (· != ' ') later) :
    Clause.likePattern.find? (front ++ lead none ++ '\'' :: (name.toList ++ '\'' :: later)) =
      Clause.likePattern.find? later := by
  have closed : lastSolid (front ++ lead none) = some '=' := by
    have last : lastSolid (lead none) = some '=' := by decide +kernel
    rw [last_solid_append, last]
    rfl
  have unread : likeBack.read? later = none := by
    cases later with
    | nil => rfl
    | cons c later =>
      obtain rfl : c = ' ' := by simpa using spaced c later rfl
      rfl
  rw [like_split, Pattern.find_past_mark like_silent like_unheld (front_unquoted fixed none),
    Pattern.find_past_mark like_silent like_unheld quotable.2 fun _ _ _ _ => unread]
  intro start parts split fits
  have word : likeFront = Pattern.word "lik" ++ [.letter 'e', .gap] := rfl
  rw [word] at fits
  obtain ⟨c, same, last⟩ := Pattern.word_closes (by decide) start fits
  obtain rfl := Option.some.inj (last.symm.trans (split ▸ closed))
  exact absurd same (by decide)

theorem term_read {column : TextColumn} {term : String} (written : (search column term).Written)
    (later : List Char) :
    likeBack.read? ((search column term).body ++ '\'' :: later) = some [term.toList] := by
  have filled : (Piece.upTo '%').Fits term.toList := by
    refine ⟨by simpa using written.1, fun c member => ?_⟩
    rw [bne_iff_ne]
    rintro rfl
    exact written.2.1 member
  have fits : List.Forall₂ Piece.Fits likeBack [['%'], term.toList, ['%'], ['\'']] :=
    .cons rfl (.cons filled (.cons rfl (.cons rfl .nil)))
  have text : (search column term).body ++ '\'' :: later =
      [['%'], term.toList, ['%'], ['\'']].flatten ++ later := by simp [body]
  rw [text]
  exact Pattern.read_to_close (by decide) rfl fits later

theorem like_at_search {column : TextColumn} {term : String} (written : (search column term).Written)
    {front : List Char} (fixed : front ∈ fronts) (later : List Char) :
    Clause.likePattern.find? (front ++ lead (some column) ++ '\'' ::
      ((search column term).body ++ '\'' :: later)) = some [term.toList] := by
  have fits : List.Forall₂ Piece.Fits likeFront [['L'], ['I'], ['K'], ['E'], [' ']] := by
    simp [likeFront, Pattern.word, Piece.Fits, sameLetter, one_blank]
  obtain ⟨start, split⟩ : ∃ start, lead (some column) = start ++ ['L', 'I', 'K', 'E', ' '] := by
    cases column with
    | username => exact ⟨['u', 's', 'e', 'r', 'n', 'a', 'm', 'e', ' '], rfl⟩
    | email => exact ⟨['e', 'm', 'a', 'i', 'l', ' '], rfl⟩
  have unquoted := front_unquoted fixed (some column)
  rw [split, ← List.append_assoc] at unquoted ⊢
  rw [List.append_assoc (front ++ start)]
  exact Pattern.find_at_mark like_silent like_unheld
    (fun member => unquoted (List.mem_append_left _ member))
    (Pattern.reads_to_solid (by decide) rfl fits (by decide) _) (term_read written later)

theorem like_found {conditions : List UserCondition} (written : ∀ c ∈ conditions, c.Written)
    {front : List Char} (fixed : front ∈ fronts) :
    Clause.likePattern.find? (front ++ joined conditions) =
      (conditions.find? isSearch).map fun c => [c.token] := by
  induction conditions generalizing front with
  | nil =>
    revert front
    decide +kernel
  | cons c conditions ih =>
    obtain ⟨joint, fixed', split, spaced⟩ := joined_cons c conditions
    rw [split, ← List.append_assoc]
    cases c with
    | search column term =>
      exact like_at_search (written _ (by simp)) fixed _
    | role name =>
      have own : (role name).Written := written _ (by simp)
      rw [column?, body, like_past_role own.1 fixed spaced,
        ih (fun c member => written c (by simp [member])) fixed']
      rfl

/-! The first role -/

def roleFront : Pattern := Pattern.word "role" ++ [.gap, .mark '=', .gap]

def roleBack : Pattern := [.upTo '\'', .mark '\'']

theorem role_at_front {name : String} (quotable : Quotable name) {front : List Char}
    (fixed : front ∈ fronts) (later : List Char) :
    Clause.rolePattern.find? (front ++ lead none ++ '\'' :: (name.toList ++ '\'' :: later)) =
      some [name.toList] := by
  have split : Clause.rolePattern = roleFront ++ .mark '\'' :: roleBack := rfl
  have fits : List.Forall₂ Piece.Fits roleFront
      [['r'], ['o'], ['l'], ['e'], [' '], ['='], [' ']] := by
    simp [roleFront, Pattern.word, Piece.Fits, sameLetter, one_blank]
  have read : roleBack.read? (name.toList ++ '\'' :: later) = some [name.toList] := by
    have fits : List.Forall₂ Piece.Fits roleBack [name.toList, ['\'']] :=
      .cons (token_fits.mp (quotable_fits quotable)) (.cons rfl .nil)
    have text : name.toList ++ '\'' :: later = [name.toList, ['\'']].flatten ++ later := by simp
    rw [text]
    exact Pattern.read_to_close (by decide) rfl fits later
  have unquoted := front_unquoted fixed none
  rw [split, List.append_assoc]
  exact Pattern.find_at_mark (by decide) (by decide +kernel)
    (fun member => unquoted (List.mem_append_left _ member))
    (Pattern.reads_to_solid (by decide) rfl fits (by decide) _) read

/-! The rows -/

def UserCondition.clause : UserCondition → Clause
  | search _ term => .like term
  | role name => .role name

theorem role_clause_read {conditions : List UserCondition} (written : ∀ c ∈ conditions, c.Written)
    (unsearched : conditions.find? isSearch = none) :
    Clause.role? (selectUsersText conditions) = conditions.head?.map UserCondition.clause := by
  rw [Clause.role?, Clause.captured?, select_users_split]
  cases conditions with
  | nil => decide +kernel
  | cons c conditions =>
    obtain ⟨joint, -, split, -⟩ := joined_cons c conditions
    cases c with
    | search column term => cases unsearched
    | role name =>
      have own : (role name).Written := written _ (by simp)
      rw [split, ← List.append_assoc, column?, body, role_at_front own.1 (by simp [fronts])]
      simp [UserCondition.clause]

theorem users_clauses {conditions : List UserCondition} (written : ∀ c ∈ conditions, c.Written) :
    Clause.ofUsers (selectUsersText conditions) =
      ((deciding? conditions).map UserCondition.clause).toList := by
  have fixed : opening ∈ fronts := by simp [fronts]
  have unasked := nothing_asked written fixed
  rw [Pattern.occursIn, Option.isSome_eq_false_iff, Option.isNone_iff_eq_none] at unasked
  have found := like_found written fixed
  rw [Clause.ofUsers, Clause.id?, Clause.like?, Clause.captured?, Clause.captured?,
    select_users_split, unasked, found, deciding?]
  cases first : conditions.find? isSearch with
  | none =>
    rw [role_clause_read written first]
    rfl
  | some c =>
    have searched := List.find?_some first
    cases c with
    | search column term => simp [token, UserCondition.clause]
    | role name => cases searched

theorem part_occurs_iff (part text : List Char) :
    Predicate.occursIn part text = true ↔ part <:+: text := by
  induction text with
  | nil => simp [Predicate.occursIn]
  | cons c text ih =>
    rw [Predicate.occursIn, Bool.or_eq_true, List.isPrefixOf_iff_prefix, ih, List.infix_cons_iff]

theorem user_clause_admits (c : UserCondition) (u : User) :
    Clause.admits u.record c.clause = c.met u := by
  cases c with
  | search column term =>
    have searched : Clause.admits u.record (.like term) =
        (Predicate.occursIn term.toList u.username.toList ||
          (Predicate.occursIn term.toList u.email.toList || false)) := rfl
    rw [UserCondition.clause, searched, Bool.or_false, met, Bool.eq_iff_iff, Bool.or_eq_true,
      part_occurs_iff, part_occurs_iff, decide_eq_true_iff]
  | role name => rfl

/-- A SELECT of users under searches and roles, if no trigger overrides it, returns in stored order
    just the users that meet the deciding condition. -/
theorem user_conditions_select {conditions : List UserCondition}
    (written : ∀ c ∈ conditions, c.Written)
    (harmless : detectInjection (selectUsersText conditions) = none) (now : Timestamp) (s : Store) :
    (execute now (selectUsersText conditions) s).outcome =
      .rows ((s.users.rows.filter fun u => (deciding? conditions).all (·.met u)).map .user) := by
  have admitted (u : User) : (Clause.ofUsers (selectUsersText conditions)).all
      (Clause.admits u.record) = (deciding? conditions).all (·.met u) := by
    rw [users_clauses written]
    cases deciding? conditions with
    | none => rfl
    | some c => simp [user_clause_admits]
  simp only [execute, select_users_classified, selectUsers, harmless, selected_by_clauses, admitted]

/-- A term that imitates a role and the start of a search, between two roles. -/
theorem imitating_term_found :
    let term := "x' AND role = 'admin' AND email like '"
    let conditions := [UserCondition.role "like", .search .email term, .role "user"]
    let s := (Store.seeded default).appendUser default ⟨"max' AND role = 'admin' AND email like ''",
      "max@example.com", "secret", "guest"⟩
    (∀ c ∈ conditions, c.Written) ∧ detectInjection (selectUsersText conditions) = none ∧
      (execute default (selectUsersText conditions) s).outcome =
        .rows [.user ⟨5, "max' AND role = 'admin' AND email like ''", "max@example.com", "secret",
          "guest", default⟩] := by
  intro term conditions s
  have written : ∀ c ∈ conditions, c.Written := by
    intro c member
    simp only [conditions, List.mem_cons, List.not_mem_nil, or_false] at member
    rcases member with rfl | rfl | rfl
    · exact ⟨by decide +kernel, by decide +kernel⟩
    · exact ⟨by decide +kernel, by decide +kernel, by decide +kernel⟩
    · exact ⟨by decide +kernel, by decide +kernel⟩
  have harmless : detectInjection (selectUsersText conditions) = none := by decide +kernel
  refine ⟨written, harmless, ?_⟩
  rw [user_conditions_select written harmless]
  decide +kernel

end InjectionLab
