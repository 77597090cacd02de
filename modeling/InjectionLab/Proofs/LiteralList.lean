import InjectionLab.Proofs.Effect
import InjectionLab.Proofs.NumeralValue

/-!
Literal lists. The grammar of a list is stated on its own: the keyword in any case, then in brackets
the literals of the relation's columns, with white space around each and commas between them. An
INSERT reads exactly the leftmost list of this grammar, which can be split in one way only.
-/
namespace InjectionLab
open Text

inductive Literal where
  | text
  | integer
  | amount
deriving DecidableEq, Repr

def Relation.literals : Relation → List Literal
  | .users => [.text, .text, .text, .text]
  | .products => [.text, .text, .amount, .text, .integer]
  | .orders => [.integer, .integer, .integer, .amount]

namespace Literal

def Fits : Literal → List Char → Prop
  | .text, token => token ≠ [] ∧ '\'' ∉ token
  | .integer, token => NumeralText true false token
  | .amount, token => NumeralText true true token

def written : Literal → List Char → List Char
  | .text, token => '\'' :: (token ++ ['\''])
  | .integer, token | .amount, token => token

/-- Digits that are not ASCII have no value, and 64 bits do not hold every integer. -/
def Valueless : Literal → List Char → Prop
  | .text, _ => False
  | .integer, token => Numeral.Foreign token ∨
      ∃ n, Numeral.DenotesInteger token n ∧ (n < Int64.minValue.toInt ∨ Int64.maxValue.toInt < n)
  | .amount, token => Numeral.Foreign token

end Literal

structure Item where
  before : List Char
  token : List Char
  after : List Char
deriving DecidableEq, Repr

structure Item.Fits (literal : Literal) (item : Item) : Prop where
  before : Blanks item.before
  token : literal.Fits item.token
  after : Blanks item.after

def Item.text (literal : Literal) (item : Item) : List Char :=
  item.before ++ literal.written item.token ++ item.after

structure LiteralList where
  keyword : List Char
  gap : List Char
  items : List Item
deriving DecidableEq, Repr

namespace LiteralList

structure Derives (literals : List Literal) (l : LiteralList) : Prop where
  keyword : List.Forall₂ (fun letter c => sameLetter letter c = true) "values".toList l.keyword
  gap : Blanks l.gap
  items : List.Forall₂ Item.Fits literals l.items

def text (literals : List Literal) (l : LiteralList) : List Char :=
  l.keyword ++ l.gap ++ '(' :: [','].intercalate (List.zipWith Item.text literals l.items) ++ [')']

def tokens (l : LiteralList) : List (List Char) := l.items.map Item.token

end LiteralList

def Relation.ListAt (r : Relation) (sql : String) (before : List Char) (l : LiteralList) : Prop :=
  l.Derives r.literals ∧ ∃ after, sql.toList = before ++ l.text r.literals ++ after

/-- The values of an entry are those of the tokens: texts as they are, integers exactly and amounts
    as the nearest double. -/
inductive Entry.Holds : Entry → List (List Char) → Prop where
  | user {username email password role : List Char} :
      Holds (.user ⟨.ofList username, .ofList email, .ofList password, .ofList role⟩)
        [username, email, password, role]
  | product {name description price category stock : List Char} {amount : Amount} {k : Int64}
      {negative : Bool} {size : ℚ} (priced : Numeral.Denotes price negative size)
      (nearest : amount.Nearest negative size) (stocked : Numeral.DenotesInteger stock k.toInt) :
      Holds (.product ⟨.ofList name, .ofList description, amount, .ofList category, k⟩)
        [name, description, price, category, stock]
  | order {userId productId quantity total : List Char} {a b q : Int64} {amount : Amount}
      {negative : Bool} {size : ℚ} (user : Numeral.DenotesInteger userId a.toInt)
      (product : Numeral.DenotesInteger productId b.toInt)
      (count : Numeral.DenotesInteger quantity q.toInt)
      (priced : Numeral.Denotes total negative size) (nearest : amount.Nearest negative size) :
      Holds (.order ⟨a, b, q, amount⟩) [userId, productId, quantity, total]

/-! The grammar and the pattern -/

def Literal.pattern : Literal → Pattern
  | .text => Pattern.quoted
  | .integer => Pattern.integer
  | .amount => Pattern.amount

def Relation.listPattern (r : Relation) : Pattern :=
  Pattern.valueList (r.literals.map Literal.pattern)

def Item.parts : Literal → Item → List (List Char)
  | .text, item => [item.before, ['\''], item.token, ['\''], item.after]
  | .integer, item | .amount, item => [item.before, item.token, item.after]

def LiteralList.parts (literals : List Literal) (l : LiteralList) : List (List Char) :=
  l.keyword.map ([·]) ++ l.gap :: ['('] ::
    [[',']].intercalate (List.zipWith Item.parts literals l.items) ++ [[')']]

theorem fits_append {pattern later : Pattern} {parts : List (List Char)} :
    List.Forall₂ Piece.Fits (pattern ++ later) parts ↔ ∃ front back, parts = front ++ back ∧
      List.Forall₂ Piece.Fits pattern front ∧ List.Forall₂ Piece.Fits later back := by
  induction pattern generalizing parts with
  | nil => simp
  | cons piece pattern ih =>
    simp only [List.cons_append, List.forall₂_cons_left_iff, ih]
    constructor
    · intro split
      obtain ⟨part, _, fit, ⟨front, back, rfl, fits, fits'⟩, rfl⟩ := split
      exact ⟨part :: front, back, rfl, ⟨part, front, fit, fits, rfl⟩, fits'⟩
    · intro split
      obtain ⟨_, back, rfl, ⟨part, front, fit, fits, rfl⟩, fits'⟩ := split
      exact ⟨part, front ++ back, fit, ⟨front, back, rfl, fits, fits'⟩, rfl⟩

theorem word_fits {letters : List Char} {parts : List (List Char)} :
    List.Forall₂ Piece.Fits (letters.map .letter) parts ↔
      ∃ text, List.Forall₂ (fun letter c => sameLetter letter c = true) letters text ∧
        parts = text.map ([·]) := by
  induction letters generalizing parts with
  | nil => simp
  | cons letter letters ih =>
    simp only [List.map_cons, List.forall₂_cons_left_iff, ih, Piece.Fits]
    constructor
    · intro split
      obtain ⟨_, _, ⟨d, rfl, same⟩, ⟨text, fits, rfl⟩, rfl⟩ := split
      exact ⟨d :: text, ⟨d, text, same, fits, rfl⟩, rfl⟩
    · intro split
      obtain ⟨_, ⟨d, text, same, fits, rfl⟩, rfl⟩ := split
      exact ⟨[d], _, ⟨d, rfl, same⟩, ⟨text, fits, rfl⟩, rfl⟩

theorem token_fits {literal : Literal} {token : List Char} :
    literal.Fits token ↔ match literal with
      | .text => (Piece.upTo '\'').Fits token
      | .integer => (Piece.numeral true false).Fits token
      | .amount => (Piece.numeral true true).Fits token := by
  cases literal with
  | text =>
    simp only [Literal.Fits, Piece.Fits, bne_iff_ne]
    refine and_congr_right fun _ => ⟨fun absent c member same => absent (same ▸ member), ?_⟩
    exact fun apart member => apart '\'' member rfl
  | integer => rfl
  | amount => rfl

theorem item_fits {literal : Literal} {parts : List (List Char)} :
    List.Forall₂ Piece.Fits (.gap :: literal.pattern ++ [.gap]) parts ↔
      ∃ item : Item, item.Fits literal ∧ parts = item.parts literal := by
  have fields : ∀ item : Item, item.Fits literal ↔
      Blanks item.before ∧ literal.Fits item.token ∧ Blanks item.after := fun item =>
    ⟨fun fit => ⟨fit.before, fit.token, fit.after⟩, fun fit => ⟨fit.1, fit.2.1, fit.2.2⟩⟩
  simp only [fields, token_fits]
  cases literal <;>
    simp only [Literal.pattern, Pattern.quoted, Pattern.integer, Pattern.amount, List.cons_append,
      List.nil_append, List.forall₂_cons_left_iff, List.forall₂_nil_left_iff, Item.parts,
      show ∀ text, Piece.gap.Fits text ↔ Blanks text from fun _ => Iff.rfl,
      show ∀ c text, (Piece.mark c).Fits text ↔ text = [c] from fun _ _ => Iff.rfl]
  · constructor
    · intro split
      obtain ⟨before, _, blank, ⟨_, _, rfl, ⟨token, _, fit, ⟨_, _, rfl, ⟨after, _, blank', rfl, rfl⟩,
        rfl⟩, rfl⟩, rfl⟩, rfl⟩ := split
      exact ⟨⟨before, token, after⟩, ⟨blank, fit, blank'⟩, rfl⟩
    · intro split
      obtain ⟨⟨before, token, after⟩, ⟨blank, fit, blank'⟩, rfl⟩ := split
      exact ⟨before, _, blank, ⟨_, _, rfl, ⟨token, _, fit, ⟨_, _, rfl, ⟨after, _, blank', rfl, rfl⟩,
        rfl⟩, rfl⟩, rfl⟩, rfl⟩
  all_goals
    constructor
    · intro split
      obtain ⟨before, _, blank, ⟨token, _, fit, ⟨after, _, blank', rfl, rfl⟩, rfl⟩, rfl⟩ := split
      exact ⟨⟨before, token, after⟩, ⟨blank, fit, blank'⟩, rfl⟩
    · intro split
      obtain ⟨⟨before, token, after⟩, ⟨blank, fit, blank'⟩, rfl⟩ := split
      exact ⟨before, _, blank, ⟨token, _, fit, ⟨after, _, blank', rfl, rfl⟩, rfl⟩, rfl⟩

theorem separated_cons (literal next : Literal) (literals : List Literal) :
    Pattern.separated ((literal :: next :: literals).map Literal.pattern) =
      (.gap :: literal.pattern ++ [.gap]) ++
        (.mark ',' :: Pattern.separated ((next :: literals).map Literal.pattern)) := by
  simp [Pattern.separated]

theorem items_fit {literals : List Literal} {parts : List (List Char)} :
    List.Forall₂ Piece.Fits (Pattern.separated (literals.map Literal.pattern)) parts ↔
      ∃ items, List.Forall₂ Item.Fits literals items ∧
        parts = [[',']].intercalate (List.zipWith Item.parts literals items) := by
  induction literals generalizing parts with
  | nil => simp [Pattern.separated]
  | cons literal literals ih =>
    cases literals with
    | nil =>
      simp only [List.map_cons, List.map_nil, Pattern.separated, item_fits,
        List.forall₂_cons_left_iff, List.forall₂_nil_left_iff]
      constructor
      · intro split
        obtain ⟨item, fit, rfl⟩ := split
        exact ⟨[item], ⟨item, [], fit, rfl, rfl⟩, by simp⟩
      · intro split
        obtain ⟨_, ⟨item, _, fit, rfl, rfl⟩, rfl⟩ := split
        exact ⟨item, fit, by simp⟩
    | cons next literals =>
      rw [separated_cons, fits_append]
      simp only [item_fits, List.forall₂_cons_left_iff (a := Piece.mark ','), ih]
      constructor
      · intro split
        obtain ⟨_, _, rfl, ⟨item, fit, rfl⟩, _, _, rfl, ⟨items, fits, rfl⟩, rfl⟩ := split
        refine ⟨item :: items, .cons fit fits, ?_⟩
        cases fits with
        | cons _ _ => simp
      · intro split
        obtain ⟨_, all, rfl⟩ := split
        cases all with
        | @cons _ item _ items fit fits =>
          refine ⟨item.parts literal, _, ?_, ⟨item, fit, rfl⟩, [','], _, rfl, ⟨items, fits, rfl⟩,
            rfl⟩
          cases fits with
          | cons _ _ => simp

theorem list_fits {literals : List Literal} {parts : List (List Char)} :
    List.Forall₂ Piece.Fits (Pattern.valueList (literals.map Literal.pattern)) parts ↔
      ∃ l : LiteralList, l.Derives literals ∧ parts = l.parts literals := by
  simp only [Pattern.valueList, Pattern.word, List.append_assoc, fits_append, word_fits, items_fit,
    List.cons_append, List.nil_append, List.forall₂_cons_left_iff, List.forall₂_nil_left_iff]
  constructor
  · intro split
    obtain ⟨_, _, rfl, ⟨keyword, word, rfl⟩, gap, _, blank, ⟨_, _, rfl, ⟨_, _, rfl,
      ⟨items, fits, rfl⟩, _, _, rfl, rfl, rfl⟩, rfl⟩, rfl⟩ := split
    exact ⟨⟨keyword, gap, items⟩, ⟨word, blank, fits⟩, by simp [LiteralList.parts]⟩
  · intro split
    obtain ⟨⟨keyword, gap, items⟩, ⟨word, blank, fits⟩, rfl⟩ := split
    refine ⟨keyword.map ([·]), _, ?_, ⟨keyword, word, rfl⟩, gap, _, blank, ⟨['('], _, rfl, ⟨_, _, rfl,
      ⟨items, fits, rfl⟩, [')'], [], rfl, rfl, rfl⟩, rfl⟩, rfl⟩
    simp [LiteralList.parts]

theorem item_parts_text (literal : Literal) (item : Item) :
    (item.parts literal).flatten = item.text literal := by
  cases literal <;> simp [Item.parts, Item.text, Literal.written]

theorem items_parts_text (literals : List Literal) (items : List Item) :
    ([[',']].intercalate (List.zipWith Item.parts literals items)).flatten =
      [','].intercalate (List.zipWith Item.text literals items) := by
  induction literals generalizing items with
  | nil => simp
  | cons literal literals ih =>
    cases items with
    | nil => simp
    | cons item items =>
      have later := ih items
      cases literals with
      | nil => simp [item_parts_text]
      | cons next literals =>
        cases items with
        | nil => simp [item_parts_text]
        | cons nextItem items => simpa [item_parts_text] using later

theorem list_parts_text (literals : List Literal) (l : LiteralList) :
    (l.parts literals).flatten = l.text literals := by
  have letters : (l.keyword.map ([·])).flatten = l.keyword := by
    induction l.keyword with
    | nil => rfl
    | cons c keyword ih => simpa using ih
  simp [LiteralList.parts, LiteralList.text, letters, items_parts_text]

/-! What is captured -/

theorem captures_append {pattern : Pattern} {parts : List (List Char)}
    (lengths : pattern.length = parts.length) (later : Pattern) (more : List (List Char)) :
    Pattern.captures (pattern ++ later) (parts ++ more) =
      pattern.captures parts ++ later.captures more := by
  induction pattern generalizing parts with
  | nil =>
    obtain rfl : parts = [] := List.length_eq_zero_iff.mp lengths.symm
    rfl
  | cons piece pattern ih =>
    cases parts with
    | nil => simp at lengths
    | cons part parts =>
      have tail := ih (by simpa using lengths)
      simp only [List.cons_append, Pattern.captures, tail]
      split <;> rfl

theorem items_captured {literals : List Literal} {items : List Item}
    (fits : List.Forall₂ Item.Fits literals items) :
    Pattern.captures (Pattern.separated (literals.map Literal.pattern))
      ([[',']].intercalate (List.zipWith Item.parts literals items)) = items.map Item.token := by
  have captured : ∀ (literal : Literal) (item : Item),
      Pattern.captures (.gap :: literal.pattern ++ [.gap]) (item.parts literal) = [item.token] := by
    intro literal item
    cases literal <;> rfl
  induction fits with
  | nil => rfl
  | @cons literal item literals items fit fits ih =>
    cases fits with
    | nil => simpa [Pattern.separated] using captured literal item
    | @cons next nextItem literals items nextFit fits =>
      have parts : [[',']].intercalate
          (List.zipWith Item.parts (literal :: next :: literals) (item :: nextItem :: items)) =
          item.parts literal ++ [','] :: [[',']].intercalate
            (List.zipWith Item.parts (next :: literals) (nextItem :: items)) := by
        simp
      rw [separated_cons, parts, captures_append (item_fits.mpr ⟨item, fit, rfl⟩).length_eq, captured]
      exact congrArg (item.token :: ·) ih

theorem word_captured {letters text : List Char} (lengths : letters.length = text.length) :
    Pattern.captures (letters.map .letter) (text.map ([·])) = [] := by
  induction letters generalizing text with
  | nil => rfl
  | cons letter letters ih =>
    cases text with
    | nil => simp at lengths
    | cons c text => exact ih (by simpa using lengths)

theorem list_captured {literals : List Literal} {l : LiteralList} (derived : l.Derives literals) :
    Pattern.captures (Pattern.valueList (literals.map Literal.pattern)) (l.parts literals) =
      l.tokens := by
  have lengths := (items_fit.mpr ⟨l.items, derived.items, rfl⟩).length_eq
  have word := derived.keyword.length_eq
  simp only [Pattern.valueList, Pattern.word, LiteralList.parts, List.append_assoc]
  rw [captures_append (by simpa using word), word_captured word, List.nil_append]
  change Pattern.captures (Pattern.separated (literals.map Literal.pattern) ++ [.mark ')'])
    ([[',']].intercalate (List.zipWith Item.parts literals l.items) ++ [[')']]) = _
  rw [captures_append lengths, items_captured derived.items]
  exact List.append_nil _

/-! Reading a list -/

theorem list_determinate (r : Relation) : r.listPattern.determinate = true := by
  cases r <;> decide

theorem list_pattern_ends (r : Relation) : r.listPattern.getLast? = some (.mark ')') := by
  cases r <;> rfl

theorem list_reads (r : Relation) {l : LiteralList} (derived : l.Derives r.literals)
    (rest : List Char) : r.listPattern.Reads (l.parts r.literals) rest := by
  refine Pattern.reads_of_fits (list_determinate r) (list_fits.mpr ⟨l, derived, rfl⟩) ?_
  intro piece part last _
  rw [list_pattern_ends] at last
  obtain rfl := Option.some.inj last
  trivial

theorem list_read_iff {r : Relation} {text : List Char} {tokens : List (List Char)} :
    r.listPattern.read? text = some tokens ↔ ∃ (l : LiteralList) (rest : List Char),
      l.Derives r.literals ∧ text = l.text r.literals ++ rest ∧ tokens = l.tokens := by
  rw [Pattern.read_iff]
  constructor
  · intro read
    obtain ⟨parts, rest, rfl, reads, rfl⟩ := read
    obtain ⟨l, derived, rfl⟩ := list_fits.mp (Pattern.reads_fit reads)
    exact ⟨l, rest, derived, by rw [list_parts_text], list_captured derived⟩
  · intro split
    obtain ⟨l, rest, derived, rfl, rfl⟩ := split
    exact ⟨l.parts r.literals, rest, by rw [list_parts_text], list_reads r derived rest,
      (list_captured derived).symm⟩

theorem items_parts_injective {literals : List Literal} {items items' : List Item}
    (fits : List.Forall₂ Item.Fits literals items) (fits' : List.Forall₂ Item.Fits literals items')
    (same : [[',']].intercalate (List.zipWith Item.parts literals items) =
      [[',']].intercalate (List.zipWith Item.parts literals items')) : items = items' := by
  have single : ∀ (literal : Literal) (item item' : Item),
      item.parts literal = item'.parts literal → item = item' := by
    intro literal item item' same
    cases item
    cases item'
    cases literal <;> simpa [Item.parts] using same
  induction fits generalizing items' with
  | nil =>
    cases fits'
    rfl
  | @cons literal item literals items fit fits ih =>
    cases fits' with
    | @cons _ item' _ items' fit' fits' =>
      cases fits with
      | nil =>
        cases fits'
        rw [single literal item item' (by simpa using same)]
      | cons nextFit fits =>
        cases fits' with
        | cons nextFit' fits' =>
          simp only [List.zipWith_cons_cons, List.intercalate_cons_cons, List.append_assoc] at same
          have lengths : (item.parts literal).length = (item'.parts literal).length := by
            cases literal <;> rfl
          obtain ⟨here, later⟩ := List.append_inj same lengths
          rw [single literal item item' here, ih (.cons nextFit' fits') (by simpa using later)]

theorem list_unique (r : Relation) {l l' : LiteralList} {rest rest' : List Char}
    (derived : l.Derives r.literals) (derived' : l'.Derives r.literals)
    (same : l.text r.literals ++ rest = l'.text r.literals ++ rest') : l = l' := by
  rw [← list_parts_text, ← list_parts_text] at same
  have parts := (Pattern.reads_unique (list_reads r derived rest) (list_reads r derived' rest')
    same).1
  have word : (l.keyword.map ([·])).length = (l'.keyword.map ([·])).length := by
    simp [← derived.keyword.length_eq, ← derived'.keyword.length_eq]
  simp only [LiteralList.parts, List.append_assoc] at parts
  obtain ⟨keyword, later⟩ := List.append_inj parts word
  simp only [List.cons_append, List.cons.injEq, true_and, List.append_cancel_right_eq] at later
  have items := items_parts_injective derived.items derived'.items later.2
  have letters : l.keyword = l'.keyword := List.map_injective_iff.mpr (fun _ _ => by simp) keyword
  cases l
  cases l'
  simp_all

/-! Values of the tokens -/

theorem integer_value {token : List Char} (fits : Literal.integer.Fits token) :
    (Literal.integer.Valueless token ∧ Numeral.integer? token = none) ∨
      ¬ Literal.integer.Valueless token ∧
        ∃ k, Numeral.integer? token = some k ∧ Numeral.DenotesInteger token k.toInt := by
  rcases Numeral.integer_text fits with ⟨foreign, none⟩ | ⟨plain, n, denoted⟩
  · exact Or.inl ⟨Or.inl foreign, none⟩
  · have read := Numeral.integer_denoted denoted
    cases held : Numeral.int64? n with
    | none => exact Or.inl ⟨Or.inr ⟨n, denoted, Numeral.int64_none_iff.mp held⟩, by rw [read, held]⟩
    | some k =>
      have value := Numeral.int64_some_iff.mp held
      refine Or.inr ⟨?_, k, by rw [read, held], value ▸ denoted⟩
      intro valueless
      rcases valueless with foreign | ⟨m, denoted', outside⟩
      · exact plain foreign
      · have missing := Numeral.int64_none_iff.mpr outside
        rw [← Numeral.integer_denoted denoted', read, held] at missing
        cases missing

theorem amount_value {token : List Char} (fits : Literal.amount.Fits token) :
    (Literal.amount.Valueless token ∧ Numeral.amount? token = none) ∨
      ¬ Literal.amount.Valueless token ∧ ∃ negative size amount,
        Numeral.Denotes token negative size ∧ Numeral.amount? token = some amount ∧
          amount.Nearest negative size := by
  rcases Numeral.amount_text fits with foreign | ⟨plain, negative, size, denoted⟩
  · exact Or.inl foreign
  · obtain ⟨amount, read, nearest⟩ := Numeral.amount_denoted denoted
    exact Or.inr ⟨plain, negative, size, amount, denoted, read, nearest⟩

theorem entry_unread {r : Relation} {sql : String}
    (missing : r.listPattern.find? sql.toList = none) : r.entry? sql = none := by
  cases r with
  | users =>
    have missing : UserValues.pattern.find? sql.toList = none := missing
    simp only [Relation.entry?, userValues, missing, Option.map_none]
  | products =>
    have missing : ProductValues.pattern.find? sql.toList = none := missing
    simp only [Relation.entry?, productValues, missing, Option.map_none]
  | orders =>
    have missing : OrderValues.pattern.find? sql.toList = none := missing
    simp only [Relation.entry?, orderValues, missing, Option.map_none]

def LiteralList.Valueless (literals : List Literal) (l : LiteralList) : Prop :=
  ∃ pair ∈ literals.zip l.tokens, pair.1.Valueless pair.2

theorem entry_read {r : Relation} {sql : String} {l : LiteralList} (derived : l.Derives r.literals)
    (found : r.listPattern.find? sql.toList = some l.tokens) :
    (l.Valueless r.literals ∧ r.entry? sql = none) ∨
      ¬ l.Valueless r.literals ∧ ∃ entry, r.entry? sql = some entry ∧ entry.Holds l.tokens := by
  obtain ⟨keyword, gap, items⟩ := l
  obtain ⟨_, _, fits⟩ := derived
  cases r <;> simp only [Relation.literals, List.forall₂_cons_left_iff,
    List.forall₂_nil_left_iff] at fits
  case users =>
    obtain ⟨username, _, -, ⟨email, _, -, ⟨password, _, -, ⟨role, _, -, rfl, rfl⟩, rfl⟩, rfl⟩,
      rfl⟩ := fits
    have found : UserValues.pattern.find? sql.toList = some _ := found
    refine Or.inr ⟨?_, _, ?_, .user⟩
    · simp [LiteralList.Valueless, LiteralList.tokens, Relation.literals, Literal.Valueless]
    · simp only [Relation.entry?, userValues, found]
      rfl
  case products =>
    obtain ⟨name, _, -, ⟨description, _, -, ⟨price, _, priceFits, ⟨category, _, -, ⟨stock, _,
      stockFits, rfl, rfl⟩, rfl⟩, rfl⟩, rfl⟩, rfl⟩ := fits
    have found : ProductValues.pattern.find? sql.toList =
      some [name.token, description.token, price.token, category.token, stock.token] := found
    have valueless : (LiteralList.Valueless Relation.products.literals
        ⟨keyword, gap, [name, description, price, category, stock]⟩) ↔
        Literal.amount.Valueless price.token ∨ Literal.integer.Valueless stock.token := by
      simp [LiteralList.Valueless, LiteralList.tokens, Relation.literals, Literal.Valueless]
    rw [valueless]
    simp only [Relation.entry?, productValues, found]
    rcases amount_value priceFits.token with
      ⟨bad, none⟩ | ⟨goodPrice, _, _, amount, priced, somePrice, near⟩
    · exact Or.inl ⟨Or.inl bad, by rw [none]; rfl⟩
    · rcases integer_value stockFits.token with ⟨bad, none⟩ | ⟨goodStock, k, someStock, stocked⟩
      · exact Or.inl ⟨Or.inr bad, by rw [somePrice, none]; rfl⟩
      · exact Or.inr ⟨not_or.mpr ⟨goodPrice, goodStock⟩, _, by rw [somePrice, someStock]; rfl,
          .product priced near stocked⟩
  case orders =>
    obtain ⟨user, _, userFits, ⟨product, _, productFits, ⟨quantity, _, quantityFits, ⟨total, _,
      totalFits, rfl, rfl⟩, rfl⟩, rfl⟩, rfl⟩ := fits
    have found : OrderValues.pattern.find? sql.toList =
      some [user.token, product.token, quantity.token, total.token] := found
    have valueless : (LiteralList.Valueless Relation.orders.literals
        ⟨keyword, gap, [user, product, quantity, total]⟩) ↔
        Literal.integer.Valueless user.token ∨ Literal.integer.Valueless product.token ∨
          Literal.integer.Valueless quantity.token ∨ Literal.amount.Valueless total.token := by
      simp [LiteralList.Valueless, LiteralList.tokens, Relation.literals]
    rw [valueless]
    simp only [Relation.entry?, orderValues, found]
    rcases integer_value userFits.token with ⟨bad, none⟩ | ⟨goodUser, a, someUser, userId⟩
    · exact Or.inl ⟨Or.inl bad, by rw [none]; rfl⟩
    · rcases integer_value productFits.token with
        ⟨bad, none⟩ | ⟨goodProduct, b, someProduct, productId⟩
      · exact Or.inl ⟨Or.inr (Or.inl bad), by rw [someUser, none]; rfl⟩
      · rcases integer_value quantityFits.token with
          ⟨bad, none⟩ | ⟨goodCount, q, someCount, count⟩
        · exact Or.inl ⟨Or.inr (Or.inr (Or.inl bad)), by rw [someUser, someProduct, none]; rfl⟩
        · rcases amount_value totalFits.token with
            ⟨bad, none⟩ | ⟨goodTotal, _, _, amount, priced, someTotal, near⟩
          · exact Or.inl ⟨Or.inr (Or.inr (Or.inr bad)),
              by rw [someUser, someProduct, someCount, none]; rfl⟩
          · have good := not_or.mpr ⟨goodUser, not_or.mpr ⟨goodProduct,
              not_or.mpr ⟨goodCount, goodTotal⟩⟩⟩
            exact Or.inr ⟨good, _, by rw [someUser, someProduct, someCount, someTotal]; rfl,
              .order userId productId count priced near⟩

/-- Either no list of the relation stands anywhere in the statement, and none is read. Or one stands
    further left than any other, at its place no other list stands, and its tokens decide: they are
    read as an entry unless one of them has no value. -/
theorem literal_list_exact (r : Relation) (sql : String) :
    (¬ ∃ before l, r.ListAt sql before l) ∧ r.entry? sql = none ∨
    ∃ before l, r.ListAt sql before l ∧
      (∀ before' l', r.ListAt sql before' l' →
        before.length < before'.length ∨ before' = before ∧ l' = l) ∧
      ((l.Valueless r.literals ∧ r.entry? sql = none) ∨
        ¬ l.Valueless r.literals ∧ ∃ entry, r.entry? sql = some entry ∧ entry.Holds l.tokens) := by
  cases found : r.listPattern.find? sql.toList with
  | none =>
    refine Or.inl ⟨?_, entry_unread found⟩
    intro somewhere
    obtain ⟨before, l, derived, after, split⟩ := somewhere
    rw [List.append_assoc] at split
    have unread := Pattern.find_none_iff.mp found before _ split
    rw [list_read_iff.mpr ⟨l, after, derived, rfl, rfl⟩] at unread
    cases unread
  | some tokens =>
    obtain ⟨before, rest, split, read, leftmost⟩ := Pattern.find_some_iff.mp found
    obtain ⟨l, after, derived, rfl, rfl⟩ := list_read_iff.mp read
    refine Or.inr ⟨before, l, ⟨derived, after, by rw [split, List.append_assoc]⟩, ?_,
      entry_read derived found⟩
    intro before' l' other
    obtain ⟨derived', after', split'⟩ := other
    rw [List.append_assoc] at split'
    have readable := list_read_iff.mpr ⟨l', after', derived', rfl, rfl⟩
    have order := leftmost before' _ split' (by simp [readable])
    rcases Nat.lt_or_eq_of_le order with left | level
    · exact Or.inl left
    · obtain ⟨same, texts⟩ := List.append_inj (split.symm.trans split') level
      exact Or.inr ⟨same.symm, (list_unique r derived derived' texts).symm⟩

example : orderValues "VALUES (1, 2, 99999999999999999999, 4) VALUES (1, 2, 3, 4)" = none := by
  decide +kernel

end InjectionLab
