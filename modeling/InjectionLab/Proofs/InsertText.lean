import InjectionLab.Proofs.LiteralList
import InjectionLab.Proofs.Text.Mention

/-!
INSERT statements as a client writes them: the relation, its columns and one literal for each. The
literals are read back as they were written, whatever texts they hold. Only the relation that the
statement goes to can be changed by a literal, by a mention of one that is recognised earlier.
-/
namespace InjectionLab
open Text

def Relation.columns : Relation → String
  | .users => "username, email, password, role"
  | .products => "name, description, price, category, stock"
  | .orders => "user_id, product_id, quantity, total_price"

def Literal.spelt : Literal → String → String
  | .text, token => "'" ++ token ++ "'"
  | .integer, token | .amount, token => token

def Relation.insertHead (r : Relation) : String :=
  "INSERT INTO " ++ r.name ++ " (" ++ r.columns ++ ") "

def Relation.insertText (r : Relation) (tokens : List String) : String :=
  r.insertHead ++ "VALUES (" ++
    ", ".intercalate (List.zipWith Literal.spelt r.literals tokens) ++ ")"

example : Relation.users.insertText ["eve", "e@x", "pw", "user"] =
    "INSERT INTO users (username, email, password, role) VALUES ('eve', 'e@x', 'pw', 'user')" := by
  decide +kernel

/-- One token for each column, of the kind that the column takes. -/
def Relation.Takes (r : Relation) (tokens : List String) : Prop :=
  List.Forall₂ Literal.Fits r.literals (tokens.map String.toList)

def Quotable (text : String) : Prop := text ≠ "" ∧ '\'' ∉ text.toList

instance (text : String) : Decidable (Quotable text) :=
  inferInstanceAs (Decidable (text ≠ "" ∧ '\'' ∉ text.toList))

theorem quotable_fits {text : String} (quotable : Quotable text) : Literal.text.Fits text.toList :=
  ⟨by simpa using quotable.1, quotable.2⟩

theorem written_read (k : Int64) : Numeral.integer? (toString k).toList = some k := by
  have denoted : Numeral.DenotesInteger (toString k).toList k.toInt :=
    Numeral.written_integer k.toInt
  rw [Numeral.integer_denoted denoted, Numeral.int64_some_iff]

theorem written_fits (k : Int64) : Literal.integer.Fits (toString k).toList :=
  have denoted : Numeral.DenotesInteger (toString k).toList k.toInt :=
    Numeral.written_integer k.toInt
  Numeral.integer_is_numeral denoted

/-! The list in the statement -/

def writtenItems : List (List Char) → List Item
  | [] => []
  | token :: rest => ⟨[], token, []⟩ :: rest.map fun token => ⟨[' '], token, []⟩

def writtenList (tokens : List (List Char)) : LiteralList :=
  ⟨['V', 'A', 'L', 'U', 'E', 'S'], [' '], writtenItems tokens⟩

theorem written_list_tokens (tokens : List (List Char)) : (writtenList tokens).tokens = tokens := by
  cases tokens with
  | nil => rfl
  | cons token rest => simp [writtenList, writtenItems, LiteralList.tokens, Function.comp_def]

theorem written_list_derives {literals : List Literal} {tokens : List (List Char)}
    (fits : List.Forall₂ Literal.Fits literals tokens) : (writtenList tokens).Derives literals := by
  refine ⟨by simp [writtenList, sameLetter], one_blank, ?_⟩
  cases fits with
  | nil => exact .nil
  | cons fit fits =>
    refine .cons ⟨no_blanks, fit, no_blanks⟩ ?_
    rw [List.forall₂_map_right_iff]
    exact fits.imp fun literal token fit => ⟨one_blank, fit, no_blanks⟩

theorem intercalate_spaced (part : List Char) (parts : List (List Char)) :
    [','].intercalate (part :: parts.map (' ' :: ·)) = [',', ' '].intercalate (part :: parts) := by
  induction parts generalizing part with
  | nil => simp
  | cons next parts ih =>
    rw [List.map_cons, List.intercalate_cons_cons, List.intercalate_cons_cons,
      List.intercalate_cons_cons_left, ih]
    simp

theorem written_items_text (literals : List Literal) (tokens : List (List Char)) :
    [','].intercalate (List.zipWith Item.text literals (writtenItems tokens)) =
      [',', ' '].intercalate (List.zipWith Literal.written literals tokens) := by
  cases tokens with
  | nil => simp [writtenItems]
  | cons token tokens =>
    cases literals with
    | nil => simp
    | cons literal literals =>
      have spaced : List.zipWith Item.text literals
          (tokens.map fun token => (⟨[' '], token, []⟩ : Item)) =
          (List.zipWith Literal.written literals tokens).map (' ' :: ·) := by
        simp [List.zipWith_map_right, List.map_zipWith, Item.text]
      rw [writtenItems, List.zipWith_cons_cons, List.zipWith_cons_cons, spaced,
        ← intercalate_spaced]
      simp [Item.text]

theorem insert_text_list (r : Relation) (tokens : List String) :
    (r.insertText tokens).toList =
      r.insertHead.toList ++ (writtenList (tokens.map String.toList)).text r.literals := by
  have spelt : ∀ (literal : Literal) (token : String),
      (literal.spelt token).toList = literal.written token.toList := by
    intro literal token
    cases literal <;> simp [Literal.spelt, Literal.written]
  have literals : (List.zipWith Literal.spelt r.literals tokens).map String.toList =
      List.zipWith Literal.written r.literals (tokens.map String.toList) := by
    simp [List.map_zipWith, List.zipWith_map_right, spelt]
  simp only [Relation.insertText, String.toList_append, String.toList_intercalate, literals,
    LiteralList.text, writtenList, written_items_text]
  simp

/-- The literals are found as they were written: nothing in front of them is the start of a list. -/
theorem insert_found {r : Relation} {tokens : List String} (fits : r.Takes tokens) :
    r.listPattern.find? (r.insertText tokens).toList = some (tokens.map String.toList) := by
  -- Neither the table names nor the columns have a v, so no list starts before the keyword.
  have head : (r.insertHead.toList.all fun c => sameLetter 'v' c == false) = true := by
    cases r <;> decide +kernel
  have clear : ∀ c ∈ r.insertHead.toList, sameLetter 'v' c = false := by
    simpa only [List.all_eq_true, beq_iff_eq] using head
  have read := list_read_iff.mpr
    ⟨_, [], written_list_derives fits, (List.append_nil _).symm, (written_list_tokens _).symm⟩
  rw [insert_text_list]
  exact (Pattern.find_behind clear _ _).trans (Pattern.find_of_read read)

/-! Quotes -/

theorem quote_count_zero {text : List Char} {fits : Char → Bool} (outside : fits '\'' = false)
    (all : ∀ c ∈ text, fits c = true) : text.count '\'' = 0 := by
  refine List.count_eq_zero.mpr fun member => ?_
  have inside := all '\'' member
  simp [outside] at inside

theorem numeral_quotes {signed fraction : Bool} {token : List Char}
    (fits : NumeralText signed fraction token) : token.count '\'' = 0 := by
  refine List.count_eq_zero.mpr fun member => ?_
  have character := numeral_characters fits '\'' member
  revert character
  decide

theorem item_quotes {literal : Literal} {item : Item} (fit : item.Fits literal) :
    (item.text literal).count '\'' = 2 * [literal].count .text := by
  have unquoted : ∀ blanks, Blanks blanks → blanks.count '\'' = 0 := fun blanks blank =>
    quote_count_zero (by decide : isBlank '\'' = false) blank
  have before := unquoted item.before fit.before
  have after := unquoted item.after fit.after
  have token := fit.token
  cases literal with
  | text => simp [Item.text, Literal.written, before, after, List.count_eq_zero.mpr token.2]
  | integer => simp [Item.text, Literal.written, before, after, numeral_quotes token]
  | amount => simp [Item.text, Literal.written, before, after, numeral_quotes token]

theorem items_quotes {literals : List Literal} {items : List Item}
    (fits : List.Forall₂ Item.Fits literals items) :
    ([','].intercalate (List.zipWith Item.text literals items)).count '\'' =
      2 * literals.count .text := by
  induction fits with
  | nil => simp
  | @cons literal item literals items fit fits ih =>
    have here := item_quotes fit
    have split : ([literal] ++ literals).count .text =
        [literal].count .text + literals.count .text := List.count_append
    rw [List.singleton_append] at split
    cases fits with
    | nil => simp [here]
    | cons nextFit fits =>
      simp only [List.zipWith_cons_cons, List.intercalate_cons_cons] at ih ⊢
      rw [List.count_append, List.count_append, here, ih, split]
      simp
      omega

theorem word_unquoted {letters text : List Char}
    (fits : List.Forall₂ (fun letter c => sameLetter letter c = true) letters text)
    (unquoted : '\'' ∉ letters) : '\'' ∉ text := by
  induction fits with
  | nil => simp
  | @cons letter c letters text same fits ih =>
    simp only [List.mem_cons, not_or] at unquoted ⊢
    refine ⟨?_, ih unquoted.2⟩
    intro quote
    subst quote
    simp [sameLetter, unquoted.1] at same

theorem list_quotes {literals : List Literal} {l : LiteralList} (derived : l.Derives literals) :
    (l.text literals).count '\'' = 2 * literals.count .text := by
  have keyword : l.keyword.count '\'' = 0 :=
    List.count_eq_zero.mpr (word_unquoted derived.keyword (by decide))
  have gap := quote_count_zero (by decide : isBlank '\'' = false) derived.gap
  simp [LiteralList.text, keyword, gap, items_quotes derived.items]

/-- A list with more texts than the relation has cannot be read out of its INSERT, wherever it would
    start: it needs more quotes than there are. -/
theorem richer_list_unread {r other : Relation} {tokens : List String} (fits : r.Takes tokens)
    (richer : r.literals.count .text < other.literals.count .text) :
    other.entry? (r.insertText tokens) = none := by
  apply entry_unread
  by_contra found
  obtain ⟨found_tokens, found⟩ := Option.ne_none_iff_exists'.mp found
  obtain ⟨before, _, split, read, _⟩ := Pattern.find_some_iff.mp found
  obtain ⟨l, after, derived, rfl, _⟩ := list_read_iff.mp read
  have head : r.insertHead.toList.count '\'' = 0 := by cases r <;> decide +kernel
  have whole : (r.insertText tokens).toList.count '\'' = 2 * r.literals.count .text := by
    rw [insert_text_list, List.count_append, head, list_quotes (written_list_derives fits),
      Nat.zero_add]
  have parts : (r.insertText tokens).toList.count '\'' =
      before.count '\'' + (2 * other.literals.count .text + after.count '\'') := by
    rw [split, List.count_append, List.count_append, list_quotes derived]
  omega

/-! Mentions -/

theorem blanks_letterless {text : List Char} (blank : Blanks text) :
    ∀ c ∈ text, c.isAlpha = false := by
  intro c member
  by_contra letter
  have solid := letter_not_blank (c := c) (by simpa using letter)
  exact Bool.noConfusion (solid.symm.trans (blank c member))

theorem numeral_letterless {signed fraction : Bool} {token : List Char}
    (fits : NumeralText signed fraction token) : ∀ c ∈ token, c.isAlpha = false := by
  intro c member
  by_contra letter
  have letter : c.isAlpha = true := by simpa using letter
  rcases numeral_characters fits c member with digit | rfl | rfl
  · exact Bool.noConfusion ((letter_not_decimal letter).symm.trans digit)
  · simp at letter
  · simp at letter

section Mentions
variable {keyword : String} (valid : isKeyword keyword.toList = true) {r : Relation}
include valid

theorem blanks_mention_nothing {text : List Char} (blank : Blanks text) :
    ¬ r.MentionedIn keyword text :=
  mentioned_needs_letter valid (blanks_letterless blank)

theorem numeral_mentions_nothing {signed fraction : Bool} {item : Item} (before : Blanks item.before)
    (token : NumeralText signed fraction item.token) (after : Blanks item.after) :
    ¬ r.MentionedIn keyword (item.before ++ item.token ++ item.after) := by
  refine mentioned_needs_letter valid fun c member => ?_
  simp only [List.mem_append] at member
  rcases member with (member | member) | member
  · exact blanks_letterless before c member
  · exact numeral_letterless token c member
  · exact blanks_letterless after c member

theorem item_mentions {literal : Literal} {item : Item} (fit : item.Fits literal) :
    r.MentionedIn keyword (item.text literal) ↔
      literal = .text ∧ r.MentionedIn keyword item.token := by
  obtain ⟨before, token, after⟩ := fit
  cases literal with
  | text =>
    have apart := mentioned_apart valid (r := r) (by decide : '\''.isAlpha = false)
      (by decide : isBlank '\'' = false)
    have split : item.text .text = item.before ++ '\'' :: (item.token ++ '\'' :: item.after) := by
      simp [Item.text, Literal.written]
    rw [split, apart, apart]
    simp [blanks_mention_nothing valid before, blanks_mention_nothing valid after]
  | integer =>
    simpa [Item.text, Literal.written] using numeral_mentions_nothing valid before token after
  | amount =>
    simpa [Item.text, Literal.written] using numeral_mentions_nothing valid before token after

theorem items_mentions {literals : List Literal} {items : List Item}
    (fits : List.Forall₂ Item.Fits literals items) :
    r.MentionedIn keyword ([','].intercalate (List.zipWith Item.text literals items)) ↔
      ∃ pair ∈ literals.zip (items.map Item.token),
        pair.1 = .text ∧ r.MentionedIn keyword pair.2 := by
  induction fits with
  | nil => simpa using blanks_mention_nothing valid no_blanks
  | @cons literal item literals items fit fits ih =>
    have here : r.MentionedIn keyword (item.text literal) ↔ _ := item_mentions valid fit
    cases fits with
    | nil => simp [here]
    | cons nextFit fits =>
      have apart := mentioned_apart valid (r := r) (by decide : ','.isAlpha = false)
        (by decide : isBlank ',' = false)
      simp only [List.zipWith_cons_cons, List.intercalate_cons_cons, List.append_assoc,
        List.singleton_append] at ih ⊢
      rw [apart, here, ih]
      simp

theorem list_mentions {literals : List Literal} {l : LiteralList} (derived : l.Derives literals)
    (front : List Char) : r.MentionedIn keyword (front ++ l.text literals) ↔
      r.MentionedIn keyword (front ++ l.keyword ++ l.gap) ∨
        ∃ pair ∈ literals.zip l.tokens, pair.1 = .text ∧ r.MentionedIn keyword pair.2 := by
  have bracket := mentioned_apart valid (r := r) (by decide : '('.isAlpha = false)
    (by decide : isBlank '(' = false)
  have last := mentioned_apart valid (r := r) (by decide : ')'.isAlpha = false)
    (by decide : isBlank ')' = false)
  have split : front ++ l.text literals = (front ++ l.keyword ++ l.gap) ++
      '(' :: ([','].intercalate (List.zipWith Item.text literals l.items) ++ ')' :: []) := by
    simp [LiteralList.text]
  rw [split, bracket, last, items_mentions valid derived.items, LiteralList.tokens,
    or_iff_left (blanks_mention_nothing valid no_blanks)]

end Mentions

theorem into_keyword : isKeyword "into".toList = true := by decide

theorem insert_mentions {r target : Relation} {tokens : List String} (fits : r.Takes tokens) :
    target.MentionedIn "into" (r.insertText tokens).toList ↔
      target = r ∨ ∃ pair ∈ r.literals.zip (tokens.map String.toList),
        pair.1 = .text ∧ target.MentionedIn "into" pair.2 := by
  have head : target.MentionedIn "into" (r.insertHead.toList ++ ['V', 'A', 'L', 'U', 'E', 'S'] ++
      [' ']) ↔ target = r := by
    rw [mentioned_iff_occurs into_keyword]
    cases r <;> cases target <;> decide +kernel
  have whole := list_mentions into_keyword (r := target) (written_list_derives fits)
    r.insertHead.toList
  rw [written_list_tokens] at whole
  rw [insert_text_list]
  exact whole.trans (or_congr_left head)

/-! Target -/

theorem insert_classified {r target : Relation} {tokens : List String}
    (mentioned : target.MentionedIn "into" (r.insertText tokens).toList)
    (first : ∀ other, Relation.all.idxOf other < Relation.all.idxOf target →
      ¬ other.MentionedIn "into" (r.insertText tokens).toList) :
    classify (r.insertText tokens) = ⟨.insert, some target⟩ := by
  have starts : (r.insertText tokens).toList = Kind.insert.name.toList.map Char.toUpper ++
      (" INTO " ++ r.name ++ " (" ++ r.columns ++ ") VALUES (" ++
        ", ".intercalate (List.zipWith Literal.spelt r.literals tokens) ++ ")").toList := by
    simp [Relation.insertText, Relation.insertHead, Kind.name]
  exact classify_mentioned rfl starts mentioned first

end InjectionLab
