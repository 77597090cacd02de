import InjectionLab.Proofs.Text.Lowercase

/-!
Mentions of relations. A keyword, white space and a relation's name in any case make a mention; the
search for a relation in the lower-case form of a statement finds the mentions in its text, and a
mention never reaches over a character that is neither a letter nor white space.
-/
namespace InjectionLab
open Text

/-- Lower-case letters, without the one that the Kelvin sign leads to. -/
def isKeyword (word : List Char) : Bool :=
  !word.isEmpty && word.all fun c => c.isLower && c != 'k'

def Relation.Mention (keyword : String) (r : Relation) (text : List Char) : Prop :=
  ∃ word gap name, text = word ++ gap ++ name ∧ Alike word keyword.toList ∧
    gap ≠ [] ∧ Blanks gap ∧ Alike name r.name.toList

def Relation.MentionedIn (keyword : String) (text : List Char) (r : Relation) : Prop :=
  ∃ mention, r.Mention keyword mention ∧ mention <:+: text

theorem mentioned_infix {keyword : String} {r : Relation} {inner outer : List Char}
    (mentioned : r.MentionedIn keyword inner) (inside : inner <:+: outer) :
    r.MentionedIn keyword outer := by
  obtain ⟨mention, spelt, found⟩ := mentioned
  exact ⟨mention, spelt, found.trans inside⟩

/-! Keywords -/

theorem lower_case_kept {c : Char} (lower : c.isLower = true) : c.toLower = c := by
  apply Char.toLower_eq_of_not_isUpper
  intro upper
  have low := lower_letter_code lower
  simp only [Char.isUpper, UInt32.le_iff_toNat_le, decide_eq_true_eq,
    Char.reduceVal, UInt32.reduceToNat, Char.toNat_val] at upper
  omega

section Keyword
variable {word spelt : List Char} (valid : isKeyword word = true)
include valid

theorem keyword_letters : word ≠ [] ∧ ∀ c ∈ word, c.isLower = true ∧ c ≠ 'k' := by
  simpa [isKeyword] using valid

theorem keyword_low : word.map Char.toLower = word := by
  conv_rhs => rw [← List.map_id word]
  exact List.map_congr_left fun c member => lower_case_kept ((keyword_letters valid).2 c member).1

theorem keyword_plain : ∀ c ∈ word, plain c = true := by
  intro c member
  obtain ⟨lower, other⟩ := (keyword_letters valid).2 c member
  simp [plain, lower, other]

theorem alike_iff : Alike spelt word ↔ spelt.map Char.toLower = word := by
  have maps : Alike spelt word ↔
      List.Forall₂ (· = ·) (spelt.map Char.toLower) (word.map Char.toLower) := by
    rw [List.forall₂_map_left_iff, List.forall₂_map_right_iff]
  rw [maps, keyword_low valid, List.forall₂_eq_eq_eq]

theorem alike_letters (alike : Alike spelt word) : spelt ≠ [] ∧ ∀ c ∈ spelt, c.isAlpha = true := by
  obtain rfl := (alike_iff valid).mp alike
  obtain ⟨nonempty, lower⟩ := keyword_letters valid
  refine ⟨by simpa using nonempty, fun c member => ?_⟩
  rw [← Char.isAlpha_toLower_eq_isAlpha, Char.isAlpha]
  simp [(lower _ (List.mem_map_of_mem member)).1]

end Keyword

theorem relation_name_keyword (r : Relation) : isKeyword r.name.toList = true := by
  cases r <;> decide

theorem relation_name_ends (r : Relation) : r.name.toList.getLast? = some 's' := by
  cases r <;> rfl

/-! Lower case -/

theorem lower_blank {c : Char} : isBlank c.toLower = isBlank c :=
  blank_ignores_case _ _ (Char.toLower_toLower_eq_toLower c)

theorem blank_keeps {c : Char} (blank : isBlank c = true) : c.toLower = c := by
  apply Char.toLower_eq_of_not_isUpper
  intro upper
  have solid := letter_not_blank (c := c) (by simp [Char.isAlpha, upper])
  exact Bool.noConfusion (solid.symm.trans blank)

section Mentions
variable {keyword : String} (valid : isKeyword keyword.toList = true) {r : Relation}
include valid

theorem mention_lowered {text : List Char} : r.Mention keyword text ↔ ∃ gap, gap ≠ [] ∧ Blanks gap ∧
    text.map Char.toLower = keyword.toList ++ gap ++ r.name.toList := by
  constructor
  · intro mention
    obtain ⟨word, gap, name, rfl, word_alike, nonempty, blank, name_alike⟩ := mention
    have space : gap.map Char.toLower = gap := by
      conv_rhs => rw [← List.map_id gap]
      exact List.map_congr_left fun c member => blank_keeps (blank c member)
    refine ⟨gap, nonempty, blank, ?_⟩
    rw [List.map_append, List.map_append, (alike_iff valid).mp word_alike, space,
      (alike_iff (relation_name_keyword r)).mp name_alike]
  · intro lowered
    obtain ⟨gap, nonempty, blank, lowered⟩ := lowered
    obtain ⟨front, name, rfl, front_lowered, name_lowered⟩ := List.map_eq_append_iff.mp lowered
    obtain ⟨word, space, rfl, word_lowered, rfl⟩ := List.map_eq_append_iff.mp front_lowered
    refine ⟨word, space, name, rfl, (alike_iff valid).mpr word_lowered, by simpa using nonempty, ?_,
      (alike_iff (relation_name_keyword r)).mpr name_lowered⟩
    intro c member
    rw [← lower_blank]
    exact blank _ (List.mem_map_of_mem member)

theorem mentioned_iff_named {text : List Char} :
    r.MentionedIn keyword text ↔ r.NamedIn keyword (lowercase text) := by
  have whole : ∀ gap, Blanks gap → PlainWord (keyword.toList ++ gap ++ r.name.toList) := by
    intro gap blank
    refine ⟨fun c member => ?_, by simp [List.getLast?_append, relation_name_ends]⟩
    rcases List.mem_append.mp member with member | member
    · rcases List.mem_append.mp member with member | member
      · exact keyword_plain valid c member
      · simp [plain, blank c member]
    · exact keyword_plain (relation_name_keyword r) c member
  simp only [Relation.MentionedIn, mention_lowered valid]
  constructor
  · intro mentioned
    obtain ⟨mention, ⟨gap, nonempty, blank, lowered⟩, found⟩ := mentioned
    exact ⟨gap, nonempty, blank, (plain_word_infix_iff (whole gap blank) (by simp [nonempty])).mpr
      ⟨mention, found, lowered⟩⟩
  · intro named
    obtain ⟨gap, nonempty, blank, inside⟩ := named
    obtain ⟨mention, found, lowered⟩ :=
      (plain_word_infix_iff (whole gap blank) (by simp [nonempty])).mp inside
    exact ⟨mention, ⟨gap, nonempty, blank, lowered⟩, found⟩

theorem mentioned_iff_occurs {text : List Char} :
    r.MentionedIn keyword text ↔ (r.pattern keyword).occursIn (lowercase text) = true := by
  rw [mentioned_iff_named valid, named_iff_occurs]

/-! Where a mention can stand -/

theorem mention_characters {text : List Char} (mention : r.Mention keyword text) :
    ∀ c ∈ text, c.isAlpha = true ∨ isBlank c = true := by
  obtain ⟨word, gap, name, rfl, word_alike, -, blank, name_alike⟩ := mention
  intro c member
  rcases List.mem_append.mp member with member | member
  · rcases List.mem_append.mp member with member | member
    · exact Or.inl ((alike_letters valid word_alike).2 c member)
    · exact Or.inr (blank c member)
  · exact Or.inl ((alike_letters (relation_name_keyword r) name_alike).2 c member)

theorem mention_starts {text : List Char} (mention : r.Mention keyword text) :
    ∃ c rest, text = c :: rest ∧ c.isAlpha = true := by
  obtain ⟨word, gap, name, rfl, word_alike, -⟩ := mention
  obtain ⟨nonempty, letters⟩ := alike_letters valid word_alike
  cases word with
  | nil => contradiction
  | cons c word => exact ⟨c, word ++ gap ++ name, by simp, letters c (by simp)⟩

theorem mentioned_behind {front text : List Char} (letterless : ∀ c ∈ front, c.isAlpha = false)
    (mentioned : r.MentionedIn keyword (front ++ text)) : r.MentionedIn keyword text := by
  induction front with
  | nil => exact mentioned
  | cons c front ih =>
    refine ih (fun d member => letterless d (by simp [member])) ?_
    obtain ⟨mention, valid', found⟩ := mentioned
    obtain ⟨d, rest, rfl, letter⟩ := mention_starts valid valid'
    refine ⟨_, valid', (List.infix_cons_iff.mp found).resolve_left fun starts => ?_⟩
    obtain ⟨rfl, _⟩ := List.cons_prefix_cons.mp starts
    simp [letterless d] at letter

theorem mentioned_needs_letter {text : List Char} (letterless : ∀ c ∈ text, c.isAlpha = false) :
    ¬ r.MentionedIn keyword text := by
  intro mentioned
  obtain ⟨mention, valid', found⟩ := mentioned
  obtain ⟨c, rest, rfl, letter⟩ := mention_starts valid valid'
  have member : c ∈ text := found.subset (by simp)
  simp [letterless c member] at letter

end Mentions

/-- A word that lacks the mark between two texts stands in one of them. -/
theorem infix_apart {α : Type} {word front back : List α} {mark : α} (absent : mark ∉ word) :
    word <:+: front ++ mark :: back ↔ word <:+: front ∨ word <:+: back := by
  rw [List.infix_append_iff]
  constructor
  · intro found
    rcases found with here | later | ⟨left, right, rfl, ends, starts⟩
    · exact Or.inl here
    · rcases List.infix_cons_iff.mp later with starts | here
      · cases word with
        | nil => exact Or.inl List.nil_infix
        | cons c word =>
          obtain ⟨rfl, _⟩ := List.cons_prefix_cons.mp starts
          simp at absent
      · exact Or.inr here
    · cases right with
      | nil => exact Or.inl (by simpa using ends.isInfix)
      | cons c right =>
        obtain ⟨rfl, _⟩ := List.cons_prefix_cons.mp starts
        simp at absent
  · intro found
    rcases found with here | later
    · exact Or.inl here
    · exact Or.inr (Or.inl (later.trans (List.suffix_cons mark back).isInfix))

theorem mentioned_apart {keyword : String} (valid : isKeyword keyword.toList = true) {r : Relation}
    {mark : Char} (unlettered : mark.isAlpha = false) (solid : isBlank mark = false)
    (front back : List Char) : r.MentionedIn keyword (front ++ mark :: back) ↔
      r.MentionedIn keyword front ∨ r.MentionedIn keyword back := by
  simp only [Relation.MentionedIn, ← exists_or, ← and_or_left]
  refine exists_congr fun mention => and_congr_right fun valid' => infix_apart ?_
  intro member
  rcases mention_characters valid valid' mark member with letter | blank
  · simp [letter] at unlettered
  · simp [blank] at solid

/-! Classification by mentions -/

theorem lowered_keyword {sql : String} {word rest : List Char} (starts : sql.toList = word ++ rest)
    (valid : isKeyword (word.map Char.toLower) = true) :
    lowered sql = lowercase sql.toList ∧ word.map Char.toLower <+: lowered sql := by
  have spelt : lowercase sql.toList =
      word.map Char.toLower ++ lowercaseAfter (word.reverse ++ []) rest := by
    rw [starts, lowercase]
    exact spelt_lowercase (fun c member => keyword_plain valid _ (List.mem_map_of_mem member)) rest
  have kept : lowered sql = lowercase sql.toList := by
    rw [lowered, trimStart, spelt]
    obtain ⟨nonempty, letters⟩ := keyword_letters valid
    generalize word.map Char.toLower = low at nonempty letters
    cases low with
    | nil => contradiction
    | cons c low =>
      have lower := (letters c (by simp)).1
      have solid := letter_not_blank (c := c) (by simp [Char.isAlpha, lower])
      simp [solid]
  rw [kept, spelt]
  exact ⟨rfl, List.prefix_append _ _⟩

theorem kind_of_name {kind : Kind} {keyword : String} (follows : kind.keyword? = some keyword)
    {text : List Char} (starts : kind.name.toList <+: text) : kindOf text = kind := by
  have named := fun word => Pattern.word_read_iff word text
  cases kind with
  | select =>
    rw [kindOf, if_pos ((named "select").mpr starts)]
  | insert =>
    obtain ⟨rest, rfl⟩ := starts
    rw [kindOf, if_neg, if_pos ((named "insert").mpr (List.prefix_append _ _))]
    rw [named]
    simp [Kind.name]
  | unknown => cases follows

theorem named_mentioned {keyword : String} (valid : isKeyword keyword.toList = true)
    {text : List Char} {target : Relation} (mentioned : target.MentionedIn keyword text)
    (first : ∀ other, Relation.all.idxOf other < Relation.all.idxOf target →
      ¬ other.MentionedIn keyword text) :
    namedRelation? keyword (lowercase text) = some target := by
  simp only [mentioned_iff_occurs valid, Bool.not_eq_true] at mentioned first
  cases target with
  | users => simp [namedRelation?, Relation.all, mentioned]
  | products => simp [namedRelation?, Relation.all, mentioned, first .users (by decide)]
  | orders =>
    simp [namedRelation?, Relation.all, mentioned, first .users (by decide),
      first .products (by decide)]

/-- A statement that starts with its keyword goes to the first relation that it mentions. -/
theorem classify_mentioned {sql : String} {kind : Kind} {keyword : String}
    (follows : kind.keyword? = some keyword) {rest : List Char}
    (starts : sql.toList = kind.name.toList.map Char.toUpper ++ rest) {target : Relation}
    (mentioned : target.MentionedIn keyword sql.toList)
    (first : ∀ other, Relation.all.idxOf other < Relation.all.idxOf target →
      ¬ other.MentionedIn keyword sql.toList) : classify sql = ⟨kind, some target⟩ := by
  have valid : isKeyword keyword.toList = true := by
    cases kind <;> cases follows <;> decide
  have name : (kind.name.toList.map Char.toUpper).map Char.toLower = kind.name.toList ∧
      isKeyword kind.name.toList = true := by
    cases kind <;> cases follows <;> decide
  obtain ⟨kept, front⟩ := lowered_keyword starts (by rw [name.1]; exact name.2)
  rw [name.1, kept] at front
  simp only [classify, kind_of_name follows front, follows, Option.bind_some, kept,
    named_mentioned valid mentioned first]

theorem named_trimmed {keyword : String} (valid : isKeyword keyword.toList = true)
    {text : List Char} {r : Relation} (named : r.NamedIn keyword text) :
    r.NamedIn keyword (trimStart text) := by
  obtain ⟨gap, nonempty, blank, inside⟩ := named
  refine ⟨gap, nonempty, blank, ?_⟩
  obtain ⟨started, letters⟩ := keyword_letters valid
  cases word : keyword.toList with
  | nil => contradiction
  | cons c word =>
    have lower := (letters c (by simp [word])).1
    have solid := letter_not_blank (c := c) (by simp [Char.isAlpha, lower])
    rw [word] at inside
    induction text with
    | nil => simp at inside
    | cons d text ih =>
      rw [trimStart, List.dropWhile_cons]
      split
      · rename_i blank'
        refine ih ((List.infix_cons_iff.mp inside).resolve_left fun starts => ?_)
        obtain ⟨rfl, _⟩ := List.cons_prefix_cons.mp starts
        exact Bool.noConfusion (solid.symm.trans blank')
      · exact inside

theorem earlier_unmentioned {sql : String} {kind : Kind} {keyword : String}
    (follows : kind.keyword? = some keyword) {target : Relation}
    (classified : classify sql = ⟨kind, some target⟩) {other : Relation}
    (earlier : Relation.all.idxOf other < Relation.all.idxOf target) :
    ¬ other.MentionedIn keyword sql.toList := by
  have valid : isKeyword keyword.toList = true := by
    cases kind <;> cases follows <;> decide
  have named : namedRelation? keyword (lowered sql) = some target := by
    obtain ⟨rfl, relation⟩ := Classified.mk.inj classified
    rwa [follows, Option.bind_some] at relation
  intro mentioned
  have occurs := (named_iff_occurs keyword other (lowered sql)).mpr
    (named_trimmed valid ((mentioned_iff_named valid).mp mentioned))
  simp only [namedRelation?, Relation.all] at named
  cases other <;> cases target <;> simp_all [Relation.all]

end InjectionLab
