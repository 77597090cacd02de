import InjectionLab.Proofs.Text.Longest
import InjectionLab.Proofs.Text.Operator
import InjectionLab.Statement.Clause

/-!
Clauses as they stand in a text. The grammar of each form is stated on its own: a keyword in any
case, what joins it to the token, and the token between its marks. The search for a form finds a
token just if something in the text derives from the grammar, and then the longest one at the
leftmost place.
-/
namespace InjectionLab
open Text

inductive ClauseForm where
  | id
  | like
  | role
  | category
  | minPrice
  | maxPrice
deriving DecidableEq, Repr

/-- A clause in parts, the marks of the token left out. -/
structure Wording where
  keyword : List Char
  joint : List Char
  token : List Char
deriving DecidableEq, Repr

namespace ClauseForm

def pattern : ClauseForm → Pattern
  | id => Clause.idPattern
  | like => Clause.likePattern
  | role => Clause.rolePattern
  | category => Clause.categoryPattern
  | minPrice => Clause.pricePattern '>'
  | maxPrice => Clause.pricePattern '<'

/-! The grammar -/

def keyword : ClauseForm → String
  | id => "id"
  | like => "like"
  | role => "role"
  | category => "category"
  | minPrice | maxPrice => "price"

def operator : ClauseForm → List Char
  | like => []
  | id | role | category => ['=']
  | minPrice => ['>', '=']
  | maxPrice => ['<', '=']

def opening : ClauseForm → List Char
  | like => ['\'', '%']
  | role | category => ['\'']
  | id | minPrice | maxPrice => []

def closing : ClauseForm → List Char
  | like => ['%', '\'']
  | role | category => ['\'']
  | id | minPrice | maxPrice => []

/-- White space joins the keyword of a search to its token, and an operator with white space on both
    sides the others. -/
def Joins : ClauseForm → List Char → Prop
  | like, joint => Blanks joint
  | f, joint => ∃ gap space, joint = gap ++ f.operator ++ space ∧ Blanks gap ∧ Blanks space

/-- Digits make an identifier, and digits with at most one fraction a price. Any other token is not
    empty and lacks the mark that ends it. -/
def Takes : ClauseForm → List Char → Prop
  | id, token => Digits token
  | like, token => token ≠ [] ∧ '%' ∉ token
  | role, token | category, token => token ≠ [] ∧ '\'' ∉ token
  | minPrice, token | maxPrice, token => ∃ whole tail, token = whole ++ tail ∧ Digits whole ∧
      (tail = [] ∨ ∃ decimals, tail = '.' :: decimals ∧ Digits decimals)

structure Derives (f : ClauseForm) (w : Wording) : Prop where
  keyword : List.Forall₂ (fun letter c => sameLetter letter c = true) f.keyword.toList w.keyword
  joint : f.Joins w.joint
  token : f.Takes w.token

def text (f : ClauseForm) (w : Wording) : List Char :=
  w.keyword ++ w.joint ++ f.opening ++ w.token ++ f.closing

def StandsIn (f : ClauseForm) (sql : String) (before : List Char) (w : Wording)
    (after : List Char) : Prop :=
  f.Derives w ∧ sql.toList = before ++ f.text w ++ after

/-- No digit goes on with the token. A price without a fraction is followed by none either: not by a
    point with a digit behind it. -/
def Stops : ClauseForm → List Char → List Char → Prop
  | id, _, after => Outside isDigit after
  | minPrice, token, after | maxPrice, token, after => Outside isDigit after ∧
      ('.' ∉ token → ∀ more, after = '.' :: more → Outside isDigit more)
  | like, _, _ | role, _, _ | category, _, _ => True

/-! The grammar and the pattern -/

def jointPattern (f : ClauseForm) : Pattern :=
  match f with
  | like => [.gap]
  | _ => .gap :: f.operator.map .mark ++ [.gap]

def piece : ClauseForm → Piece
  | id => .numeral false false
  | like => .upTo '%'
  | role | category => .upTo '\''
  | minPrice | maxPrice => .numeral false true

def front (f : ClauseForm) : Pattern :=
  Pattern.word f.keyword ++ (f.jointPattern ++ f.opening.map .mark)

def frontParts (f : ClauseForm) (w : Wording) (joints : List (List Char)) : List (List Char) :=
  w.keyword.map ([·]) ++ (joints ++ f.opening.map ([·]))

def parts (f : ClauseForm) (w : Wording) (joints : List (List Char)) : List (List Char) :=
  f.frontParts w joints ++ w.token :: f.closing.map ([·])

theorem pattern_split (f : ClauseForm) :
    f.pattern = f.front ++ f.piece :: f.closing.map .mark := by
  cases f <;> rfl

theorem pattern_determinate (f : ClauseForm) : f.pattern.determinate = true := by
  cases f <;> decide

theorem token_captured (f : ClauseForm) :
    (∀ piece ∈ f.front, piece.captured = false) ∧ f.piece.captured = true ∧
      ∀ piece ∈ f.closing.map Piece.mark, piece.captured = false := by
  cases f <;> decide

theorem lacking_fits {stop : Char} {token : List Char} :
    (token ≠ [] ∧ stop ∉ token) ↔ (Piece.upTo stop).Fits token := by
  simp only [Piece.Fits, bne_iff_ne]
  refine and_congr_right fun _ => ⟨fun absent c member same => absent (same ▸ member), ?_⟩
  exact fun apart member => apart stop member rfl

theorem takes_iff {f : ClauseForm} {token : List Char} : f.Takes token ↔ f.piece.Fits token := by
  cases f with
  | id => exact bare_numeral.symm
  | like | role | category => exact lacking_fits
  | minPrice | maxPrice =>
    simp only [Takes, piece, Piece.Fits, unsigned_numeral, true_and]

theorem marks_fit {marks : List Char} {parts : List (List Char)} :
    List.Forall₂ Piece.Fits (marks.map .mark) parts ↔ parts = marks.map ([·]) := by
  induction marks generalizing parts with
  | nil => simp
  | cons mark marks ih =>
    simp only [List.map_cons, List.forall₂_cons_left_iff, ih, Piece.Fits]
    constructor
    · intro split
      obtain ⟨_, _, rfl, rfl, rfl⟩ := split
      rfl
    · rintro rfl
      exact ⟨_, _, rfl, rfl, rfl⟩

theorem spaced_fits {marks : List Char} {parts : List (List Char)} :
    List.Forall₂ Piece.Fits (.gap :: marks.map .mark ++ [.gap]) parts ↔
      ∃ gap space, parts = gap :: marks.map ([·]) ++ [space] ∧ Blanks gap ∧ Blanks space := by
  simp only [List.cons_append, List.forall₂_cons_left_iff, fits_append, marks_fit,
    List.forall₂_nil_left_iff]
  constructor
  · intro split
    obtain ⟨gap, _, blank, ⟨_, _, rfl, rfl, space, _, blank', rfl, rfl⟩, rfl⟩ := split
    exact ⟨gap, space, rfl, blank, blank'⟩
  · intro split
    obtain ⟨gap, space, rfl, blank, blank'⟩ := split
    exact ⟨gap, _, blank, ⟨_, _, rfl, rfl, space, _, blank', rfl, rfl⟩, rfl⟩

theorem singles_text (text : List Char) : (text.map ([·])).flatten = text := by
  rw [← List.flatMap_def, List.flatMap_singleton']

theorem joins_iff {f : ClauseForm} {joint : List Char} :
    f.Joins joint ↔ ∃ joints, List.Forall₂ Piece.Fits f.jointPattern joints ∧
      joints.flatten = joint := by
  by_cases search : f = like
  · subst search
    simp only [Joins, jointPattern, List.forall₂_cons_left_iff, List.forall₂_nil_left_iff]
    constructor
    · intro blank
      exact ⟨[joint], ⟨joint, [], blank, rfl, rfl⟩, List.flatten_singleton⟩
    · intro split
      obtain ⟨_, ⟨gap, _, blank, rfl, rfl⟩, rfl⟩ := split
      rwa [List.flatten_singleton]
  · have spaced : f.Joins joint ↔ ∃ gap space, joint = gap ++ f.operator ++ space ∧ Blanks gap ∧
        Blanks space := by cases f <;> first | rfl | contradiction
    have pattern : f.jointPattern = .gap :: f.operator.map .mark ++ [.gap] := by
      cases f <;> first | rfl | contradiction
    rw [spaced, pattern]
    simp only [spaced_fits]
    constructor
    · intro joins
      obtain ⟨gap, space, rfl, blank, blank'⟩ := joins
      exact ⟨_, ⟨gap, space, rfl, blank, blank'⟩, by simp [singles_text]⟩
    · intro joins
      obtain ⟨_, ⟨gap, space, rfl, blank, blank'⟩, rfl⟩ := joins
      exact ⟨gap, space, by simp [singles_text], blank, blank'⟩

theorem front_fits {f : ClauseForm} {parts : List (List Char)} :
    List.Forall₂ Piece.Fits f.front parts ↔ ∃ keyword joints,
      List.Forall₂ (fun letter c => sameLetter letter c = true) f.keyword.toList keyword ∧
      List.Forall₂ Piece.Fits f.jointPattern joints ∧
      parts = keyword.map ([·]) ++ (joints ++ f.opening.map ([·])) := by
  simp only [front, Pattern.word, fits_append, word_fits, marks_fit]
  constructor
  · intro split
    obtain ⟨_, _, rfl, ⟨keyword, spelt, rfl⟩, joints, _, rfl, joined, rfl⟩ := split
    exact ⟨keyword, joints, spelt, joined, rfl⟩
  · intro split
    obtain ⟨keyword, joints, spelt, joined, rfl⟩ := split
    exact ⟨_, _, rfl, ⟨keyword, spelt, rfl⟩, joints, _, rfl, joined, rfl⟩

theorem parts_fit {f : ClauseForm} {all : List (List Char)} :
    List.Forall₂ Piece.Fits f.pattern all ↔ ∃ w joints, f.Derives w ∧
      List.Forall₂ Piece.Fits f.jointPattern joints ∧ joints.flatten = w.joint ∧
      all = f.parts w joints := by
  simp only [pattern_split, fits_append, front_fits, List.forall₂_cons_left_iff, marks_fit]
  constructor
  · intro split
    obtain ⟨_, _, rfl, ⟨keyword, joints, spelt, joined, rfl⟩, token, _, fits, rfl, rfl⟩ := split
    exact ⟨⟨keyword, joints.flatten, token⟩, joints,
      ⟨spelt, joins_iff.mpr ⟨joints, joined, rfl⟩, takes_iff.mpr fits⟩, joined, rfl, rfl⟩
  · intro split
    obtain ⟨w, joints, derived, joined, -, rfl⟩ := split
    exact ⟨_, _, rfl, ⟨w.keyword, joints, derived.keyword, joined, rfl⟩, w.token, _,
      takes_iff.mp derived.token, rfl, rfl⟩

theorem parts_text {f : ClauseForm} {w : Wording} {joints : List (List Char)}
    (joined : joints.flatten = w.joint) : (f.parts w joints).flatten = f.text w := by
  simp only [parts, frontParts, List.flatten_append, List.flatten_cons, singles_text, joined, text,
    List.append_assoc]

theorem parts_captured {f : ClauseForm} {w : Wording} (derived : f.Derives w)
    {joints : List (List Char)} (joined : List.Forall₂ Piece.Fits f.jointPattern joints) :
    f.pattern.captures (f.parts w joints) = [w.token] := by
  obtain ⟨frontSilent, captured, closingSilent⟩ := f.token_captured
  have fits := front_fits.mpr ⟨w.keyword, joints, derived.keyword, joined, rfl⟩
  rw [pattern_split, parts, frontParts, captures_append fits.length_eq,
    Pattern.silent_captures frontSilent, Pattern.captures, if_pos captured,
    Pattern.silent_captures closingSilent, List.nil_append]

theorem stops_iff {f : ClauseForm} {w : Wording} {joints : List (List Char)} {after : List Char} :
    f.Stops w.token after ↔ ∀ piece part, f.pattern.getLast? = some piece →
      (f.parts w joints).getLast? = some part → piece.Ends part after := by
  cases f with
  | id =>
    have last : id.pattern.getLast? = some (.numeral false false) := rfl
    simp [Stops, last, parts, closing, Piece.Ends]
  | minPrice =>
    have last : minPrice.pattern.getLast? = some (.numeral false true) := rfl
    simp [Stops, last, parts, closing, Piece.Ends]
  | maxPrice =>
    have last : maxPrice.pattern.getLast? = some (.numeral false true) := rfl
    simp [Stops, last, parts, closing, Piece.Ends]
  | like | role | category =>
    refine iff_of_true trivial fun piece part last _ => ?_
    obtain rfl := Option.some.inj last
    trivial

/-! Reading a clause -/

theorem clause_reads {f : ClauseForm} {w : Wording} (derived : f.Derives w) {after : List Char}
    (stops : f.Stops w.token after) : ∃ joints, joints.flatten = w.joint ∧
      List.Forall₂ Piece.Fits f.jointPattern joints ∧
      f.pattern.Reads (f.parts w joints) after := by
  obtain ⟨joints, joined, same⟩ := joins_iff.mp derived.joint
  refine ⟨joints, same, joined, Pattern.reads_of_fits f.pattern_determinate ?_ ?_⟩
  · exact parts_fit.mpr ⟨w, joints, derived, joined, same, rfl⟩
  · exact stops_iff.mp stops

theorem clause_read_iff {f : ClauseForm} {text : List Char} {tokens : List (List Char)} :
    f.pattern.read? text = some tokens ↔ ∃ w after, f.Derives w ∧ text = f.text w ++ after ∧
      f.Stops w.token after ∧ tokens = [w.token] := by
  rw [Pattern.read_iff]
  constructor
  · intro read
    obtain ⟨_, after, rfl, reads, rfl⟩ := read
    obtain ⟨w, joints, derived, joined, same, rfl⟩ := parts_fit.mp (Pattern.reads_fit reads)
    have stops : f.Stops w.token after := stops_iff.mpr fun _ _ => Pattern.reads_end reads
    exact ⟨w, after, derived, by rw [parts_text same], stops, parts_captured derived joined⟩
  · intro split
    obtain ⟨w, after, derived, rfl, stops, rfl⟩ := split
    obtain ⟨joints, same, joined, reads⟩ := clause_reads derived stops
    exact ⟨_, after, by rw [parts_text same], reads, (parts_captured derived joined).symm⟩

/-! The longest clause at a place -/

theorem token_stops {f : ClauseForm} {token : List Char} (takes : f.Takes token)
    (after : List Char) : ∃ longer rest, token ++ f.closing ++ after = longer ++ f.closing ++ rest ∧
      f.Takes longer ∧ f.Stops longer rest ∧ token <+: longer := by
  cases f with
  | like | role | category => exact ⟨token, after, rfl, takes, trivial, List.prefix_rfl⟩
  | id =>
    obtain ⟨longer, rest, split, fits, ends, reaches⟩ := piece_taken (takes_iff.mp takes) after
    exact ⟨longer, rest, by simpa [closing] using split, takes_iff.mpr fits, ends.1, reaches⟩
  | minPrice | maxPrice =>
    obtain ⟨longer, rest, split, fits, ends, reaches⟩ := piece_taken (takes_iff.mp takes) after
    exact ⟨longer, rest, by simpa [closing] using split, takes_iff.mpr fits,
      ⟨ends.1, ends.2 rfl⟩, reaches⟩

theorem longer_clause {f : ClauseForm} {w : Wording} (derived : f.Derives w) (after : List Char) :
    ∃ longer rest, f.Derives { w with token := longer } ∧
      f.text w ++ after = f.text { w with token := longer } ++ rest ∧ f.Stops longer rest ∧
      w.token <+: longer := by
  obtain ⟨longer, rest, split, takes, stops, reaches⟩ := token_stops derived.token after
  refine ⟨longer, rest, ⟨derived.keyword, derived.joint, takes⟩, ?_, stops, reaches⟩
  simp only [List.append_assoc] at split
  simp only [text, List.append_assoc, split]

theorem clause_unique {f : ClauseForm} {w w' : Wording} {after after' : List Char}
    (derived : f.Derives w) (derived' : f.Derives w') (stops : f.Stops w.token after)
    (stops' : f.Stops w'.token after') (same : f.text w ++ after = f.text w' ++ after') : w = w' := by
  obtain ⟨joints, joint, joined, reads⟩ := clause_reads derived stops
  obtain ⟨joints', joint', joined', reads'⟩ := clause_reads derived' stops'
  rw [← parts_text joint, ← parts_text joint'] at same
  obtain ⟨parts, -⟩ := Pattern.reads_unique reads reads' same
  have keywords : (w.keyword.map ([·])).length = (w'.keyword.map ([·])).length := by
    rw [List.length_map, List.length_map, ← derived.keyword.length_eq, derived'.keyword.length_eq]
  have lengths : joints.length = joints'.length := by
    rw [← joined.length_eq, joined'.length_eq]
  simp only [ClauseForm.parts, frontParts, List.append_assoc] at parts
  obtain ⟨keyword, behind⟩ := List.append_inj parts keywords
  obtain ⟨rfl, token⟩ := List.append_inj behind lengths
  have spelt : w.keyword = w'.keyword := List.map_injective_iff.mpr (fun _ _ => by simp) keyword
  obtain ⟨token, -⟩ := List.cons.inj (List.append_cancel_left token)
  cases w
  cases w'
  simp_all

/-- A clause that stops has in front of it any other one that could be read in its place. -/
theorem clause_reaches {f : ClauseForm} {w w' : Wording} {after after' : List Char}
    (derived : f.Derives w) (derived' : f.Derives w') (stops : f.Stops w.token after)
    (same : f.text w ++ after = f.text w' ++ after') :
    w'.keyword = w.keyword ∧ w'.joint = w.joint ∧ w'.token <+: w.token := by
  obtain ⟨longer, rest, longerDerived, split, longerStops, reaches⟩ := longer_clause derived' after'
  obtain rfl := clause_unique derived longerDerived stops longerStops (same.trans split)
  exact ⟨rfl, rfl, reaches⟩

theorem clause_readable {f : ClauseForm} {w : Wording} (derived : f.Derives w)
    (after : List Char) : f.pattern.read? (f.text w ++ after) ≠ none := by
  obtain ⟨longer, rest, longerDerived, split, stops, -⟩ := longer_clause derived after
  rw [clause_read_iff.mpr ⟨_, rest, longerDerived, split, stops, rfl⟩]
  exact Option.some_ne_none _

end ClauseForm

open ClauseForm

/-- Either a clause of the form stands nowhere in the text, and the search finds nothing. Or it
    finds the token of a clause further left than any other: there the keyword and what joins it
    to the token are settled, the token goes on up to where it stops, and every other token that
    could be read there is in front of it. -/
theorem clause_search_exact (f : ClauseForm) (sql : String) :
    (¬ ∃ before w after, f.StandsIn sql before w after) ∧
        Clause.captured? f.pattern sql = none ∨
    ∃ before w after, f.StandsIn sql before w after ∧
      Clause.captured? f.pattern sql = some w.token ∧ f.Stops w.token after ∧
      ∀ before' w' after', f.StandsIn sql before' w' after' →
        before.length < before'.length ∨ before' = before ∧ w'.keyword = w.keyword ∧
          w'.joint = w.joint ∧ w'.token <+: w.token := by
  cases found : f.pattern.find? sql.toList with
  | none =>
    refine Or.inl ⟨?_, by rw [Clause.captured?, found]⟩
    intro somewhere
    obtain ⟨before, w, after, derived, split⟩ := somewhere
    rw [List.append_assoc] at split
    exact clause_readable derived after (Pattern.find_none_iff.mp found before _ split)
  | some tokens =>
    obtain ⟨before, rest, split, read, leftmost⟩ := Pattern.find_some_iff.mp found
    obtain ⟨w, after, derived, rfl, stops, rfl⟩ := clause_read_iff.mp read
    refine Or.inr ⟨before, w, after, ⟨derived, by rw [split, List.append_assoc]⟩,
      by rw [Clause.captured?, found], stops, ?_⟩
    intro before' w' after' other
    obtain ⟨derived', split'⟩ := other
    rw [List.append_assoc] at split'
    have order := leftmost before' _ split' (clause_readable derived' after')
    rcases Nat.lt_or_eq_of_le order with left | level
    · exact Or.inl left
    · obtain ⟨rfl, texts⟩ := List.append_inj (split.symm.trans split') level
      exact Or.inr ⟨rfl, clause_reaches derived derived' stops texts⟩

example : Clause.captured? Clause.likePattern "LI\u212aE '%a' like '%b%'" = some ['b'] := by
  decide +kernel

end InjectionLab
