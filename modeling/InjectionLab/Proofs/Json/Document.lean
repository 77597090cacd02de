import InjectionLab.Json.Reader
import InjectionLab.Json.Writer
import InjectionLab.Proofs.Json.Number
import InjectionLab.Proofs.Json.Quoted

/-!
Documents read back. A document may be laid out with white space wherever reading skips it, and
every layout of a document whose integers fit 64 bits is read as that document, members in the
order in which they are written.
-/
namespace InjectionLab.Json

/-! Layouts -/

/-- The white space of a layout: before an item, a member or a closing bracket by the level of
    indentation, and after the colon of a member. -/
structure Spacing where
  line : Nat → List Char
  colon : List Char
  line_blank : ∀ level, ∀ c ∈ line level, isSpace c = true
  colon_blank : ∀ c ∈ colon, isSpace c = true

def Spacing.none : Spacing where
  line _ := []
  colon := []
  line_blank _ := by simp
  colon_blank := by simp

@[simp] theorem Spacing.none_line (level : Nat) : Spacing.none.line level = [] := rfl

@[simp] theorem Spacing.none_colon : Spacing.none.colon = [] := rfl

mutual
def laid (gap : Spacing) (level : Nat) : Json → List Char
  | array [] => ['[', ']']
  | array (x :: xs) =>
    '[' :: gap.line (level + 1) ++ laid gap (level + 1) x ++ laidItems gap level xs
  | object [] => ['\x7b', '\x7d']
  | object ((name, v) :: ms) =>
    '\x7b' :: gap.line (level + 1) ++ Quoted.write name ++ ':' :: gap.colon ++
      laid gap (level + 1) v ++ laidMembers gap level ms
  | value => compact value
def laidItems (gap : Spacing) (level : Nat) : List Json → List Char
  | [] => gap.line level ++ [']']
  | x :: xs => ',' :: gap.line (level + 1) ++ laid gap (level + 1) x ++ laidItems gap level xs
def laidMembers (gap : Spacing) (level : Nat) : List (String × Json) → List Char
  | [] => gap.line level ++ ['\x7d']
  | (name, v) :: ms =>
    ',' :: gap.line (level + 1) ++ Quoted.write name ++ ':' :: gap.colon ++
      laid gap (level + 1) v ++ laidMembers gap level ms
end

mutual
theorem laid_compact (level : Nat) : ∀ value : Json, laid .none level value = compact value
  | null | bool true | bool false | number _ | string _ | array [] | object [] => by
    simp only [laid, compact]
  | array (x :: xs) => by
    simp only [laid, compact, Spacing.none_line, laid_compact _ x, laid_compact_items level xs]
    simp
  | object ((name, v) :: ms) => by
    simp only [laid, compact, Spacing.none_line, Spacing.none_colon, laid_compact _ v,
      laid_compact_members level ms]
    simp
theorem laid_compact_items (level : Nat) : ∀ xs, laidItems .none level xs = compactItems xs
  | [] => rfl
  | x :: xs => by
    simp only [laidItems, compactItems, Spacing.none_line, laid_compact _ x,
      laid_compact_items level xs]
    simp
theorem laid_compact_members (level : Nat) : ∀ ms, laidMembers .none level ms = compactMembers ms
  | [] => rfl
  | (name, v) :: ms => by
    simp only [laidMembers, compactMembers, Spacing.none_line, Spacing.none_colon, laid_compact _ v,
      laid_compact_members level ms]
    simp
end

def Spacing.lines : Spacing where
  line := newLine
  colon := [' ']
  line_blank level c held := by
    rcases List.mem_cons.mp held with rfl | space
    · rfl
    · rw [List.eq_of_mem_replicate space]
      rfl
  colon_blank c held := by
    rw [List.mem_singleton.mp held]
    rfl

@[simp] theorem Spacing.lines_line (level : Nat) : Spacing.lines.line level = newLine level := rfl

@[simp] theorem Spacing.lines_colon : Spacing.lines.colon = [' '] := rfl

mutual
theorem laid_pretty (level : Nat) : ∀ value : Json, laid .lines level value = pretty level value
  | null | bool true | bool false | number _ | string _ | array [] | object [] => by
    simp only [laid, pretty]
  | array (x :: xs) => by
    simp only [laid, pretty, Spacing.lines_line, laid_pretty _ x, laid_pretty_items level xs]
  | object ((name, v) :: ms) => by
    simp only [laid, pretty, Spacing.lines_line, Spacing.lines_colon, laid_pretty _ v,
      laid_pretty_members level ms]
    simp
theorem laid_pretty_items (level : Nat) : ∀ xs, laidItems .lines level xs = prettyItems level xs
  | [] => rfl
  | x :: xs => by
    simp only [laidItems, prettyItems, Spacing.lines_line, laid_pretty _ x,
      laid_pretty_items level xs]
theorem laid_pretty_members (level : Nat) :
    ∀ ms, laidMembers .lines level ms = prettyMembers level ms
  | [] => rfl
  | (name, v) :: ms => by
    simp only [laidMembers, prettyMembers, Spacing.lines_line, Spacing.lines_colon,
      laid_pretty _ v, laid_pretty_members level ms]
    simp
end

/-! Documents whose numbers can be read -/

mutual
/-- Every integer of the document fits 64 bits. -/
def Bounded : Json → Prop
  | number n => n.inRange = true
  | array xs => BoundedItems xs
  | object ms => BoundedMembers ms
  | _ => True
def BoundedItems : List Json → Prop
  | [] => True
  | x :: xs => Bounded x ∧ BoundedItems xs
def BoundedMembers : List (String × Json) → Prop
  | [] => True
  | (_, v) :: ms => Bounded v ∧ BoundedMembers ms
end

/-! The start of a value -/

def StartsValue (text : List Char) : Prop :=
  ∃ c more, text = c :: more ∧ isSpace c = false ∧ c ≠ ']' ∧ c ≠ '\x7d'

theorem digit_unblank {c : Char} (digit : c.isDigit = true) : isSpace c = false := by
  simp only [isSpace, Bool.or_eq_false_iff, beq_eq_false_iff_ne]
  refine ⟨⟨⟨?_, ?_⟩, ?_⟩, ?_⟩ <;> (rintro rfl; exact absurd digit (by decide))

theorem number_starts_value {c : Char} (number : c.isDigit = true ∨ c = '-') :
    isSpace c = false ∧ c ≠ ']' ∧ c ≠ '\x7d' := by
  rcases number with digit | rfl
  · refine ⟨digit_unblank digit, ?_, ?_⟩ <;> (rintro rfl; exact absurd digit (by decide))
  · decide

theorem laid_starts (gap : Spacing) (level : Nat) {value : Json} (bounded : value.Bounded)
    (rest : List Char) : StartsValue (laid gap level value ++ rest) := by
  cases value with
  | null => exact ⟨_, _, rfl, by decide⟩
  | bool b => cases b <;> exact ⟨_, _, rfl, by decide⟩
  | number n =>
    obtain ⟨c, more, written, first⟩ := Number.reads_starts (Number.text_reads bounded)
    refine ⟨c, more ++ rest, ?_, number_starts_value first⟩
    rw [laid, compact, written, List.cons_append]
    all_goals simp
  | string s => exact ⟨_, _, rfl, by decide⟩
  | array xs => cases xs <;> exact ⟨_, _, rfl, by decide⟩
  | object ms =>
    cases ms with
    | nil => exact ⟨_, _, rfl, by decide⟩
    | cons m ms => exact ⟨_, _, rfl, by decide⟩

/-! Steps of the reader -/

theorem skip_blanks {blanks text : List Char} (blank : ∀ c ∈ blanks, isSpace c = true)
    (stops : ∀ c, text.head? = some c → isSpace c = false) : skipSpace (blanks ++ text) = text := by
  rw [skipSpace, List.dropWhile_append_of_pos blank]
  cases text with
  | nil => rfl
  | cons c more => rw [List.dropWhile_cons_of_neg (by simp [stops c rfl])]

theorem starts_unblank {text : List Char} (starts : StartsValue text) (c : Char)
    (first : text.head? = some c) : isSpace c = false := by
  obtain ⟨d, more, rfl, unblank, _⟩ := starts
  cases first
  exact unblank

theorem quote_unblank (name : String) (rest : List Char) (c : Char)
    (first : (Quoted.write name ++ rest).head? = some c) : isSpace c = false := by
  cases first
  rfl

theorem read_text_written (strict : Bool) (s : String) (rest : List Char) :
    readText strict (Quoted.encode s.toList ++ '"' :: rest) = some (s, rest) := by
  rw [readText, Quoted.decode_encode]
  simp

section Steps
variable {strict : Bool} {fuel : Nat} {inner text after rest : List Char} {x v : Json}
  {xs : List Json} {ms : List (String × Json)} {name : String}

theorem read_name_written (strict : Bool) (name : String) {blanks : List Char}
    (blank : ∀ c ∈ blanks, isSpace c = true) (starts : StartsValue text) :
    readName strict (Quoted.write name ++ ':' :: (blanks ++ text)) = some (name, text) := by
  have colon : skipSpace (':' :: (blanks ++ text)) = ':' :: (blanks ++ text) := rfl
  have skipped := skip_blanks blank (starts_unblank starts)
  rw [Quoted.write, List.cons_append, List.cons_append, readName, List.append_assoc,
    List.singleton_append, read_text_written]
  simp only [colon, skipped]

theorem read_number_text {c : Char} (number : c.isDigit = true ∨ c = '-') :
    readValue strict (fuel + 1) (c :: text) = readNumber strict (c :: text) := by
  have other (d : Char) (letter : d.isDigit = false) (unsigned : d ≠ '-') : c ≠ d := by
    rintro rfl
    rcases number with digit | minus
    · exact Bool.noConfusion (letter.symm.trans digit)
    · exact unsigned minus
  -- The other alternatives start with a letter, a quote or a bracket.
  rw [readValue]
  all_goals
    intro more same
    exact other _ (by decide) (by decide) (List.cons.inj same).1

theorem read_array_text (skipped : skipSpace inner = text) (starts : StartsValue text)
    (value : readValue strict fuel text = some (x, after))
    (items : readItems strict fuel after = some (xs, rest)) :
    readValue strict (fuel + 1) ('[' :: inner) = some (array (x :: xs), rest) := by
  obtain ⟨c, more, rfl, _, inside, _⟩ := starts
  rw [readValue, skipped]
  simp [inside, value, items]

theorem read_object_text {named : List Char} (skipped : skipSpace inner = '"' :: named)
    (member : readName strict ('"' :: named) = some (name, text))
    (value : readValue strict fuel text = some (v, after))
    (members : readMembers strict fuel after = some (ms, rest)) :
    readValue strict (fuel + 1) ('\x7b' :: inner) = some (object ((name, v) :: ms), rest) := by
  rw [readValue, skipped]
  simp [member, value, members]

theorem read_next_item (skipped : skipSpace inner = text)
    (value : readValue strict fuel text = some (x, after))
    (items : readItems strict fuel after = some (xs, rest)) :
    readItems strict (fuel + 1) (',' :: inner) = some (x :: xs, rest) := by
  have comma : skipSpace (',' :: inner) = ',' :: inner := rfl
  rw [readItems, comma]
  simp only [skipped, value, items, Option.map_some]

theorem read_next_member {named : List Char} (skipped : skipSpace inner = named)
    (member : readName strict named = some (name, text))
    (value : readValue strict fuel text = some (v, after))
    (members : readMembers strict fuel after = some (ms, rest)) :
    readMembers strict (fuel + 1) (',' :: inner) = some ((name, v) :: ms, rest) := by
  have comma : skipSpace (',' :: inner) = ',' :: inner := rfl
  rw [readMembers, comma]
  simp only [skipped, member, value, members, Option.map_some]

end Steps

/-! The whole document -/

theorem blank_ends_number {c : Char} (blank : isSpace c = true) :
    c.isDigit = false ∧ c ≠ '.' ∧ c ≠ 'e' ∧ c ≠ 'E' := by
  simp only [isSpace, Bool.or_eq_true, beq_iff_eq] at blank
  rcases blank with ((rfl | rfl) | rfl) | rfl <;> decide

theorem ends_number {blanks text : List Char} (blank : ∀ c ∈ blanks, isSpace c = true)
    (ends : Number.EndsNumber text) : Number.EndsNumber (blanks ++ text) := by
  cases blanks with
  | nil => exact ends
  | cons c blanks =>
    intro d first
    cases first
    exact blank_ends_number (blank c (by simp))

theorem mark_ends_number {c : Char} (mark : c = ',' ∨ c = ']' ∨ c = '\x7d') (more : List Char) :
    Number.EndsNumber (c :: more) := by
  intro d first
  cases first
  rcases mark with rfl | rfl | rfl <;> decide

theorem items_end_number (gap : Spacing) (level : Nat) (xs : List Json) (rest : List Char) :
    Number.EndsNumber (laidItems gap level xs ++ rest) := by
  cases xs with
  | nil =>
    rw [laidItems, List.append_assoc]
    exact ends_number (gap.line_blank level) (mark_ends_number (by simp) _)
  | cons x xs => exact mark_ends_number (by simp) _

theorem members_end_number (gap : Spacing) (level : Nat) (ms : List (String × Json))
    (rest : List Char) : Number.EndsNumber (laidMembers gap level ms ++ rest) := by
  cases ms with
  | nil =>
    rw [laidMembers, List.append_assoc]
    exact ends_number (gap.line_blank level) (mark_ends_number (by simp) _)
  | cons m ms => exact mark_ends_number (by simp) _

theorem laid_length_positive (gap : Spacing) (level : Nat) {value : Json} (bounded : value.Bounded) :
    0 < (laid gap level value).length := by
  obtain ⟨c, more, written, _⟩ := laid_starts gap level bounded []
  rw [List.append_nil] at written
  rw [written]
  exact Nat.succ_pos _

mutual
-- The induction is over the document. Each value and each item takes a unit of fuel and at least a
-- character, and what follows a value in a list ends a number.
theorem read_laid (gap : Spacing) (level : Nat) : ∀ (value : Json) (fuel : Nat) (rest : List Char),
    value.Bounded → (laid gap level value).length ≤ fuel → Number.EndsNumber rest →
      readValue true fuel (laid gap level value ++ rest) = some (value, rest)
  | value, 0, rest, bounded, enough, _ => by
    have positive := laid_length_positive gap level bounded
    omega
  | null, fuel + 1, rest, _, _, _ => by simp [laid, compact, readValue]
  | bool true, fuel + 1, rest, _, _, _ => by simp [laid, compact, readValue]
  | bool false, fuel + 1, rest, _, _, _ => by simp [laid, compact, readValue]
  | number n, fuel + 1, rest, bounded, _, ends => by
    have reads := Number.text_reads bounded
    obtain ⟨c, more, written, first⟩ := Number.reads_starts reads
    obtain ⟨lexeme, read, value⟩ := Number.reads_before ends reads
    have text : laid gap level (number n) = n.text := by simp [laid, compact]
    rw [text, written, List.cons_append, read_number_text first, ← List.cons_append, ← written]
    simp only [readNumber, read, value]
  | string s, fuel + 1, rest, _, _, _ => by
    have text : laid gap level (string s) = Quoted.write s := by simp [laid, compact]
    rw [text, Quoted.write, List.cons_append, List.cons_append, List.append_assoc,
      List.singleton_append, readValue, read_text_written]
    rfl
  | array [], fuel + 1, rest, _, _, _ => by simp [laid, readValue, skipSpace, isSpace]
  | array (x :: xs), fuel + 1, rest, bounded, enough, _ => by
    simp only [laid, List.length_cons, List.length_append] at enough
    have ends := items_end_number gap level xs rest
    have value := read_laid gap (level + 1) x fuel _ bounded.1 (by omega) ends
    have items := read_laid_items gap level xs fuel rest bounded.2 (by omega)
    have starts := laid_starts gap (level + 1) bounded.1 (laidItems gap level xs ++ rest)
    have skipped := skip_blanks (gap.line_blank (level + 1)) (starts_unblank starts)
    simp only [laid, List.cons_append, List.append_assoc]
    exact read_array_text skipped starts value items
  | object [], fuel + 1, rest, _, _, _ => by simp [laid, readValue, skipSpace, isSpace]
  | object ((name, v) :: ms), fuel + 1, rest, bounded, enough, _ => by
    simp only [laid, List.length_cons, List.length_append] at enough
    have ends := members_end_number gap level ms rest
    have value := read_laid gap (level + 1) v fuel _ bounded.1 (by omega) ends
    have members := read_laid_members gap level ms fuel rest bounded.2 (by omega)
    have starts := laid_starts gap (level + 1) bounded.1 (laidMembers gap level ms ++ rest)
    have member := read_name_written true name gap.colon_blank starts
    have skipped := skip_blanks (gap.line_blank (level + 1)) (quote_unblank name
      (':' :: (gap.colon ++ (laid gap (level + 1) v ++ (laidMembers gap level ms ++ rest)))))
    simp only [laid, List.cons_append, List.append_assoc]
    exact read_object_text skipped member value members
theorem read_laid_items (gap : Spacing) (level : Nat) :
    ∀ (xs : List Json) (fuel : Nat) (rest : List Char),
    BoundedItems xs → (laidItems gap level xs).length ≤ fuel →
      readItems true fuel (laidItems gap level xs ++ rest) = some (xs, rest)
  | [], 0, rest, _, enough => by simp [laidItems] at enough
  | _ :: _, 0, rest, _, enough => by simp [laidItems] at enough
  | [], fuel + 1, rest, _, _ => by
    have closed : skipSpace (gap.line level ++ ']' :: rest) = ']' :: rest :=
      skip_blanks (gap.line_blank level) (fun c first => by cases first; rfl)
    rw [laidItems, List.append_assoc, List.singleton_append, readItems, closed]
    rfl
  | x :: xs, fuel + 1, rest, bounded, enough => by
    simp only [laidItems, List.length_cons, List.length_append] at enough
    have ends := items_end_number gap level xs rest
    have value := read_laid gap (level + 1) x fuel _ bounded.1 (by omega) ends
    have items := read_laid_items gap level xs fuel rest bounded.2 (by omega)
    have starts := laid_starts gap (level + 1) bounded.1 (laidItems gap level xs ++ rest)
    have skipped := skip_blanks (gap.line_blank (level + 1)) (starts_unblank starts)
    simp only [laidItems, List.cons_append, List.append_assoc]
    exact read_next_item skipped value items
theorem read_laid_members (gap : Spacing) (level : Nat) :
    ∀ (ms : List (String × Json)) (fuel : Nat) (rest : List Char),
    BoundedMembers ms → (laidMembers gap level ms).length ≤ fuel →
      readMembers true fuel (laidMembers gap level ms ++ rest) = some (ms, rest)
  | [], 0, rest, _, enough => by simp [laidMembers] at enough
  | (_, _) :: _, 0, rest, _, enough => by simp [laidMembers] at enough
  | [], fuel + 1, rest, _, _ => by
    have closed : skipSpace (gap.line level ++ '\x7d' :: rest) = '\x7d' :: rest :=
      skip_blanks (gap.line_blank level) (fun c first => by cases first; rfl)
    rw [laidMembers, List.append_assoc, List.singleton_append, readMembers, closed]
    rfl
  | (name, v) :: ms, fuel + 1, rest, bounded, enough => by
    simp only [laidMembers, List.length_cons, List.length_append] at enough
    have ends := members_end_number gap level ms rest
    have value := read_laid gap (level + 1) v fuel _ bounded.1 (by omega) ends
    have members := read_laid_members gap level ms fuel rest bounded.2 (by omega)
    have starts := laid_starts gap (level + 1) bounded.1 (laidMembers gap level ms ++ rest)
    have member := read_name_written true name gap.colon_blank starts
    have skipped := skip_blanks (gap.line_blank (level + 1)) (quote_unblank name
      (':' :: (gap.colon ++ (laid gap (level + 1) v ++ (laidMembers gap level ms ++ rest)))))
    simp only [laidMembers, List.cons_append, List.append_assoc]
    exact read_next_member skipped member value members
end

theorem read_laid_text (gap : Spacing) {value : Json} (bounded : value.Bounded) :
    read? (laid gap 0 value) = some value := by
  have starts := laid_starts gap 0 bounded []
  rw [List.append_nil] at starts
  have nothing : ∀ c ∈ ([] : List Char), isSpace c = true := by simp
  have skipped := skip_blanks nothing (starts_unblank starts)
  rw [List.nil_append] at skipped
  have read := read_laid gap 0 value (fuelFor (laid gap 0 value)) [] bounded (Nat.le_succ _)
    (fun _ none => nomatch none)
  rw [List.append_nil] at read
  rw [read?, skipped, read]
  rfl

theorem read_compact {value : Json} (bounded : value.Bounded) :
    read? value.compactText.toList = some value := by
  rw [compactText, String.toList_ofList, ← laid_compact 0]
  exact read_laid_text .none bounded

theorem read_pretty {value : Json} (bounded : value.Bounded) :
    read? value.prettyText.toList = some value := by
  rw [prettyText, String.toList_ofList, ← laid_pretty 0]
  exact read_laid_text .lines bounded

end InjectionLab.Json
