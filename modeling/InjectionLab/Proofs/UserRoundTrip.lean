import InjectionLab.Proofs.InsertText
import InjectionLab.Proofs.Lookup

/-!
A user that an INSERT adds is what a SELECT of the reported identifier returns from then on,
whatever texts its literals hold and whatever is run in between.
-/
namespace InjectionLab
open Text

def selectUserText (id : Nat) : String := "SELECT * FROM users WHERE id = " ++ toString id

section Text
variable (id : Nat)

theorem select_user_split : (selectUserText id).toList =
    "SELECT * FROM users WHERE id =".toList ++ ' ' :: Nat.toDigits 10 id := by
  have digits : (toString id).toList = Nat.toDigits 10 id := Nat.toList_repr
  have head : "SELECT * FROM users WHERE id = ".toList =
      "SELECT * FROM users WHERE id =".toList ++ [' '] := by decide +kernel
  calc (selectUserText id).toList
      = "SELECT * FROM users WHERE id = ".toList ++ (toString id).toList := String.toList_append
    _ = ("SELECT * FROM users WHERE id =".toList ++ [' ']) ++ Nat.toDigits 10 id :=
        congrArg₂ (· ++ ·) head digits
    _ = "SELECT * FROM users WHERE id =".toList ++ ' ' :: Nat.toDigits 10 id :=
        List.append_assoc _ _ _

theorem select_user_classified : classify (selectUserText id) = ⟨.select, some .users⟩ := by
  have starts : (selectUserText id).toList =
      Kind.select.name.toList.map Char.toUpper ++
        (" * FROM users WHERE id =".toList ++ ' ' :: Nat.toDigits 10 id) := by
    have head : "SELECT * FROM users WHERE id =".toList =
        Kind.select.name.toList.map Char.toUpper ++ " * FROM users WHERE id =".toList := by
      decide +kernel
    rw [select_user_split, head, List.append_assoc]
  have mention : Relation.users.MentionedIn "from" "SELECT * FROM users WHERE id =".toList :=
    (mentioned_iff_occurs (by decide)).mpr (by decide +kernel)
  refine classify_mentioned rfl starts ?_ ?_
  · rw [select_user_split]
    exact mentioned_infix mention (List.prefix_append _ _).isInfix
  · intro other earlier
    simp [Relation.all] at earlier

/-! No trigger -/

theorem digit_normalized {c : Char} (digit : c.isDigit = true) :
    (upperForm c).map singleQuote = [c] := by
  have code := Numeral.ascii_digit_code digit
  have small : c.toNat < 128 := by omega
  have upper : c.toUpper = c := by
    unfold Char.toUpper
    rw [dif_neg]
    simp only [UInt32.le_iff_toNat_le, Char.toNat_val]
    intro lower
    have low : 97 ≤ c.toNat := lower.1
    omega
  have unquoted : (c == '"') = false := by
    rw [beq_eq_false_iff_ne]
    rintro rfl
    simp at digit
  simp [upperForm, small, upper, singleQuote, unquoted]

theorem digits_normalized {digits : List Char} (plain : ∀ c ∈ digits, c.isDigit = true) :
    (uppercase digits).map singleQuote = digits := by
  induction digits with
  | nil => rfl
  | cons c digits ih =>
    have later := ih fun d member => plain d (by simp [member])
    simp only [uppercase, List.flatMap_cons, List.map_append] at later ⊢
    rw [digit_normalized (plain c (by simp)), later]
    rfl

theorem trigger_has_mark (trigger : Trigger) :
    ' ' ∉ trigger.text.toList ∧ (trigger.text.toList.any fun c => !c.isDigit) = true := by
  cases trigger <;> decide

theorem select_user_untriggered : detectInjection (selectUserText id) = none := by
  have plain := (Numeral.digits_of_natural id).1
  have text : normalized (selectUserText id) =
      "SELECT * FROM USERS WHERE ID =".toList ++ ' ' :: Nat.toDigits 10 id := by
    have front : (uppercase ("SELECT * FROM users WHERE id =".toList ++ [' '])).map singleQuote =
        "SELECT * FROM USERS WHERE ID =".toList ++ [' '] := by decide +kernel
    have digits := digits_normalized plain.2
    have pieces : (selectUserText id).toList =
      ("SELECT * FROM users WHERE id =".toList ++ [' ']) ++ Nat.toDigits 10 id := by
      rw [select_user_split, List.append_assoc, List.singleton_append]
    rw [normalized, pieces, uppercase, List.flatMap_append, List.map_append]
    rw [uppercase] at front digits
    rw [front, digits, List.append_assoc, List.singleton_append]
  -- No trigger holds a space, so one would stand before the number or be made of its digits.
  refine List.find?_eq_none.mpr fun trigger _ => ?_
  obtain ⟨unbroken, marked⟩ := trigger_has_mark trigger
  rw [Trigger.firesOn, Pattern.word_occurs_iff, text, infix_apart unbroken, not_or]
  constructor
  · cases trigger <;> decide +kernel
  · intro found
    obtain ⟨c, member, other⟩ := List.any_eq_true.mp marked
    simp [plain.2 c (found.subset member)] at other

/-! The identifier -/

theorem id_clause_read : Clause.idPattern.find? (selectUserText id).toList =
    some [Nat.toDigits 10 id] := by
  have plain := (Numeral.digits_of_natural id).1
  have digits : NumeralText false false (Nat.toDigits 10 id) :=
    ⟨[], _, [], by simp, Numeral.plain_digits plain, Or.inl rfl, Or.inl rfl⟩
  have fits : List.Forall₂ Piece.Fits Clause.idPattern
      [['i'], ['d'], [' '], ['='], [' '], Nat.toDigits 10 id] :=
    .cons ⟨'i', rfl, by decide⟩ (.cons ⟨'d', rfl, by decide⟩ (.cons one_blank (.cons rfl
      (.cons one_blank (.cons digits .nil)))))
  have reads := Pattern.reads_to_end (by decide) fits
  have read : Clause.idPattern.read? (['i', 'd', ' ', '='] ++ ' ' :: Nat.toDigits 10 id) =
      some [Nat.toDigits 10 id] := Pattern.read_iff.mpr ⟨_, [], by simp, reads, rfl⟩
  have head : "SELECT * FROM users WHERE id =".toList =
      "SELECT * FROM users WHERE ".toList ++ ['i', 'd', ' ', '='] := by decide +kernel
  -- No word before it has an i.
  have free : ("SELECT * FROM users WHERE ".toList.all fun c => sameLetter 'i' c == false) = true :=
    by decide +kernel
  have clear : ∀ c ∈ "SELECT * FROM users WHERE ".toList, sameLetter 'i' c = false := by
    simpa only [List.all_eq_true, beq_iff_eq] using free
  rw [select_user_split, head, List.append_assoc]
  exact (Pattern.find_behind clear _ _).trans (Pattern.find_of_read read)

end Text

theorem select_user_clauses {n : Nat} {id : Int64} (number : id.toInt = n) :
    Clause.ofUsers (selectUserText n) = [.id (some id)] := by
  have ⟨plain, value⟩ := Numeral.digits_of_natural n
  have read : Numeral.integer? (Nat.toDigits 10 n) = some id := by
    rw [Numeral.integer_denoted (.positive plain), value, Numeral.int64_some_iff, number]
  simp [Clause.ofUsers, Clause.id?, Clause.captured?, id_clause_read, read]

theorem select_user_rows {s : Store} (numbered : s.users.Numbered User.id) (now : Timestamp)
    {n : Nat} {id : Int64} (number : id.toInt = n) :
    (execute now (selectUserText n) s).outcome =
      .rows ((rowAt s.users.rows id).toList.map .user) := by
  have predicate : Clause.conjunction? [.id (some id)] = some (.idIs id) := rfl
  have found : Predicate.filter User.record (.idIs id) s.users.rows =
      (rowAt s.users.rows id).toList := by
    rw [← filter_by_id numbered]
    simp [Predicate.filter, Predicate.holds, User.record]
  simp only [execute, select_user_classified, selectUsers, select_user_untriggered,
    select_user_clauses number, selected, predicate, found]

theorem user_takes {u e p r : String} (username : Quotable u) (email : Quotable e)
    (password : Quotable p) (role : Quotable r) : Relation.users.Takes [u, e, p, r] :=
  .cons (quotable_fits username) (.cons (quotable_fits email) (.cons (quotable_fits password)
    (.cons (quotable_fits role) .nil)))

theorem user_inserted {u e p r : String} (takes : Relation.users.Takes [u, e, p, r])
    (now : Timestamp) (s : Store) :
    execute now (Relation.users.insertText [u, e, p, r]) s =
      insertedStep .users s.users.nextId (s.appendUser now ⟨u, e, p, r⟩) := by
  have target : classify (Relation.users.insertText [u, e, p, r]) = ⟨.insert, some .users⟩ := by
    refine insert_classified ((insert_mentions takes).mpr (Or.inl rfl)) ?_
    intro other earlier
    simp [Relation.all] at earlier
  have found := insert_found takes
  have found : UserValues.pattern.find? (Relation.users.insertText [u, e, p, r]).toList =
      some [u.toList, e.toList, p.toList, r.toList] := found
  simp only [execute, target, insertUser, userValues, found, String.ofList_toList]

theorem appended_user_found {before : Store} (reachable : before.Reachable) (now : Timestamp)
    (v : UserValues) (actions : List Action)
    (room : ((before.appendUser now v).after actions).users.rows.length < Int64.maxValue.toInt) :
    before.users.nextId.toInt = before.users.rows.length + 1 ∧
      rowAt ((before.appendUser now v).after actions).users.rows before.users.nextId =
        some ⟨before.users.nextId, v.username, v.email, v.password, v.role, now⟩ := by
  have kept := (rows_prefix_after (before.appendUser now v) actions).1
  have shorter := append_shorter kept
  have numbered := users_numbered reachable (by omega)
  exact ⟨numbered.next, appended_row_kept numbered kept⟩

/-- An INSERT of a user with any four texts that hold no quote gets one more than the number of
    users, and after any history that 64 bits can count the SELECT of that identifier returns this
    user alone. -/
theorem inserted_user_found {before : Store} (reachable : before.Reachable) {u e p r : String}
    (username : Quotable u) (email : Quotable e) (password : Quotable p) (role : Quotable r)
    (now : Timestamp) (actions : List Action)
    (room : ((execute now (Relation.users.insertText [u, e, p, r]) before).store.after
      actions).users.rows.length < Int64.maxValue.toInt) :
    let step := execute now (Relation.users.insertText [u, e, p, r]) before
    ∃ id : Int64, id.toInt = before.users.rows.length + 1 ∧
      step.outcome = .mutation ⟨id, 1⟩ ∧
      ∀ now', (execute now' (selectUserText (before.users.rows.length + 1))
        (step.store.after actions)).outcome = .rows [.user ⟨id, u, e, p, r, now⟩] := by
  intro step
  have inserted : step = insertedStep .users before.users.nextId
      (before.appendUser now ⟨u, e, p, r⟩) :=
    user_inserted (user_takes username email password role) now before
  have later : (step.store.after actions).Reachable :=
    reachable_after (reachable_execute reachable now _) actions
  have numbered := users_numbered later room
  change ((step.store.after actions).users.rows.length : Int) < _ at room
  clear_value step
  subst inserted
  obtain ⟨number, found⟩ := appended_user_found reachable now ⟨u, e, p, r⟩ actions room
  refine ⟨before.users.nextId, number, rfl, fun now' => ?_⟩
  rw [select_user_rows numbered now' number]
  exact congrArg (fun row => Outcome.rows (row.toList.map .user)) found

/-- Texts that imitate other statements, and a later history that aims at the same row. -/
theorem imitating_user_found :
    let text := Relation.users.insertText
      ["x) VALUES (1, 2, 3, 4)", "INTO products", "\" OR 1=1", "SELECT id = 1\n FROM orders"]
    let history := [Action.perform default text .run,
      .perform default "SELECT * FROM users WHERE id = 5" .get,
      .append default (.user ⟨"late", "l@x", "pw", "user"⟩)]
    let step := execute default text (.seeded default)
    ∃ id : Int64, id.toInt = 5 ∧ step.outcome = .mutation ⟨id, 1⟩ ∧
      (execute default (selectUserText 5) (step.store.after history)).outcome =
        .rows [.user ⟨id, "x) VALUES (1, 2, 3, 4)", "INTO products", "\" OR 1=1",
          "SELECT id = 1\n FROM orders", default⟩] := by
  intro text history step
  have fresh : (Store.seeded default).Reachable := ⟨_, [], Or.inr ⟨default, rfl⟩, rfl⟩
  have rows : (Store.seeded default).users.rows.length = 4 := by decide +kernel
  have later : (step.store.after history).users.rows.length = 7 := by decide +kernel
  have room : ((step.store.after history).users.rows.length : Int) < Int64.maxValue.toInt := by
    rw [later]
    decide
  obtain ⟨id, number, reported, found⟩ := inserted_user_found fresh (by decide +kernel)
    (by decide +kernel) (by decide +kernel) (by decide +kernel) default history room
  rw [rows] at number found
  exact ⟨id, number, reported, found default⟩

end InjectionLab
