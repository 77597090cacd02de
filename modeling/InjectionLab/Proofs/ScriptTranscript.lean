import InjectionLab.Proofs.Reports
import InjectionLab.Proofs.Text.Lines

/-!
What a script prints. Its lines give its statements, whatever stands around them, and the
statements alone settle the transcript: each is echoed and reported as it fares on the one store
that they share.
-/
namespace InjectionLab.Cli
open Text

/-! Scripts -/

/-- What a line holds: white space, a comment, or a statement that may be indented. -/
inductive Line : List Char → Option String → Prop
  | blank {text : List Char} (nothing : Blank text) : Line text none
  | comment {before rest : List Char} (indent : Blank before) :
      Line (before ++ '-' :: '-' :: rest) none
  | statement {before sql after : List Char} (indent : Blank before) (trailing : Blank after)
      (some : sql ≠ []) (unpadded : Unpadded sql) (plain : ¬ ['-', '-'] <+: sql) :
      Line (before ++ sql ++ after) (Option.some (String.ofList sql))

def Script (text : String) (sqls : List String) : Prop :=
  ∃ lines found, lines ≠ [] ∧ text.toList = ['\n'].intercalate lines ∧
    (∀ line ∈ lines, '\n' ∉ line) ∧ List.Forall₂ Line lines found ∧ sqls = found.reduceOption

def Supplies (around : Surroundings) (file : Option String) (text : String) : Prop :=
  match file with
  | none => around.stdin = text.toUTF8
  | some path => around.files.content path = .ok text.toUTF8

/-- The program is asked for a script of this text, and its settings come down to this medium. -/
def Asked (around : Surroundings) (arguments : List String) (medium : Medium) (text : String) :
    Prop :=
  ∃ file options c,
    Request.ofArguments (around.env Config.pathVariable) arguments =
      .command (.script file) options ∧
    Config.load around.files around.env options.config = .ok c ∧
    medium = ⟨options.format.getD c.output, usesColor around.env around.terminal⟩ ∧
    Supplies around file text

def Reported (now : Timestamp) (medium : Medium) (s : Store) (sql report : String) : Prop :=
  let outcome := (execute now sql s).outcome
  if (classify sql).kind = .insert then ChangeReported medium outcome.runResult report
  else RowsReported medium outcome.rowList report

inductive Printed (now : Timestamp) (medium : Medium) (s : Store) (sql : String) : String → Prop
  | document {report : String} (json : medium.format = .json)
      (reported : Reported now medium s sql report) : Printed now medium s sql report
  | table {report : String} (table : medium.format = .table)
      (reported : Reported now medium s sql report) :
      Printed now medium s sql (paint medium.inColor .cyan "→" ++ " " ++
        paint medium.inColor .brightWhite sql ++ "\n" ++ report)

inductive Transcript (now : Timestamp) (medium : Medium) : Store → List String → String → Prop
  | done {s : Store} : Transcript now medium s [] ""
  | statement {s : Store} {sql first : String} {sqls : List String} {rest : String}
      (printed : Printed now medium s sql first)
      (others : Transcript now medium (execute now sql s).store sqls rest) :
      Transcript now medium s (sql :: sqls) (first ++ rest)

def commandName (sql : String) : String :=
  if (classify sql).kind = .insert then "run" else "query"

def commandFor (sql : String) : Command :=
  if (classify sql).kind = .insert then .run sql else .query sql

def Operand (argument : String) : Prop := argument.toList.head? ≠ some '-'

structure Transcribed (text : String) (sqls : List String) : Prop where
  /-- The text holds these statements and no others. -/
  statements : ∀ other, Script text other ↔ other = sqls
  printed : ∀ around arguments medium, Asked around arguments medium text →
    ∃ out, run around arguments = succeed out ∧
      Transcript around.now medium (.seeded around.now) sqls out
  /-- What is not printed of an outcome is empty. -/
  nothing_hidden : ∀ sql ∈ sqls, ∀ now s, let step := execute now sql s
    if (classify sql).kind = .insert then step.outcome.rowList = []
    else step.outcome.runResult = .none ∧ step.store = s
  /-- Nothing but the statements of a script settles what is printed. -/
  layout_free : ∀ other, Script other sqls → ∀ around around' arguments arguments' medium,
    around.now = around'.now → Asked around arguments medium text →
    Asked around' arguments' medium other → run around arguments = run around' arguments'
  /-- A statement alone prints as JSON what its own command prints, with the same options. That is
      the report on it, if the configuration can be loaded. -/
  alone : ∀ sql, sqls = [sql] → ∀ around arguments arguments' options file,
    Supplies around file text →
    Request.ofArguments (around.env Config.pathVariable) arguments =
      .command (.script file) options →
    Request.ofArguments (around.env Config.pathVariable) arguments' =
      .command (commandFor sql) options →
    (∀ c, Config.load around.files around.env options.config = .ok c →
      options.format.getD c.output = .json) →
    run around arguments = run around arguments' ∧
      ∀ c, Config.load around.files around.env options.config = .ok c →
        ∃ out, run around arguments' = succeed out ∧
          Reported around.now ⟨.json, usesColor around.env around.terminal⟩ (.seeded around.now)
            sql out
  /-- And so it does if the format is chosen by an option. -/
  alone_by_option : ∀ sql, sqls = [sql] → Operand sql → ∀ around file, Supplies around file text →
    (∀ path ∈ file, path ≠ "" ∧ Operand path) →
    run around (["--format", "json", "script"] ++ file.toList) =
      run around ["--format", "json", commandName sql, sql]

/-! Lines -/

theorem comment_iff (text : List Char) : isComment text = true ↔ ['-', '-'] <+: text := by
  rw [isComment.eq_def]
  split
  · simp
  · rename_i other
    refine iff_of_false Bool.false_ne_true ?_
    rintro ⟨rest, rfl⟩
    exact other rest rfl

theorem comment_trimmed {before : List Char} (indent : Blank before) (rest : List Char) :
    isComment (trim (before ++ '-' :: '-' :: rest)) = true := by
  obtain ⟨after, closing, trailing, ends⟩ := blanks_after rest
  have trimmed : trim (before ++ '-' :: '-' :: rest) = '-' :: '-' :: trimEnd rest := by
    refine trim_iff.mpr ⟨before, after, ?_, indent, trailing, ?_, ?_⟩
    · rw [List.append_assoc, List.cons_append, List.cons_append, ← closing]
    · intro c first
      cases first
      decide
    · intro c last
      cases kept : trimEnd rest with
      | nil =>
        rw [kept] at last
        cases last
        decide
      | cons d more =>
        rw [kept, List.getLast?_cons_cons, List.getLast?_cons_cons] at last
        exact ends c (kept ▸ last)
  rw [trimmed, isComment]

theorem line_iff {text : List Char} {found : Option String} :
    Line text found ↔ lineStatement? text = found := by
  constructor
  · intro holds
    rw [lineStatement?]
    cases holds with
    | blank nothing =>
      have trimmed : trim text = [] := by
        refine trim_iff.mpr ⟨text, [], ?_, nothing, ?_, ?_, ?_⟩ <;> simp [Blank]
      rw [trimmed]
      rfl
    | comment indent => simp only [comment_trimmed indent, Bool.or_true, if_true]
    | @statement before sql after indent trailing some unpadded plain =>
      have trimmed : trim (before ++ sql ++ after) = sql :=
        trim_iff.mpr ⟨before, after, rfl, indent, trailing, unpadded⟩
      have shown : (sql.isEmpty || isComment sql) = false := by
        rw [Bool.or_eq_false_iff, List.isEmpty_eq_false_iff, ← Bool.not_eq_true, comment_iff]
        exact ⟨some, plain⟩
      simp only [trimmed, shown, Bool.false_eq_true, if_false]
  · rintro rfl
    obtain ⟨before, after, cut, indent, trailing, unpadded⟩ := trim_iff.mp (Eq.refl (trim text))
    rw [lineStatement?]
    split_ifs with passed
    · rw [Bool.or_eq_true, List.isEmpty_iff, comment_iff] at passed
      rcases passed with nothing | ⟨rest, marked⟩
      · rw [nothing, List.append_nil] at cut
        apply Line.blank
        intro c member
        rw [cut] at member
        exact (List.mem_append.mp member).elim (indent c) (trailing c)
      · rw [← marked, List.append_assoc] at cut
        rw [cut]
        exact Line.comment indent
    · rw [Bool.or_eq_true, List.isEmpty_iff, comment_iff, not_or] at passed
      generalize trim text = sql at *
      rw [cut]
      exact Line.statement indent trailing passed.1 unpadded passed.2

theorem lines_iff {lines : List (List Char)} {found : List (Option String)} :
    List.Forall₂ Line lines found ↔ found = lines.map lineStatement? := by
  constructor
  · intro holds
    induction holds with
    | nil => rfl
    | cons first rest ih => rw [List.map_cons, line_iff.mp first, ih]
  · rintro rfl
    induction lines with
    | nil => exact .nil
    | cons line rest ih => exact .cons (line_iff.mpr rfl) ih

theorem script_iff {text : String} {sqls : List String} :
    Script text sqls ↔ statements text = sqls := by
  rw [statements, split_at_eq]
  constructor
  · intro script
    obtain ⟨lines, found, some, joined, apart, holds, rfl⟩ := script
    rw [joined, List.splitOn_intercalate '\n' apart some, lines_iff.mp holds, List.reduceOption,
      List.filterMap_map]
    rfl
  · rintro rfl
    refine ⟨text.toList.splitOn '\n', _, List.splitOn_ne_nil '\n' _, ?_, ?_, lines_iff.mpr rfl, ?_⟩
    · rw [List.intercalate_splitOn]
    · intro line member
      exact separator_in_no_part member
    · rw [List.reduceOption, List.filterMap_map]
      rfl

/-! Transcripts -/

theorem outcome_reported (now : Timestamp) (medium : Medium) (s : Store) (sql : String) :
    Reported now medium s sql (outcomeReport medium sql (execute now sql s).outcome) := by
  rw [Reported, outcomeReport]
  cases (classify sql).kind with
  | insert => exact change_reported medium (changes_at_most_one now sql s)
  | select | unknown => exact rows_reported medium _

theorem outcome_printed (now : Timestamp) (medium : Medium) (s : Store) (sql : String) :
    Printed now medium s sql
      (echo medium sql ++ outcomeReport medium sql (execute now sql s).outcome) := by
  have reported := outcome_reported now medium s sql
  cases format : medium.format with
  | json =>
    rw [echo, format, String.empty_append]
    exact .document format reported
  | table =>
    rw [echo, format]
    exact .table format reported

theorem script_transcript (now : Timestamp) (medium : Medium) (s : Store) (sqls : List String) :
    Transcript now medium s sqls (scriptReport now medium s sqls) := by
  -- The induction is over the statements, with the store left general.
  induction sqls generalizing s with
  | nil => exact .done
  | cons sql rest ih => exact .statement (outcome_printed now medium s sql) (ih _)

theorem hidden_part (now : Timestamp) (sql : String) (s : Store) :
    if (classify sql).kind = .insert then (execute now sql s).outcome.rowList = []
    else (execute now sql s).outcome.runResult = .none ∧ (execute now sql s).store = s := by
  by_cases insert : ∃ r, classify sql = ⟨.insert, some r⟩
  · obtain ⟨r, insert⟩ := insert
    rw [execute_insert now s insert, insert, if_pos rfl]
    cases r.entry? sql <;> rfl
  · have read : ∀ r, classify sql ≠ ⟨.insert, some r⟩ := fun r other => insert ⟨r, other⟩
    obtain ⟨kept, rows, outcome⟩ := execute_read now s read
    split_ifs with kind
    · -- An INSERT on no relation has an outcome of rows, but there are none.
      have nowhere : classify sql = ⟨.insert, none⟩ := by
        generalize classify sql = c at kind read
        obtain ⟨_, relation⟩ := c
        obtain rfl := kind
        cases relation with
        | none => rfl
        | some r => exact absurd rfl (read r)
      rw [execute, nowhere]
      rfl
    · exact ⟨by rw [outcome, Outcome.runResult], kept⟩

/-! Runs of the program -/

theorem supplied_script {around : Surroundings} {file : Option String} {text : String}
    (supplied : Supplies around file text) (medium : Medium) :
    runCommand around medium (.script file) =
      succeed (scriptReport around.now medium (.seeded around.now) (statements text)) := by
  have ran : runCommand around medium (.script file) =
      runScript around.now medium text.toUTF8 := by
    cases file with
    | none => rw [runCommand, supplied]
    | some path =>
      rw [runCommand, runScriptFile, supplied]
  rw [ran, runScript, text_readable]
  rfl

theorem asked_script {around : Surroundings} {arguments : List String} {medium : Medium}
    {text : String} (asked : Asked around arguments medium text) :
    run around arguments =
      succeed (scriptReport around.now medium (.seeded around.now) (statements text)) := by
  obtain ⟨file, options, c, requested, loaded, rfl, supplied⟩ := asked
  rw [run, requested, runRequest, runConfigured, loaded]
  exact supplied_script supplied _

theorem command_printed (around : Surroundings) (medium : Medium) (sql : String) :
    runCommand around medium (commandFor sql) =
      succeed (outcomeReport medium sql (execute around.now sql (.seeded around.now)).outcome) := by
  rw [commandFor, outcomeReport]
  cases (classify sql).kind <;> rfl

theorem alone_printed {medium : Medium} (json : medium.format = .json) (around : Surroundings)
    (sql : String) : runCommand around medium (commandFor sql) =
      succeed (scriptReport around.now medium (.seeded around.now) [sql]) := by
  have silent : echo medium sql = "" := by rw [echo, json]
  have ended : scriptReport around.now medium
      (execute around.now sql (.seeded around.now)).store [] = "" := rfl
  rw [scriptReport, ended, String.append_empty, silent, String.empty_append, command_printed]

theorem alone_configured {around : Surroundings} {options : Options} {file : Option String}
    {text sql : String} (script : statements text = [sql]) (supplied : Supplies around file text)
    (json : ∀ c, Config.load around.files around.env options.config = .ok c →
      options.format.getD c.output = .json) :
    runConfigured around options (.script file) =
      runConfigured around options (commandFor sql) := by
  rw [runConfigured, runConfigured]
  cases loaded : Config.load around.files around.env options.config with
  | error cause => rfl
  | ok c =>
    have format := json c loaded
    show runCommand around _ (.script file) = runCommand around _ (commandFor sql)
    rw [supplied_script supplied, script, alone_printed format]

/-! Command lines -/

theorem operand_word {argument : String} (operand : Operand argument) :
    Word.ofArgument argument = .operand argument := by
  unfold Word.ofArgument
  split
  case h_4 => rfl
  all_goals
    rename_i dashes
    unfold Operand at operand
    rw [dashes] at operand
    exact absurd rfl operand

theorem json_request (envPath : Option OsString) {name : String} {operands : List String}
    {command : Command} (known : isCommand name = true)
    (word : Word.ofArgument name = .operand name) (topic : name ≠ "help")
    (tail : readTail name .none [] operands = .parts .none operands)
    (read : command? name operands = some command) :
    Request.ofArguments envPath (["--format", "json", name] ++ operands) =
      withVariable envPath ⟨none, some .json⟩ .none command := by
  have option : Word.ofArgument "--format" = .long "format" none := by decide
  have value : Word.ofArgument "json" = .operand "json" := by decide
  have set : Options.none.set? "format" "json" = some ⟨none, some .json⟩ := by decide
  have takes : takesValue "format" = true := by decide
  have asked : readArguments envPath ⟨none, some .json⟩ (name :: operands) =
      withVariable envPath ⟨none, some .json⟩ .none command := by
    simp only [readArguments, word, readCommand, if_neg topic, known, tail, read, Bool.not_true,
      Bool.false_eq_true, if_false]
  rw [Request.ofArguments, List.cons_append, List.cons_append, List.cons_append, List.nil_append,
    ← asked, readArguments]
  simp only [option]
  simp [takes, value, set]

theorem script_request (envPath : Option OsString) {file : Option String}
    (named : ∀ path ∈ file, path ≠ "" ∧ Operand path) :
    Request.ofArguments envPath (["--format", "json", "script"] ++ file.toList) =
      withVariable envPath ⟨none, some .json⟩ .none (.script file) := by
  apply json_request
  · decide
  · decide
  · decide
  · cases file with
    | none => rfl
    | some path =>
      obtain ⟨full, operand⟩ := named path rfl
      have taken : takesOperand "script" [] path = true := by simp [takesOperand, full]
      simp [readTail, operand_word operand, taken]
  · cases file with
    | none => rfl
    | some path => simp [command?, (named path rfl).1]

theorem statement_request (envPath : Option OsString) {sql : String} (operand : Operand sql) :
    Request.ofArguments envPath ["--format", "json", commandName sql, sql] =
      withVariable envPath ⟨none, some .json⟩ .none (commandFor sql) := by
  have taken {name : String} (other : name = "run" ∨ name = "query") :
      readTail name .none [] [sql] = .parts .none [sql] := by
    have takes : takesOperand name [] sql = true := by
      rcases other with rfl | rfl <;> rfl
    simp [readTail, operand_word operand, takes]
  rw [commandName, commandFor]
  split_ifs
  · exact json_request envPath (by decide) (by decide) (by decide) (taken (Or.inl rfl)) rfl
  · exact json_request envPath (by decide) (by decide) (by decide) (taken (Or.inr rfl)) rfl

theorem alone_by_option {around : Surroundings} {file : Option String} {text sql : String}
    (script : statements text = [sql]) (supplied : Supplies around file text)
    (operand : Operand sql) (named : ∀ path ∈ file, path ≠ "" ∧ Operand path) :
    run around (["--format", "json", "script"] ++ file.toList) =
      run around ["--format", "json", commandName sql, sql] := by
  rw [run, run, script_request _ named, statement_request _ operand, withVariable, withVariable]
  split_ifs
  · rfl
  · exact alone_configured script supplied fun _ _ => rfl

/-- Every text is the text of one script, and the statements of that settle what is printed. -/
theorem script_transcribed (text : String) : ∃ sqls, Transcribed text sqls := by
  refine ⟨statements text, ?_, ?_, ?_, ?_, ?_, ?_⟩
  · intro other
    rw [script_iff, eq_comm]
  · intro around arguments medium asked
    exact ⟨_, asked_script asked, script_transcript around.now medium _ _⟩
  · intro sql _ now s
    exact hidden_part now sql s
  · intro other same around around' arguments arguments' medium clock asked asked'
    rw [asked_script asked, asked_script asked', script_iff.mp same, clock]
  · intro sql script around arguments arguments' options file supplied requested requested' json
    rw [run, run, requested, requested']
    refine ⟨alone_configured script supplied json, ?_⟩
    intro c loaded
    have medium : (⟨options.format.getD c.output, usesColor around.env around.terminal⟩ : Medium) =
        ⟨.json, usesColor around.env around.terminal⟩ := by rw [json c loaded]
    refine ⟨_, ?_, outcome_reported around.now _ _ sql⟩
    rw [runRequest, runConfigured, loaded]
    dsimp only
    rw [medium, command_printed]
  · intro sql script operand around file supplied named
    exact alone_by_option script supplied operand named

/-- An indented INSERT with a comment above it, alone and before a statement that finds its row
    and one that finds none. A statement that finds a seeded row also in colour and as JSON. -/
theorem indented_script_transcribed :
    let insert := "INSERT INTO users VALUES ('eve', 'e', 'pw', 'user')"
    let alone : Surroundings :=
      { Surroundings.bare with stdin := ("-- note\r\n\r\n\t" ++ insert ++ "  ").toUTF8 }
    let text := "-- note\r\n\r\n\t" ++ insert ++ "  \nselect * from users where id = 5\n\n SELECT 1"
    let around : Surroundings := { Surroundings.bare with stdin := text.toUTF8 }
    let vivid : Surroundings :=
      { Surroundings.bare with
        env := fun name => if name = "CLICOLOR_FORCE" then some "1" else none
        stdin := "select * from users where id = 2".toUTF8 }
    let out := "→ " ++ insert ++ "\n✓ 1 row changed (lastInsertRowid: 5)\n" ++
      "→ select * from users where id = 5\n✓ 1 row(s):\n" ++
      "  #5 created_at=1970-01-01T00:00:00Z email=e password=pw role=user username=eve\n" ++
      "→ SELECT 1\nNo rows\n"
    run around ["script"] = succeed out ∧
      Transcript .epoch ⟨.table, false⟩ (.seeded .epoch)
        [insert, "select * from users where id = 5", "SELECT 1"] out ∧
      run alone ["--format", "json", "script"] = run alone ["--format", "json", "run", insert] ∧
      run alone ["--format", "json", "run", insert] =
        succeed "\x7b\n  \"lastInsertRowid\": 5,\n  \"changes\": 1\n\x7d\n" ∧
      run vivid ["script"] = succeed
        ("\x1b[36m→\x1b[0m \x1b[97mselect * from users where id = 2\x1b[0m\n" ++
          "\x1b[32m✓\x1b[0m 1 row(s):\n" ++
          "  \x1b[1;36m#2\x1b[0m \x1b[2mcreated_at=1970-01-01T00:00:00Z " ++
          "email=john@example.com password=password123 role=user username=john_doe\x1b[0m\n") ∧
      run vivid ["--format", "json", "script"] = succeed
        ("[\n  \x7b\n    \"id\": 2,\n    \"username\": \"john_doe\",\n" ++
          "    \"email\": \"john@example.com\",\n    \"password\": \"password123\",\n" ++
          "    \"role\": \"user\",\n    \"created_at\": \"1970-01-01T00:00:00Z\"\n  \x7d\n]\n") := by
  intro insert alone text around vivid out
  have shown : run around ["script"] = succeed out := by decide +kernel
  have single : statements ("-- note\r\n\r\n\t" ++ insert ++ "  ") = [insert] := by decide +kernel
  have three : statements text = [insert, "select * from users where id = 5", "SELECT 1"] := by
    decide +kernel
  refine ⟨shown, ?_, ?_, by decide +kernel, by decide +kernel, by decide +kernel⟩
  · obtain ⟨sqls, transcribed⟩ := script_transcribed text
    obtain rfl := (transcribed.statements _).mp (script_iff.mpr three)
    obtain ⟨found, ran, holds⟩ := transcribed.printed around ["script"] ⟨.table, false⟩
      ⟨none, ⟨none, none⟩, .default, by decide, rfl, rfl, rfl⟩
    have same : out = found := congrArg Response.stdout (shown.symm.trans ran)
    exact same ▸ holds
  · obtain ⟨sqls, transcribed⟩ := script_transcribed ("-- note\r\n\r\n\t" ++ insert ++ "  ")
    obtain rfl := (transcribed.statements _).mp (script_iff.mpr single)
    have name : commandName insert = "run" := by decide +kernel
    have operand : Operand insert := by
      unfold Operand
      decide
    have same := transcribed.alone_by_option insert rfl operand alone none rfl (by simp)
    rwa [name] at same

end InjectionLab.Cli
