import InjectionLab.Config.Load
import InjectionLab.Proofs.Files
import InjectionLab.Proofs.Json.Record
import Mathlib

/-!
Configurations that were saved. The settings that are written are read again one by one, whatever
their layout, and the text is found where it was put. So a saved configuration is loaded as it was,
and saving what was loaded writes the same text.
-/
namespace InjectionLab.Config
open Json

/-! Text of settings -/

section Settings
variable (gap : Spacing) {name : String} {v : Json} {ms : List (String × Json)} {rest : List Char}

theorem setting_read (known : name ∈ columns) (bounded : v.Bounded) (ends : Number.EndsNumber rest) :
    readMember (Quoted.write name ++ ':' :: (gap.colon ++ (laid gap 1 v ++ rest))) =
      some ((name, v), rest) := by
  have starts := laid_starts gap 1 bounded rest
  have named := read_name_written true name gap.colon_blank starts
  have enough : (laid gap 1 v).length ≤ fuelFor (laid gap 1 v ++ rest) := by
    rw [fuelFor, List.length_append]
    omega
  have value := read_laid gap 1 v _ rest bounded enough ends
  have strict : columns.contains name = true := List.contains_iff_mem.mpr known
  simp only [readMember, named, strict, value, Option.map_some]

theorem settings_read (known : ∀ m ∈ ms, m.1 ∈ columns) (bounded : BoundedMembers ms) {fuel : Nat}
    (enough : (laidMembers gap 0 ms).length ≤ fuel) (rest : List Char) :
    Config.readMembers fuel (laidMembers gap 0 ms ++ rest) = some (ms, rest) := by
  induction ms generalizing fuel with
  | nil =>
    cases fuel with
    | zero => simp [laidMembers] at enough
    | succ fuel =>
      have closed : skipSpace (gap.line 0 ++ '\x7d' :: rest) = '\x7d' :: rest :=
        skip_blanks (gap.line_blank 0) (fun c first => by cases first; rfl)
      rw [laidMembers, List.append_assoc, List.singleton_append, Config.readMembers, closed]
      rfl
  | cons m ms ih =>
    obtain ⟨name, v⟩ := m
    cases fuel with
    | zero => simp [laidMembers] at enough
    | succ fuel =>
      have fewer : (laidMembers gap 0 ms).length ≤ fuel := by
        simp only [laidMembers, List.length_cons, List.length_append] at enough
        omega
      have others := ih (fun m member => known m (List.mem_cons_of_mem _ member)) bounded.2 fewer
      have first := setting_read gap (known _ List.mem_cons_self) bounded.1
        (members_end_number gap 0 ms rest)
      have skipped := skip_blanks (gap.line_blank 1) (quote_unblank name
        (':' :: (gap.colon ++ (laid gap 1 v ++ (laidMembers gap 0 ms ++ rest)))))
      have comma (text : List Char) : skipSpace (',' :: text) = ',' :: text := rfl
      simp only [laidMembers, List.cons_append, List.append_assoc]
      rw [Config.readMembers, comma]
      simp only [skipped, first, others, Option.map_some]

theorem object_read (known : ∀ m ∈ ms, m.1 ∈ columns) (bounded : BoundedMembers ms)
    {inside : List Char} (laidOut : laid gap 0 (object ms) = '\x7b' :: inside) :
    readObject inside = some (ms, []) := by
  cases ms with
  | nil =>
    obtain rfl : inside = ['\x7d'] := (List.cons.inj laidOut).2.symm
    rfl
  | cons m ms =>
    obtain ⟨name, v⟩ := m
    have others := fun m member => known m (List.mem_cons_of_mem _ member)
    have first := setting_read gap (known _ List.mem_cons_self) bounded.1
      (members_end_number gap 0 ms [])
    have enough : (laidMembers gap 0 ms).length ≤ fuelFor (laidMembers gap 0 ms) := Nat.le_succ _
    have further := settings_read gap others bounded.2 enough []
    have skipped := skip_blanks (gap.line_blank 1) (quote_unblank name
      (':' :: (gap.colon ++ (laid gap 1 v ++ laidMembers gap 0 ms))))
    simp only [laid, List.cons_append, List.append_assoc] at laidOut
    rw [List.append_nil] at first further
    -- A name begins with its quote, so the object is not taken for an empty one.
    obtain ⟨more, quoted⟩ : ∃ more, Quoted.write name ++
        ':' :: (gap.colon ++ (laid gap 1 v ++ laidMembers gap 0 ms)) = '"' :: more := ⟨_, rfl⟩
    rw [← (List.cons.inj laidOut).2, readObject, skipped, quoted]
    rw [quoted] at first
    simp [first, further]

theorem parse_laid (known : ∀ m ∈ ms, m.1 ∈ columns) (bounded : BoundedMembers ms) :
    parse? (String.ofList (laid gap 0 (object ms))) = ofJson? (object ms) := by
  have opened : ∃ inside, laid gap 0 (object ms) = '\x7b' :: inside := by
    cases ms <;> exact ⟨_, rfl⟩
  obtain ⟨inside, laidOut⟩ := opened
  have brace : skipSpace ('\x7b' :: inside) = '\x7b' :: inside := rfl
  rw [parse?, String.toList_ofList, laidOut, brace]
  simp only [object_read gap known bounded laidOut]
  rfl

end Settings

theorem config_of_document (c : Config) : ofJson? c.toJson = some c := by
  have fields : c.toJson.fields? columns = some _ := fields_of_members (by simp)
  have format : (choiceName? (.string c.logFormat.name)).bind LogFormat.ofName? =
      some c.logFormat := by cases c.logFormat <;> rfl
  have output : (choiceName? (.string c.output.name)).bind OutputFormat.ofName? =
      some c.output := by cases c.output <;> rfl
  simp [ofJson?, fields, orDefault, format, output, string?]

theorem parse_write (c : Config) : parse? c.write = some c := by
  have known : ∀ m ∈ [("log_filter", Json.string c.logFilter),
      ("log_format", .string c.logFormat.name), ("output", .string c.output.name)],
      m.1 ∈ columns := by simp [columns]
  have parsed := parse_laid .lines known ⟨trivial, trivial, trivial, trivial⟩
  rw [write, prettyText, ← laid_pretty, toJson, parsed, ← toJson, config_of_document]

/-- A configuration that was saved is loaded from that path as it was, whatever was there before.
    Saving what was loaded succeeds, writes the same text and leaves every place as it is. All
    this is in a tree of directories and of files that may be read and written. -/
theorem saved_config_reloaded {c : Config} {cwd : Location} {path : String} {t t' : FileTree}
    (saved : c.save cwd path t = .ok t') :
    fromFile (t'.read cwd) path = .ok c ∧
      ∀ reloaded, fromFile (t'.read cwd) path = .ok reloaded →
        ∃ again, reloaded.save cwd path t' = .ok again ∧
          (∃ text, (t'.read cwd).readText path = .ok text ∧
            (again.read cwd).readText path = .ok text) ∧
          ∀ place, again.find? place = t'.find? place := by
  have stored : t.save cwd path c.write.toUTF8 = .ok t' := by
    rw [save] at saved
    split at saved
    · rename_i written stored
      rw [stored, Except.ok.inj saved]
    · cases saved
  obtain ⟨read, again, stored', same⟩ := FileTree.saved_stays stored
  have text := FileView.text_read read
  have loaded : fromFile (t'.read cwd) path = .ok c := by
    simp only [fromFile, text, parse_write]
  refine ⟨loaded, ?_⟩
  intro reloaded loaded'
  obtain rfl : c = reloaded := Except.ok.inj (loaded.symm.trans loaded')
  refine ⟨again, ?_, ⟨c.write, text, FileView.text_read (FileTree.saved_stays stored').1⟩, same⟩
  rw [save, stored']

/-- A path that first makes a directory and then leaves it, to a file that is there already, and a
    filter full of marks. -/
theorem marked_filter_reloaded :
    let c : Config := ⟨"\"\\\n\x00\x1f, [*]=trace \u2028", .json, .table⟩
    let t : FileTree := ⟨[(["etc", "config.json"], .file "old".toUTF8), (["etc"], .directory)]⟩
    ∃ t', c.save [] "new/../etc//config.json" t = .ok t' ∧
      fromFile (t'.read []) "new/../etc//config.json" = .ok c := by
  intro c t
  have succeeds : (c.save [] "new/../etc//config.json" t).isOk = true := by decide +kernel
  cases saved : c.save [] "new/../etc//config.json" t with
  | error e =>
    rw [saved] at succeeds
    cases succeeds
  | ok t' => exact ⟨t', rfl, (saved_config_reloaded saved).1⟩

end InjectionLab.Config
