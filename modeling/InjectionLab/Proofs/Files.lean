import InjectionLab.Files
import Mathlib

/-!
Files that were written. What is made or written leaves every directory one, so a way through the
tree stays one. A file that was saved is read at its path, and saving it again changes nothing.
-/
namespace InjectionLab

theorem text_decoded (text : String) : String.fromUTF8? text.toUTF8 = some text := by
  rw [String.fromUTF8?, String.toUTF8_eq_toByteArray, dif_pos text.isValidUTF8]
  rfl

theorem OsString.text_of_text (text : String) : (ofText text).text? = some text := text_decoded text

theorem FileView.text_read {view : FileView} {path : OsString} {text : String}
    (read : view.content path = .ok text.toUTF8) : view.readText path = .ok text := by
  simp only [readText, read, text_decoded]

namespace FileTree

variable {t t' : FileTree} {here place : Location} {way before : List String} {name : String}

/-! Nodes -/

theorem find_put {node : Node} (below : place ≠ []) (other : Location) :
    (t.put place node).find? other = if other = place then some node else t.find? other := by
  by_cases root : other = []
  · have apart : other ≠ place := fun same => below (same ▸ root)
    rw [if_neg apart, find?, find?, if_pos root, if_pos root]
  · rw [find?, find?, if_neg root, if_neg root, put, List.lookup_cons]
    by_cases same : other = place
    · simp [same]
    · simp [same, beq_false_of_ne same]

def KeepsDirectories (t t' : FileTree) : Prop :=
  ∀ place, t.find? place = some .directory → t'.find? place = some .directory

theorem keeps_refl (t : FileTree) : t.KeepsDirectories t := fun _ held => held

theorem KeepsDirectories.trans {t'' : FileTree} (first : t.KeepsDirectories t')
    (second : t'.KeepsDirectories t'') : t.KeepsDirectories t'' :=
  fun place held => second place (first place held)

theorem put_keeps (node : Node) (below : place ≠ []) (free : t.find? place ≠ some .directory) :
    t.KeepsDirectories (t.put place node) := by
  intro other held
  have apart : other ≠ place := fun same => free (same ▸ held)
  rw [find_put below, if_neg apart, held]

/-! Ways -/

structure Names (step : String) : Prop where
  leaves : stays step = false
  down : step ≠ ".."
  short : tooLong step = false

theorem follow_append (t : FileTree) (here : Location) (way more : List String) :
    t.follow here (way ++ more) = (t.follow here way).bind fun place => t.follow place more := by
  induction way generalizing here with
  | nil => rfl
  | cons step rest ih =>
    rw [List.cons_append, follow, follow]
    cases t.find? here with
    | none => rfl
    | some node =>
      cases node with
      | file content => rfl
      | directory =>
        simp only [ih]
        split_ifs <;> rfl

theorem way_starts {step : String} (led : t.follow here (step :: way) = .ok place) :
    t.find? here = some .directory := by
  unfold follow at led
  cases found : t.find? here with
  | none => simp [found] at led
  | some node =>
    cases node with
    | file content => simp [found] at led
    | directory => rfl

theorem follow_kept (kept : t.KeepsDirectories t') (led : t.follow here way = .ok place) :
    t'.follow here way = .ok place := by
  induction way generalizing here with
  | nil => exact led
  | cons step rest ih =>
    have directory := way_starts led
    rw [follow, directory] at led
    rw [follow, kept here directory]
    simp only at led ⊢
    split_ifs at led ⊢
    · exact ih led
    · exact ih led
    · exact ih led

theorem follow_named (names : Names name) (directory : t.find? here = some .directory) :
    t.follow here [name] = .ok (here ++ [name]) := by
  rw [follow, directory]
  simp [names.leaves, names.down, names.short, follow]

theorem enter_iff :
    t.enter here way = .ok place ↔
      t.follow here way = .ok place ∧ t.find? place = some .directory := by
  rw [enter, follow_append]
  cases t.follow here way with
  | error e => simp [Except.bind]
  | ok led =>
    have stay : stays "." = true := by decide
    rw [Except.bind, Except.ok.injEq]
    constructor
    · intro entered
      have directory := way_starts entered
      rw [follow, directory] at entered
      simp only [stay, if_true, follow, Except.ok.injEq] at entered
      exact ⟨entered, entered ▸ directory⟩
    · intro reached
      obtain ⟨rfl, directory⟩ := reached
      simp [directory, stay, follow]

theorem enter_kept (kept : t.KeepsDirectories t') (entered : t.enter here way = .ok place) :
    t'.enter here way = .ok place :=
  follow_kept kept entered

theorem enter_last (entered : t.enter here (before ++ [name]) = .ok place) :
    ∃ parent, t.enter here before = .ok parent ∧ t.follow parent [name] = .ok place := by
  obtain ⟨followed, _⟩ := enter_iff.mp entered
  rw [follow_append] at followed
  cases led : t.follow here before with
  | error e =>
    rw [led] at followed
    cases followed
  | ok parent =>
    rw [led, Except.bind] at followed
    exact ⟨parent, enter_iff.mpr ⟨led, way_starts followed⟩, followed⟩

/-! Directories on the way -/

theorem directory_made (moves : stays name = false)
    (made : t.makeDirectory here (before ++ [name]) = .ok t') :
    t.KeepsDirectories t' ∧ ∃ place, t'.enter here (before ++ [name]) = .ok place := by
  rw [makeDirectory, List.getLast?_concat, List.dropLast_concat] at made
  cases entered : t.enter here before with
  | error e => simp [entered] at made
  | ok parent =>
    simp only [entered] at made
    split_ifs at made with up long
    cases found : t.find? (parent ++ [name]) with
    | some node => simp [found] at made
    | none =>
      simp only [found, Except.ok.injEq] at made
      subst made
      have below : parent ++ [name] ≠ [] := by simp
      have kept : t.KeepsDirectories (t.put (parent ++ [name]) .directory) :=
        put_keeps .directory below (by simp [found])
      have names : Names name := ⟨moves, up, by simpa using long⟩
      obtain ⟨followed, directory⟩ := enter_iff.mp (enter_kept kept entered)
      refine ⟨kept, parent ++ [name], enter_iff.mpr ⟨?_, ?_⟩⟩
      · rw [follow_append, followed, Except.bind, follow_named names directory]
      · rw [find_put below, if_pos rfl]

theorem directory_there (moves : stays name = false)
    (entered : t.enter here (before ++ [name]) = .ok place) :
    t.makeDirectory here (before ++ [name]) = .error .alreadyExists := by
  obtain ⟨_, there⟩ := enter_iff.mp entered
  obtain ⟨parent, inside, step⟩ := enter_last entered
  obtain ⟨_, directory⟩ := enter_iff.mp inside
  rw [makeDirectory, List.getLast?_concat, List.dropLast_concat]
  simp only [inside]
  by_cases up : name = ".."
  · rw [if_pos up]
  rw [if_neg up]
  rw [follow, directory] at step
  simp only [moves, up, Bool.false_eq_true, if_false] at step
  split_ifs at step with long
  rw [follow, Except.ok.injEq] at step
  rw [if_neg long, step, there]

theorem present_entered {result : Except FileError FileTree}
    (made : ∀ made, result = .ok made →
      t.KeepsDirectories made ∧ ∃ place, made.enter here way = .ok place)
    (present : t.orPresent here way result = .ok t') :
    t.KeepsDirectories t' ∧ ∃ place, t'.enter here way = .ok place := by
  cases result with
  | ok after =>
    rw [orPresent, Except.ok.injEq] at present
    exact present ▸ made after rfl
  | error e =>
    rw [orPresent] at present
    cases entered : t.enter here way with
    | error e => simp [entered] at present
    | ok place =>
      simp only [entered, Except.ok.injEq] at present
      subst present
      exact ⟨keeps_refl t, place, entered⟩

theorem directories_made {steps : List String} (moves : ∀ step ∈ steps, stays step = false)
    (made : t.makeDirectories here steps = .ok t') :
    t.KeepsDirectories t' ∧ (steps = [] ∨ ∃ place, t'.enter here steps.reverse = .ok place) := by
  -- The induction is over the steps, the last one first.
  induction steps generalizing t t' with
  | nil =>
    rw [makeDirectories, Except.ok.injEq] at made
    exact ⟨made ▸ keeps_refl t, Or.inl rfl⟩
  | cons name before ih =>
    have last := moves name (List.mem_cons_self)
    have earlier := fun step member => moves step (List.mem_cons_of_mem name member)
    have each {s : FileTree} : ∀ made, s.makeDirectory here (name :: before).reverse = .ok made →
        s.KeepsDirectories made ∧ ∃ place, made.enter here (name :: before).reverse = .ok place := by
      intro made ok
      rw [List.reverse_cons] at ok ⊢
      exact directory_made last ok
    rw [makeDirectories] at made
    split at made
    · split at made
      · cases made
      · rename_i between ok
        obtain ⟨kept, _⟩ := ih earlier ok
        obtain ⟨kept', entered⟩ := present_entered each made
        exact ⟨kept.trans kept', Or.inr entered⟩
    · obtain ⟨kept, entered⟩ := present_entered each made
      exact ⟨kept, Or.inr entered⟩

theorem directories_there {steps : List String} (moves : ∀ step ∈ steps, stays step = false)
    (entered : steps = [] ∨ ∃ place, t.enter here steps.reverse = .ok place) :
    t.makeDirectories here steps = .ok t := by
  cases steps with
  | nil => rfl
  | cons name before =>
    obtain ⟨place, entered⟩ := entered.resolve_left (List.cons_ne_nil name before)
    have there := entered
    rw [List.reverse_cons] at there
    rw [makeDirectories, List.reverse_cons,
      directory_there (moves name List.mem_cons_self) there]
    simp only [orPresent, there]

theorem parent_steps_move (way : List String) : ∀ step ∈ parentSteps way, stays step = false := by
  intro step member
  have kept := List.mem_reverse.mp (List.mem_of_mem_drop member)
  simpa using (List.mem_filter.mp kept).2

/-! Files -/

/-- The path leads to this name in a directory that is there. -/
structure Leads (t : FileTree) (cwd : Location) (path : String) (parent : Location) (name : String) :
    Prop where
  accepted : refused? path = none
  names : Names name
  way : ∃ here before, start cwd path = (here, before ++ [name]) ∧ t.enter here before = .ok parent

section Paths
variable {cwd parent : Location} {path : String} {content : ByteArray}

theorem Leads.kept (leads : t.Leads cwd path parent name) (kept : t.KeepsDirectories t') :
    t'.Leads cwd path parent name := by
  obtain ⟨accepted, names, here, before, way, entered⟩ := leads
  exact ⟨accepted, names, here, before, way, enter_kept kept entered⟩

theorem content_of_file (node : t.nodeAt cwd path = .ok (.file content)) :
    (t.read cwd).content path = .ok content := by
  simp only [read, nodeAtPath, OsString.text_of_text, node]

theorem read_led (leads : t.Leads cwd path parent name)
    (file : t.find? (parent ++ [name]) = some (.file content)) :
    (t.read cwd).content path = .ok content := by
  obtain ⟨accepted, names, here, before, way, entered⟩ := leads
  obtain ⟨followed, directory⟩ := enter_iff.mp entered
  have led : t.follow here (before ++ [name]) = .ok (parent ++ [name]) := by
    rw [follow_append, followed, Except.bind, follow_named names directory]
  exact content_of_file (by simp only [nodeAt, accepted, way, led, file])

theorem bare_way (named : name ≠ "") :
    (((before ++ [name]).reverse).dropWhile (· == "")).reverse = before ++ [name] := by
  rw [List.reverse_append, List.reverse_singleton, List.singleton_append,
    List.dropWhile_cons_of_neg (by simpa using named), List.reverse_cons, List.reverse_reverse]

theorem write_led (content : ByteArray) (leads : t.Leads cwd path parent name)
    (free : t.find? (parent ++ [name]) ≠ some .directory) :
    t.write cwd path content = .ok (t.put (parent ++ [name]) (.file content)) := by
  obtain ⟨accepted, names, here, before, way, entered⟩ := leads
  have named : name ≠ "" := by
    rintro rfl
    exact Bool.noConfusion names.leaves
  have slash : endsInSlash (before ++ [name]) = false := by
    rw [endsInSlash, List.getLast?_concat]
    simpa using named
  simp only [write, accepted, way, bare_way named, List.dropLast_concat, List.getLast?_concat,
    Option.getD_some, entered, slash, names.leaves, names.down, names.short, Bool.or_self,
    Bool.false_eq_true, decide_false, if_false]

theorem written_led (written : t.write cwd path content = .ok t') :
    ∃ parent name, t.Leads cwd path parent name ∧
      t.find? (parent ++ [name]) ≠ some .directory ∧
        t' = t.put (parent ++ [name]) (.file content) := by
  rw [write] at written
  cases accepted : refused? path with
  | some e => simp [accepted] at written
  | none =>
    cases begun : start cwd path with
    | mk here way =>
      simp only [accepted, begun] at written
      rcases List.eq_nil_or_concat' way with rfl | ⟨before, name, rfl⟩
      · have nowhere : stays "." = true := by decide
        cases entered : t.enter here [] with
        | error e => simp [entered] at written
        | ok parent => simp [entered, nowhere] at written
      by_cases named : name = ""
      · have slash : endsInSlash (before ++ [name]) = true := by
          rw [endsInSlash, List.getLast?_concat, named]
          rfl
        simp only [slash, Bool.true_or, if_true] at written
        split at written <;> cases written
      simp only [bare_way named, List.dropLast_concat, List.getLast?_concat,
        Option.getD_some] at written
      cases entered : t.enter here before with
      | error e => simp [entered] at written
      | ok parent =>
        simp only [entered] at written
        split_ifs at written with moves long
        simp only [Bool.or_eq_true, decide_eq_true_eq, not_or, Bool.not_eq_true] at moves long
        split at written
        · cases written
        · rename_i free
          refine ⟨parent, name, ⟨accepted, ⟨moves.1.2, moves.2, long⟩, here, before, begun, entered⟩,
            free, ?_⟩
          exact (Except.ok.inj written).symm

/-- A saved file is read at its path. Saving it again leaves everything as it is. -/
theorem saved_stays (saved : t.save cwd path content = .ok t') :
    (t'.read cwd).content path = .ok content ∧
      ∃ again, t'.save cwd path content = .ok again ∧
        ∀ place, again.find? place = t'.find? place := by
  cases begun : start cwd path with
  | mk here way =>
    have moves := parent_steps_move way
    simp only [save, begun] at saved ⊢
    split_ifs at saved ⊢ with nul
    cases made : t.makeDirectories here (parentSteps way) with
    | error e => simp [made] at saved
    | ok between =>
      simp only [made] at saved
      obtain ⟨_, ready⟩ := directories_made moves made
      obtain ⟨parent, name, leads, free, rfl⟩ := written_led saved
      have below : parent ++ [name] ≠ [] := by simp
      have kept := put_keeps (.file content) below free
      have led := leads.kept kept
      have file : (between.put (parent ++ [name]) (.file content)).find? (parent ++ [name]) =
          some (.file content) := by
        rw [find_put below, if_pos rfl]
      have there := directories_there moves (ready.imp_right fun ⟨place, entered⟩ =>
        ⟨place, enter_kept kept entered⟩)
      have again := write_led content led (by simp [file])
      rw [there]
      refine ⟨read_led led file, _, again, ?_⟩
      intro place
      rw [find_put below]
      split_ifs with same
      · rw [same, file]
      · rfl

end Paths

end FileTree
end InjectionLab
