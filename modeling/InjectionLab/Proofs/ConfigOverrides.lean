import InjectionLab.Config.Load
import InjectionLab.Proofs.Text.Lines

/-!
Overrides applied one after the other. A call sets its log filter before it reads its output format,
so when the format is not known the call is reported and its filter stays. Of all the calls on one
configuration the last filter counts, whether its call failed or not, and the last known format.
-/
namespace InjectionLab
open Text

structure Overrides where
  logFilter : Option String
  output : Option String
deriving DecidableEq, Repr

namespace Overrides

def filter? (call : Overrides) : Option String :=
  call.logFilter.bind fun text => if Config.isBlankText text then none else some text

def format? (call : Overrides) : Option OutputFormat :=
  call.output.bind fun text => (OutputFormat.parse text).toOption

def error? (call : Overrides) : Option ConfigError :=
  call.output.bind fun text =>
    match OutputFormat.parse text with
    | .ok _ => none
    | .error e => some e

theorem blank_text_iff (text : String) : Config.isBlankText text = true ↔ Blank text.toList := by
  rw [Config.isBlankText, List.isEmpty_iff, trim_iff]
  constructor
  · rintro ⟨before, after, split, blank, blank', -⟩ c member
    rw [split, List.append_nil, List.mem_append] at member
    exact member.elim (blank c) (blank' c)
  · intro blank
    refine ⟨text.toList, [], by simp, blank, by simp [Blank], ?_⟩
    constructor <;> simp

theorem filter_none_iff {call : Overrides} :
    call.filter? = none ↔ ∀ text, call.logFilter = some text → Blank text.toList := by
  rw [filter?, Option.bind_eq_none_iff]
  simp [blank_text_iff]

theorem filter_given_iff {call : Overrides} {held given : String} :
    given = call.filter?.getD held ↔
      (∀ text, call.logFilter = some text → ¬ Blank text.toList → given = text) ∧
      ((∀ text, call.logFilter = some text → Blank text.toList) → given = held) := by
  unfold filter?
  cases call.logFilter with
  | none => simp
  | some text =>
    by_cases blank : Config.isBlankText text = true
    · simp [blank, (blank_text_iff text).mp blank]
    · have solid : ¬ Blank text.toList := fun all => blank ((blank_text_iff text).mpr all)
      simp [blank, solid]

theorem failed_unformatted {call : Overrides} (fails : call.error?.isSome) : call.format? = none := by
  unfold error? at fails
  unfold format?
  cases asked : call.output with
  | none => rfl
  | some text =>
    rw [asked, Option.bind_some] at fails
    rw [Option.bind_some]
    cases read : OutputFormat.parse text with
    | ok format => simp [read] at fails
    | error e => rfl

end Overrides

namespace Config
open Overrides

def override (c : Config) (call : Overrides) : Config × Option ConfigError :=
  c.applyOverrides call.logFilter call.output

def overrideAll (c : Config) (calls : List Overrides) : Config :=
  calls.foldl (fun c call => (c.override call).1) c

theorem filter_then_format (c : Config) (logFilter output : Option String) :
    c.applyOverrides logFilter output = (c.applyOverrides logFilter none).1.applyOverrides none output :=
  rfl

theorem filter_applied (c : Config) (call : Overrides) :
    (c.applyOverrides call.logFilter none).1 = { c with logFilter := call.filter?.getD c.logFilter } := by
  unfold applyOverrides filter?
  cases call.logFilter with
  | none => rfl
  | some text =>
    simp only [Option.bind_some]
    cases isBlankText text <;> rfl

theorem format_applied (c : Config) (call : Overrides) : c.applyOverrides none call.output =
    ({ c with output := call.format?.getD c.output }, call.error?) := by
  unfold applyOverrides format? error?
  cases call.output with
  | none => rfl
  | some text =>
    simp only [Option.bind_some]
    cases OutputFormat.parse text <;> rfl

theorem override_eq (c : Config) (call : Overrides) : c.override call =
    (⟨call.filter?.getD c.logFilter, c.logFormat, call.format?.getD c.output⟩, call.error?) := by
  rw [override, filter_then_format, filter_applied, format_applied]

theorem filter_kept_iff (c : Config) (call : Overrides) :
    { c with logFilter := call.filter?.getD c.logFilter } = c ↔
      ∀ text, call.logFilter = some text → Blank text.toList ∨ text = c.logFilter := by
  have held := @filter_given_iff call c.logFilter c.logFilter
  have same : { c with logFilter := call.filter?.getD c.logFilter } = c ↔
      c.logFilter = call.filter?.getD c.logFilter := by
    obtain ⟨logFilter, _, _⟩ := c
    simp [eq_comm]
  rw [same, held]
  constructor
  · rintro ⟨given, -⟩ text asked
    by_cases blank : Blank text.toList
    · exact Or.inl blank
    · exact Or.inr (given text asked blank).symm
  · intro each
    refine ⟨fun text asked solid => ?_, fun _ => rfl⟩
    exact ((each text asked).resolve_left solid).symm

theorem last_given {α β : Type} (given? : α → Option β) (x : α) (xs : List α) (start : β) :
    ((x :: xs).filterMap given?).getLast?.getD start =
      (xs.filterMap given?).getLast?.getD ((given? x).getD start) := by
  rw [List.filterMap_cons]
  cases given? x with
  | none => rfl
  | some y => rw [List.getLast?_cons, Option.getD_some, Option.getD_some]

theorem override_all_eq (c : Config) (calls : List Overrides) : c.overrideAll calls =
    ⟨(calls.filterMap filter?).getLast?.getD c.logFilter, c.logFormat,
      (calls.filterMap format?).getLast?.getD c.output⟩ := by
  unfold overrideAll
  induction calls generalizing c with
  | nil => rfl
  | cons call calls ih =>
    rw [List.foldl_cons, ih, override_eq, last_given, last_given]

theorem silent_left_out {α β : Type} {given? : α → Option β} {kept : α → Bool} {xs : List α}
    (silent : ∀ x ∈ xs, kept x = false → given? x = none) :
    (xs.filter kept).filterMap given? = xs.filterMap given? := by
  rw [List.filterMap_filter]
  apply List.filterMap_congr
  intro x member
  cases left : kept x with
  | false => simp [silent x member left]
  | true => simp

/-- A call that fails leaves its filter, unless that is blank, and nothing else. So it changes
    nothing if it gives no new filter, and calls that fail may be left out if none of them gives
    one. -/
theorem failed_override_keeps_filter (c : Config) :
    (∀ call e, (c.override call).2 = some e →
      (c.override call).1 = { c with logFilter := call.filter?.getD c.logFilter } ∧
      ((c.override call).1 = c ↔
        ∀ text, call.logFilter = some text → Blank text.toList ∨ text = c.logFilter)) ∧
    ∀ calls : List Overrides,
      c.overrideAll calls = ⟨(calls.filterMap filter?).getLast?.getD c.logFilter, c.logFormat,
        (calls.filterMap format?).getLast?.getD c.output⟩ ∧
      ((∀ call ∈ calls, call.error?.isSome →
          ∀ text, call.logFilter = some text → Blank text.toList) →
        c.overrideAll (calls.filter fun call => call.error?.isNone) = c.overrideAll calls) := by
  constructor
  · intro call e failed
    rw [override_eq] at failed ⊢
    have failed : call.error? = some e := failed
    have unformatted : call.format? = none := failed_unformatted (by simp [failed])
    rw [unformatted, Option.getD_none]
    exact ⟨rfl, filter_kept_iff c call⟩
  · intro calls
    refine ⟨override_all_eq c calls, fun unfiltered => ?_⟩
    rw [override_all_eq, override_all_eq, silent_left_out, silent_left_out]
    · intro call _ failed
      exact failed_unformatted (by simpa using failed)
    · intro call member failed
      exact filter_none_iff.mpr (unfiltered call member (by simpa using failed))

/-- Two of three calls fail, one with a filter of white space and one without a filter. -/
theorem failing_calls_left_out :
    let calls : List Overrides :=
      [⟨some "\t\u00a0", some "yaml"⟩, ⟨some "warn", some " JSON\n"⟩, ⟨none, some ""⟩]
    calls.map (fun call => call.error?.isSome) = [true, false, true] ∧
      default.overrideAll (calls.filter fun call => call.error?.isNone) =
        default.overrideAll calls ∧
      default.overrideAll calls = ⟨"warn", .pretty, .json⟩ := by
  intro calls
  have failing : calls.map (fun call => call.error?.isSome) = [true, false, true] := by
    decide +kernel
  obtain ⟨settled, unfiltered⟩ := (failed_override_keeps_filter default).2 calls
  refine ⟨failing, unfiltered ?_, settled.trans (by decide +kernel)⟩
  intro call member fails text given
  simp only [calls, List.mem_cons, List.not_mem_nil, or_false] at member
  rcases member with rfl | rfl | rfl
  · obtain rfl := Option.some.inj given
    exact (blank_text_iff _).mp (by decide +kernel)
  · cases (List.cons.inj (List.cons.inj failing).2).1.symm.trans fails
  · cases given

theorem unknown_format_with_filter :
    let call : Overrides := ⟨some "sqli_sim=trace", some "xml"⟩
    (default.override call).2 = some (.unknownOutput "xml") ∧
      (default.override call).1 = { default with logFilter := "sqli_sim=trace" } ∧
      (default.override call).1 ≠ default ∧
      default.overrideAll [call] ≠ default.overrideAll [] := by
  decide +kernel

end Config
end InjectionLab
