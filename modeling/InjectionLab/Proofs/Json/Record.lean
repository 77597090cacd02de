import InjectionLab.Json.Record
import InjectionLab.Proofs.Json.Document

/-!
Records read back. An object whose members have different names gives each of them as the field of
its name, and an integer of 64 bits is read from the number written for it.
-/
namespace InjectionLab.Json

/-! Fields -/

theorem named_absent {name : String} {ms : List (String × Json)} (absent : name ∉ ms.map Prod.fst) :
    named name ms = [] := by
  rw [named, List.map_eq_nil_iff, List.filter_eq_nil_iff]
  intro m member same
  exact absent (List.mem_map.mpr ⟨m, member, eq_of_beq same⟩)

theorem only_named_member {ms : List (String × Json)} (distinct : (ms.map Prod.fst).Nodup)
    {m : String × Json} (member : m ∈ ms) : onlyNamed ms m.1 = some (some m.2) := by
  have alone : named m.1 ms = [m.2] := by
    induction ms with
    | nil => cases member
    | cons first rest ih =>
      obtain ⟨apart, distinct⟩ := List.nodup_cons.mp distinct
      rcases List.mem_cons.mp member with rfl | later
      · rw [named, List.filter_cons_of_pos (by simp), List.map_cons, ← named, named_absent apart]
      · have other : first.1 ≠ m.1 := fun same => apart (same ▸ List.mem_map_of_mem later)
        rw [named, List.filter_cons_of_neg (by simpa using other), ← named, ih distinct later]
  rw [onlyNamed, alone]

theorem fields_of_members {ms : List (String × Json)} (distinct : (ms.map Prod.fst).Nodup) :
    (object ms).fields? (ms.map Prod.fst) = some (ms.map fun m => some m.2) := by
  have each (part : List (String × Json)) (held : part ⊆ ms) :
      (part.map Prod.fst).mapM (onlyNamed ms) = some (part.map fun m => some m.2) := by
    induction part with
    | nil => rfl
    | cons m part ih =>
      obtain ⟨member, rest⟩ := List.cons_subset.mp held
      simp [only_named_member distinct member, ih rest]
  exact each ms (List.Subset.refl ms)

theorem all_fields_of_members {ms : List (String × Json)} (distinct : (ms.map Prod.fst).Nodup) :
    (object ms).allFields? (ms.map Prod.fst) = some (ms.map Prod.snd) := by
  rw [allFields?, fields_of_members distinct, Option.bind_some]
  clear distinct
  induction ms with
  | nil => rfl
  | cons m ms ih => simp [ih]

/-! Values of fields -/

theorem int64_of_int64 (n : Int64) : (ofInt64 n).int64? = some n := by
  have held : Int64.minValue.toInt ≤ n.toInt ∧ n.toInt ≤ Int64.maxValue.toInt :=
    ⟨n.minValue_le_toInt, n.toInt_le⟩
  rw [int64?, signed?, ofInt64, int, integerIn?, if_pos held, Option.map_some, Int64.ofInt_toInt]

theorem int64_bounded (n : Int64) : (ofInt64 n).Bounded := by
  have least := n.minValue_le_toInt
  have most := n.toInt_lt
  rw [ofInt64, int, Bounded, Number.inRange, Bool.and_eq_true, decide_eq_true_eq,
    decide_eq_true_eq]
  refine ⟨least, ?_⟩
  simp only [UInt64.size]
  omega

theorem amount_bounded (amount : Amount) : (ofAmount amount).Bounded := by
  cases amount with
  | finite x =>
    rw [ofAmount, Bounded]
    rfl
  | infinite negative => trivial

theorem nat_bounded {n : Nat} (few : n < UInt64.size) : (int n).Bounded := by
  rw [int, Bounded, Number.inRange, Bool.and_eq_true, decide_eq_true_eq, decide_eq_true_eq]
  have least : Int64.minValue.toInt ≤ 0 := by decide
  exact ⟨Int.le_trans least (Int.natCast_nonneg n), Int.ofNat_lt.mpr few⟩

/-! Lists of documents -/

theorem bounded_items {xs : List Json} (each : ∀ x ∈ xs, x.Bounded) : BoundedItems xs := by
  induction xs with
  | nil => trivial
  | cons x xs ih =>
    exact ⟨each x List.mem_cons_self, ih fun y member => each y (List.mem_cons_of_mem x member)⟩

theorem bounded_members_append {ms more : List (String × Json)} (first : BoundedMembers ms)
    (second : BoundedMembers more) : BoundedMembers (ms ++ more) := by
  induction ms with
  | nil => exact second
  | cons m ms ih => exact ⟨first.1, ih first.2⟩

end InjectionLab.Json
