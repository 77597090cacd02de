import InjectionLab.Proofs.Json.Document
import Mathlib.Data.String.Basic
import Mathlib.Data.List.Chain

/-!
Canonical documents. Putting the members of every object in name order makes a document canonical as
long as its integers fit 64 bits, and leaves a canonical document as it is.
-/
namespace InjectionLab.Json

/-! Members in name order -/

theorem in_order_pairwise (ms : List (String × Json)) :
    inOrder ms = true ↔ ms.Pairwise fun m n => m.1 < n.1 := by
  have transitive : IsTrans (String × Json) fun m n => m.1 < n.1 := ⟨fun _ _ _ => lt_trans⟩
  rw [← List.isChain_iff_pairwise]
  induction ms with
  | nil => simp [inOrder]
  | cons m ms ih =>
    cases ms with
    | nil => simp [inOrder]
    | cons n ms => simp only [inOrder, Bool.and_eq_true, decide_eq_true_eq, List.isChain_cons_cons, ih]

theorem canonical_members (ms : List (String × Json)) :
    canonicalMembers ms = true ↔ ∀ m ∈ ms, m.2.canonical = true := by
  induction ms with
  | nil => simp [canonicalMembers]
  | cons m ms ih => simp [canonicalMembers, ih]

theorem insert_last {name : String} (value : Json) {ms : List (String × Json)}
    (last : ∀ m ∈ ms, m.1 < name) : insertMember name value ms = ms ++ [(name, value)] := by
  induction ms with
  | nil => rfl
  | cons m ms ih =>
    have before := last m (by simp)
    rw [insertMember, if_neg (lt_asymm before), if_neg before.ne',
      ih fun n held => last n (List.mem_cons_of_mem m held), List.cons_append]

theorem insert_member {name : String} {value : Json} {ms : List (String × Json)}
    {m : String × Json} (held : m ∈ insertMember name value ms) : m = (name, value) ∨ m ∈ ms := by
  induction ms with
  | nil => exact Or.inl (List.mem_singleton.mp held)
  | cons n ms ih =>
    rw [insertMember] at held
    split_ifs at held with before same
    · exact List.mem_cons.mp held
    · exact (List.mem_cons.mp held).imp_right (List.mem_cons_of_mem n)
    · rcases List.mem_cons.mp held with rfl | later
      · exact Or.inr (by simp)
      · exact (ih later).imp_right (List.mem_cons_of_mem n)

theorem insert_in_order (name : String) (value : Json) {ms : List (String × Json)}
    (ordered : ms.Pairwise fun m n => m.1 < n.1) :
    (insertMember name value ms).Pairwise fun m n => m.1 < n.1 := by
  induction ms with
  | nil => exact List.pairwise_singleton _ _
  | cons n ms ih =>
    obtain ⟨least, rest⟩ := List.pairwise_cons.mp ordered
    rw [insertMember]
    split_ifs with before same
    · refine List.pairwise_cons.mpr ⟨fun m held => ?_, ordered⟩
      rcases List.mem_cons.mp held with rfl | later
      · exact before
      · exact before.trans (least m later)
    · exact List.pairwise_cons.mpr ⟨fun m later => same ▸ least m later, rest⟩
    · refine List.pairwise_cons.mpr ⟨fun m held => ?_, ih rest⟩
      rcases insert_member held with rfl | later
      · exact lt_of_le_of_ne (not_lt.mp before) (Ne.symm same)
      · exact least m later

/-! Canonical documents stay as they are -/

mutual
theorem canonical_sorted : ∀ value : Json, value.canonical = true → value.sorted = value
  | null, _ | bool _, _ | number _, _ | string _, _ => by simp only [sorted]
  | array xs, canonical => by
    rw [Json.canonical] at canonical
    rw [sorted, canonical_sorted_items xs canonical]
  | object ms, canonical => by
    rw [Json.canonical, Bool.and_eq_true, in_order_pairwise] at canonical
    rw [sorted, canonical_sorted_members ms [] canonical.2 canonical.1, List.nil_append]
theorem canonical_sorted_items : ∀ xs, canonicalItems xs = true → sortedItems xs = xs
  | [], _ => by rw [sortedItems]
  | x :: xs, canonical => by
    rw [canonicalItems, Bool.and_eq_true] at canonical
    rw [sortedItems, canonical_sorted x canonical.1, canonical_sorted_items xs canonical.2]
-- Each member comes after those already in place, so it is put behind them.
theorem canonical_sorted_members : ∀ ms done, canonicalMembers ms = true →
    ((done ++ ms).Pairwise fun m n => m.1 < n.1) → sortedMembers ms done = done ++ ms
  | [], done, _, _ => by rw [sortedMembers, List.append_nil]
  | (name, value) :: ms, done, canonical, ordered => by
    rw [canonicalMembers, Bool.and_eq_true] at canonical
    have last : ∀ m ∈ done, m.1 < name := fun m held =>
      (List.pairwise_append.mp ordered).2.2 m held (name, value) (by simp)
    rw [List.append_cons] at ordered
    rw [sortedMembers, canonical_sorted value canonical.1, insert_last value last,
      canonical_sorted_members ms _ canonical.2 ordered, ← List.append_cons]
end

theorem Value.of_json_canonical (value : Value) : Value.ofJson? value.json = some value := by
  obtain ⟨json, isCanonical⟩ := value
  simp only [Value.ofJson?, canonical_sorted json isCanonical, dif_pos isCanonical]

mutual
theorem canonical_bounded : ∀ value : Json, value.canonical = true → value.Bounded
  | null, _ | bool _, _ | string _, _ => by simp only [Bounded]
  | number n, canonical => by
    rw [Json.canonical] at canonical
    exact canonical
  | array xs, canonical => by
    rw [Json.canonical] at canonical
    exact canonical_bounded_items xs canonical
  | object ms, canonical => by
    rw [Json.canonical, Bool.and_eq_true] at canonical
    exact canonical_bounded_members ms canonical.2
theorem canonical_bounded_items : ∀ xs, canonicalItems xs = true → BoundedItems xs
  | [], _ => by rw [BoundedItems]; trivial
  | x :: xs, canonical => by
    rw [canonicalItems, Bool.and_eq_true] at canonical
    exact ⟨canonical_bounded x canonical.1, canonical_bounded_items xs canonical.2⟩
theorem canonical_bounded_members : ∀ ms, canonicalMembers ms = true → BoundedMembers ms
  | [], _ => by rw [BoundedMembers]; trivial
  | (_, v) :: ms, canonical => by
    rw [canonicalMembers, Bool.and_eq_true] at canonical
    exact ⟨canonical_bounded v canonical.1, canonical_bounded_members ms canonical.2⟩
end

/-! Every document has a canonical form -/

mutual
theorem sorted_canonical : ∀ value : Json, value.Bounded → value.sorted.canonical = true
  | null, _ | bool _, _ | string _, _ => by simp only [sorted, Json.canonical]
  | number n, bounded => by
    rw [Bounded] at bounded
    rw [sorted, Json.canonical, bounded]
    all_goals simp
  | array xs, bounded => by
    rw [Bounded] at bounded
    rw [sorted, Json.canonical, sorted_canonical_items xs bounded]
  | object ms, bounded => by
    rw [Bounded] at bounded
    obtain ⟨ordered, canonical⟩ :=
      sorted_canonical_members ms [] bounded List.Pairwise.nil (by simp)
    rw [sorted, Json.canonical, Bool.and_eq_true, in_order_pairwise, canonical_members]
    exact ⟨ordered, canonical⟩
theorem sorted_canonical_items : ∀ xs, BoundedItems xs → canonicalItems (sortedItems xs) = true
  | [], _ => by rw [sortedItems, canonicalItems]
  | x :: xs, bounded => by
    rw [sortedItems, canonicalItems, sorted_canonical x bounded.1,
      sorted_canonical_items xs bounded.2, Bool.true_and]
theorem sorted_canonical_members : ∀ ms done, BoundedMembers ms →
    (done.Pairwise fun m n => m.1 < n.1) → (∀ m ∈ done, m.2.canonical = true) →
    ((sortedMembers ms done).Pairwise fun m n => m.1 < n.1) ∧
      ∀ m ∈ sortedMembers ms done, m.2.canonical = true
  | [], done, _, ordered, canonical => by
    rw [sortedMembers]
    exact ⟨ordered, canonical⟩
  | (name, value) :: ms, done, bounded, ordered, canonical => by
    rw [sortedMembers]
    refine sorted_canonical_members ms _ bounded.2 (insert_in_order name _ ordered) fun m held => ?_
    rcases insert_member held with rfl | held
    · exact sorted_canonical value bounded.1
    · exact canonical m held
end

/-- A document whose integers fit 64 bits is never refused as a value. -/
theorem Value.of_json_bounded {json : Json} (bounded : json.Bounded) :
    Value.ofJson? json = some ⟨json.sorted, sorted_canonical json bounded⟩ :=
  dif_pos (sorted_canonical json bounded)

end InjectionLab.Json
