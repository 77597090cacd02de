import InjectionLab.Predicate.Document
import InjectionLab.Proofs.Json.Canonical
import InjectionLab.Proofs.Json.Record

/-!
Predicates survive being written as text and read back: first as documents, by induction over the
predicate, and then as text, since the document of a predicate is one that can be read.
-/
namespace InjectionLab.Predicate

/-! Fields of a document -/

theorem strings_read (fields : List String) :
    (fields.map Json.string).mapM Json.string? = some fields := by
  induction fields with
  | nil => rfl
  | cons field fields ih => simp [Json.string?, ih]

theorem comparison_read (make : String → Json.Value → Predicate) (field : String)
    (value : Json.Value) :
    comparison? make (.array [.string field, value.json]) = some (make field value) := by
  rw [comparison?, Json.Value.of_json_canonical, Option.map_some]

theorem comparison_accepts (make : String → Json.Value → Predicate) (field : String) {json : Json}
    (bounded : json.Bounded) : comparison? make (.array [.string field, json]) =
      some (make field ⟨json.sorted, Json.sorted_canonical json bounded⟩) := by
  rw [comparison?, Json.Value.of_json_bounded bounded, Option.map_some]

/-! Documents -/

mutual
theorem of_json_to_json : ∀ p : Predicate, ofJson? p.toJson = some p
  | idIs id => by rw [toJson, ofJson?, Json.int64_of_int64, Option.map_some]
  | equals field value => by rw [toJson, ofJson?, comparison_read]
  | atLeast field value => by rw [toJson, ofJson?, comparison_read]
  | atMost field value => by rw [toJson, ofJson?, comparison_read]
  | contains fields part => by
    rw [toJson, ofJson?, contains?, strings_read, Option.map_some]
  | allOf parts => by rw [toJson, ofJson?, parts_of_json_to_json parts, Option.map_some]
  | always => by rw [toJson, ofJson?]
  | never => by rw [toJson, ofJson?]
theorem parts_of_json_to_json : ∀ parts : List Predicate,
    partsOfJson? (partsToJson parts) = some parts
  | [] => by rw [partsToJson, partsOfJson?]
  | p :: ps => by
    rw [partsToJson, partsOfJson?, of_json_to_json p]
    simp only [parts_of_json_to_json ps, Option.map_some]
end

theorem strings_bounded (fields : List String) :
    Json.BoundedItems (fields.map Json.string) := by
  induction fields with
  | nil => trivial
  | cons field fields ih => exact ⟨trivial, ih⟩

mutual
theorem to_json_bounded : ∀ p : Predicate, p.toJson.Bounded
  | idIs id => by
    rw [toJson]
    exact ⟨Json.int64_bounded id, trivial⟩
  | equals _ value | atLeast _ value | atMost _ value => by
    rw [toJson]
    exact ⟨⟨trivial, Json.canonical_bounded value.json value.isCanonical, trivial⟩, trivial⟩
  | contains fields part => by
    rw [toJson]
    exact ⟨⟨strings_bounded fields, trivial, trivial⟩, trivial⟩
  | allOf parts => by
    rw [toJson]
    exact ⟨parts_to_json_bounded parts, trivial⟩
  | always | never => by
    rw [toJson]
    trivial
theorem parts_to_json_bounded : ∀ parts, Json.BoundedItems (partsToJson parts)
  | [] => by
    rw [partsToJson]
    trivial
  | p :: ps => by
    rw [partsToJson]
    exact ⟨to_json_bounded p, parts_to_json_bounded ps⟩
end

/-! Text -/

def ofText? (text : String) : Option Predicate := (Json.read? text.toList).bind ofJson?

theorem of_text_compact (p : Predicate) : ofText? p.toJson.compactText = some p := by
  rw [ofText?, Json.read_compact (to_json_bounded p), Option.bind_some, of_json_to_json]

theorem of_text_pretty (p : Predicate) : ofText? p.toJson.prettyText = some p := by
  rw [ofText?, Json.read_pretty (to_json_bounded p), Option.bind_some, of_json_to_json]

theorem of_json_spelled_out : ofJson? (.object [("All", .null)]) = some always ∧
    ofJson? (.object [("None", .null)]) = some never := by
  simp [ofJson?]

/-- Any predicate is read back from its text, whichever way the text is laid out; its numbers are
    read exactly. A document taken for a predicate need not be the one written for it, but from
    there on neither the predicate nor its text changes. A comparison takes any value whose
    integers fit 64 bits, and puts the members of its objects in order. -/
theorem predicate_round_trip :
    (∀ p : Predicate,
      ofText? p.toJson.compactText = some p ∧ ofText? p.toJson.prettyText = some p) ∧
    (∀ (json : Json) (p : Predicate), ofJson? json = some p →
      ofText? p.toJson.compactText = some p ∧
      (ofText? p.toJson.compactText).map (fun q => q.toJson.compactText) =
        some p.toJson.compactText) ∧
    ofJson? (.object [("All", .null)]) = some always ∧
    ofJson? (.object [("None", .null)]) = some never ∧
    ∀ (field : String) (json : Json), json.Bounded →
      ∃ value : Json.Value, value.json = json.sorted ∧
        ofJson? (.object [("Eq", .array [.string field, json])]) = some (equals field value) ∧
        ofJson? (.object [("Gte", .array [.string field, json])]) = some (atLeast field value) ∧
        ofJson? (.object [("Lte", .array [.string field, json])]) = some (atMost field value) := by
  refine ⟨fun p => ⟨of_text_compact p, of_text_pretty p⟩, fun _ p _ => ?_, of_json_spelled_out.1,
    of_json_spelled_out.2, fun field json bounded => ?_⟩
  · refine ⟨of_text_compact p, ?_⟩
    rw [of_text_compact, Option.map_some]
  · refine ⟨⟨json.sorted, Json.sorted_canonical json bounded⟩, rfl, ?_⟩
    simp only [ofJson?, comparison_accepts _ field bounded, and_self]

/-- Members out of order and a form spelled out: the document changes on the way, once. -/
theorem spelled_out_round_trip :
    let json := Json.object [("And", .array [.object [("All", .null)],
      .object [("Eq", .array [.string "name", .object [("b", .int 1), ("a", .string "\n")]])]])]
    let p := allOf [always, equals "name" ⟨.object [("a", .string "\n"), ("b", .int 1)], rfl⟩]
    ofJson? json = some p ∧ ofText? p.toJson.compactText = some p ∧
      (ofText? p.toJson.compactText).map (fun q => q.toJson.compactText) =
        some p.toJson.compactText := by
  intro json p
  have taken : ofJson? json = some p := by rfl
  exact ⟨taken, predicate_round_trip.2.1 json p taken⟩

end InjectionLab.Predicate
