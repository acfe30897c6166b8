import ImageVerification.Api.Endpoint

/-! The endpoints that paths lead to. -/

namespace ImageVerification.Endpoint

/-- What may stand for a request id in a path. -/
def IsSegment (id : List Char) : Prop := id ≠ [] ∧ '/' ∉ id

/-- A path leads to an endpoint. -/
inductive Leads : List Char → Endpoint → Prop where
  | verify : Leads "/verify".toList verify
  | result {id : List Char} (segment : IsSegment id) : Leads ("/result/".toList ++ id) (result id)
  | duplicates {id : List Char} (segment : IsSegment id)
      : Leads ("/duplicates/".toList ++ id) (duplicates id)
  | metrics : Leads "/metrics/summary".toList metrics
  | health : Leads "/health".toList health
  | ready : Leads "/ready".toList ready
  | document : Leads "/api-docs/openapi.json".toList document

/-- What follows a start is one segment of a path if it is not empty and has no slash. -/
theorem segmentAfter?_eq_some_iff {start path id : List Char}
    : segmentAfter? start path = some id ↔ path = start ++ id ∧ IsSegment id := by
  simp only [segmentAfter?, Option.ite_none_right_eq_some, Option.some.injEq, Bool.and_eq_true,
    List.isPrefixOf_iff_prefix, Bool.not_eq_true', List.isEmpty_eq_false_iff, IsSegment,
    List.contains_eq_mem, decide_eq_false_iff_not]
  constructor
  · rintro ⟨⟨⟨⟨rest, rfl⟩, nonempty⟩, whole⟩, rfl⟩
    rw [List.drop_left] at nonempty whole ⊢
    exact ⟨rfl, nonempty, whole⟩
  · rintro ⟨rfl, nonempty, whole⟩
    rw [List.drop_left]
    exact ⟨⟨⟨List.prefix_append _ _, nonempty⟩, whole⟩, rfl⟩

/-- The fixed paths lead to their endpoints, entry by entry. -/
theorem leads_of_lookup {path : List Char} {endpoint : Endpoint}
    (found : fixed.lookup (String.ofList path) = some endpoint)
    : Leads path endpoint := by
  obtain ⟨before, after, split, -⟩ := List.lookup_eq_some_iff.mp found
  have member : (String.ofList path, endpoint) ∈ fixed := by simp [split]
  have fixedLead : ∀ entry ∈ fixed, Leads entry.1.toList entry.2 := by
    simp only [fixed, List.forall_mem_cons]
    exact ⟨.verify, .metrics, .health, .ready, .document, nofun⟩
  simpa using fixedLead _ member

/-- A path that starts differently than all fixed ones is none of them. -/
theorem lookup_fixed_eq_none (start rest : List Char)
    (different : ∀ entry ∈ fixed, ¬ start <+: entry.1.toList)
    : fixed.lookup (String.ofList (start ++ rest)) = none := by
  rw [List.lookup_eq_none_iff]
  intro entry member
  rw [bne_iff_ne]
  intro same
  refine different entry member ⟨rest, ?_⟩
  rw [← same, String.toList_ofList]

/-- A path is routed to an endpoint exactly if it leads there; the fixed paths and those with a
segment for an id do not overlap.
-/
theorem ofPath?_eq_some_iff {path : List Char} {endpoint : Endpoint}
    : ofPath? path = some endpoint ↔ Leads path endpoint := by
  constructor
  · intro found
    unfold ofPath? at found
    split at found
    · next named => exact leads_of_lookup (named.trans found)
    · split at found
      · next after =>
          obtain ⟨rfl, segment⟩ := segmentAfter?_eq_some_iff.mp after
          cases found
          exact .result segment
      · obtain ⟨id, after, rfl⟩ := Option.map_eq_some_iff.mp found
        obtain ⟨rfl, segment⟩ := segmentAfter?_eq_some_iff.mp after
        exact .duplicates segment
  · intro leads
    cases leads with
    | verify | metrics | health | ready | document => rfl
    | @result id segment =>
        simp only [ofPath?, lookup_fixed_eq_none "/result/".toList id (by decide),
          segmentAfter?_eq_some_iff.mpr ⟨rfl, segment⟩]
    | @duplicates id segment =>
        -- The two prefixes differ, so a path for duplicates is not one for results.
        have other : segmentAfter? "/result/".toList ("/duplicates/".toList ++ id) = none := rfl
        simp only [ofPath?, lookup_fixed_eq_none "/duplicates/".toList id (by decide), other,
          segmentAfter?_eq_some_iff.mpr ⟨rfl, segment⟩, Option.map_some]

end ImageVerification.Endpoint
