import ImageVerification.Proofs.Service.Disclosure

/-! How the cache relates to the store: it runs ahead of it at no time, and it never tells anything
else than the store about a record.
-/

namespace ImageVerification

/-- No snapshot is taken for the marker: a snapshot opens with a brace. -/
theorem Snapshot.encode_ne_marker (snapshot : Snapshot) : snapshot.encode ≠ CacheAside.marker := by
  intro same
  have opened := congrArg (·.toList.head?) same
  simp [encode, render, Json.Writer.object, CacheAside.marker] at opened

namespace Service

variable {name : Nat → String} {state : State}

/-- A snapshot shows what a record holds, field by field; of the score it shows what its digits are
read back as.
-/
def Mirrors (snapshot : Snapshot) (record : Record) : Prop :=
  snapshot = { Snapshot.ofRecord record with score := snapshot.score }
  ∧ Snapshot.readScore? record.score = some snapshot.score

/-- A snapshot that can be decoded mirrors its record: nothing but the score may be read back
otherwise.
-/
theorem mirrors_of_decoded {snapshot : Snapshot} {record : Record}
    (decoded : Snapshot.decode? (Snapshot.ofRecord record).encode = some snapshot)
    : Mirrors snapshot record := by
  rw [Snapshot.decode?_encode] at decoded
  obtain ⟨score, read, rfl⟩ := Option.map_eq_some_iff.mp decoded
  exact ⟨rfl, read⟩

/-- However operations interleave, fail and are interrupted: what stands under the key of a request
is its marker, or the snapshot of the one record that the store holds for it.
-/
theorem cache_coherent (fresh : Function.Injective name) (reached : Reachable name state)
    {requestId : String} {entry : ExpiringEntry} (present : entry ∈ state.cache.entries)
    (keyed : entry.key = "verification:" ++ requestId)
    : entry.value = "processing"
      ∨ ∃ record,
          (∀ other, other ∈ state.ledger.records ∧ other.requestId = requestId ↔ other = record)
          ∧ entry.value = (Snapshot.ofRecord record).encode
          ∧ ∀ snapshot, Snapshot.decode? entry.value = some snapshot → Mirrors snapshot record := by
  have sound := (Steps.sound fresh reached sound_start).backends
  obtain ⟨id, sameKey, content⟩ := sound.coherent entry present
  obtain rfl : id = requestId := key_injective (sameKey.symm.trans keyed)
  rcases content with marked | ⟨record, stored, named, valued⟩
  · exact .inl marked
  · refine .inr ⟨record, ?_, valued, ?_⟩
    · intro other
      constructor
      · intro ⟨held, sameRequest⟩
        exact sound.unique.eq held stored (sameRequest.trans named.symm)
      · rintro rfl
        exact ⟨stored, named⟩
    · intro snapshot decoded
      exact mirrors_of_decoded (valued ▸ decoded)

/-- Right after an image has been verified, the snapshot in the cache is that of the record. -/
theorem cache_coherent_verified
    : ∃ state,
        Reachable unary state
        ∧ ∃ entry ∈ state.cache.entries,
            entry.key = "verification:" ++ "r"
            ∧ ∃ record ∈ state.ledger.records, entry.value = (Snapshot.ofRecord record).encode := by
  have ran : ∃ outcome,
      verifiedOnce "alice" = (some (.verified (.ok outcome)), (verifiedOnce "alice").2) :=
    ⟨_, rfl⟩
  obtain ⟨outcome, ran⟩ := ran
  obtain ⟨drawn, reached⟩ := steps_of_run .start ran
  refine ⟨_, reached, _, List.mem_singleton_self _, rfl, ?_⟩
  rcases cache_coherent unary_injective reached (List.mem_singleton_self _) rfl with
    marked | ⟨record, only, valued, -⟩
  · exact absurd marked (Snapshot.encode_ne_marker _)
  · exact ⟨record, ((only record).mpr rfl).1, valued⟩

end Service

end ImageVerification
