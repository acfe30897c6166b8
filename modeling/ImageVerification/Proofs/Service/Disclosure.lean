import ImageVerification.Proofs.Service.Invariants
import ImageVerification.Proofs.Snapshot.RoundTrip
import ImageVerification.Proofs.Verification.Interruption
import ImageVerification.Proofs.Verification.Lookup

/-! Whose records a lookup tells: the store asks who owns a record, the cache does not. -/

namespace ImageVerification.Service

open Collaborator

/-- Under the key of a request stands the snapshot of a record that another user owns, and it has
not expired and can be decoded.
-/
def Discloses (state : State) (userId requestId : String) : Prop :=
  ∃ stored ∈ state.ledger.records,
    stored.requestId = requestId
    ∧ stored.userId ≠ userId
    ∧ stored.userId ≠ ""
    ∧ state.cache.peek state.clock (CacheAside.key requestId)
      = some (Snapshot.ofRecord stored).encode
    ∧ Snapshot.readScore? stored.score ≠ none

/-- Requests with different ids have different keys. -/
theorem key_injective : Function.Injective CacheAside.key := by
  intro a b same
  simpa [CacheAside.key] using same

/-- What is found under the key of a request is its marker or the snapshot of its record. -/
theorem SoundBackends.peek {clock now : Instant} {backends : InMemory} {requestId cached : String}
    (sound : SoundBackends clock backends)
    (found : backends.cache.peek now (CacheAside.key requestId) = some cached)
    : cached = CacheAside.marker
      ∨ ∃ stored ∈ backends.ledger.records,
          stored.requestId = requestId ∧ cached = (Snapshot.ofRecord stored).encode := by
  obtain ⟨entry, present, keyed, rfl, -⟩ := ExpiringMap.exists_of_peek found
  obtain ⟨id, sameKey, content⟩ := sound.coherent entry present
  obtain rfl : id = requestId := key_injective (sameKey.symm.trans keyed)
  exact content

/-- A snapshot that is found can be decoded exactly when its score can be read back, and then it
stands for a record with the owner of the stored one, unless that is nobody.
-/
theorem toRecord_decoded {stored : Record} {snapshot : Snapshot} (userId : String)
    (decoded : Snapshot.decode? (Snapshot.ofRecord stored).encode = some snapshot)
    : Snapshot.readScore? stored.score ≠ none
      ∧ (snapshot.toRecord userId stored.requestId).requestId = stored.requestId
      ∧ ((snapshot.toRecord userId stored.requestId).userId ≠ userId
        ↔ stored.userId ≠ userId ∧ stored.userId ≠ "") := by
  rw [Snapshot.decode?_encode] at decoded
  obtain ⟨score, read, rfl⟩ := Option.map_eq_some_iff.mp decoded
  refine ⟨by simp [show Snapshot.readScore? stored.score = some score from read], ?_, ?_⟩
  · simp [Snapshot.toRecord, Snapshot.orElse, Snapshot.ofRecord]
  · by_cases nobody : stored.userId = ""
    · simp [Snapshot.toRecord, Snapshot.orElse, Snapshot.ofRecord, nobody]
    · simp [Snapshot.toRecord, Snapshot.orElse, Snapshot.ofRecord, nobody]

/-- Whatever a lookup tells is the record of the request; it is the record of another user exactly
when the cache discloses one.
-/
theorem told_iff {state : State} (sound : SoundBackends state.clock state.shared.backends)
    (userId requestId : String)
    : (∀ record, state.shared.backends.told state.clock userId requestId = .ok record
        → record.requestId = requestId)
      ∧ ((∃ record, state.shared.backends.told state.clock userId requestId = .ok record
            ∧ record.userId ≠ userId)
          ↔ Discloses state userId requestId) := by
  unfold InMemory.told
  cases read : (state.shared.backends.cache.peek state.clock (CacheAside.key requestId)).bind
      Snapshot.decode? with
  | none =>
      -- The store tells a user nothing but records of that user.
      have owned {record : Record}
          (found : RetryPlan.tagged ⟨"repository.find_by_request_and_user", requestId⟩
            (state.shared.backends.ledger.find requestId userId) = .ok record)
          : record.requestId = requestId ∧ record.userId = userId := by
        cases searched : state.shared.backends.ledger.find requestId userId with
        | ok stored =>
            rw [searched] at found
            cases found
            exact (Ledger.find_ok searched).2
        | error fault =>
            rw [searched] at found
            cases found
      refine ⟨fun record found => (owned found).1, ?_, ?_⟩
      · intro shows
        obtain ⟨record, found, other⟩ := shows
        exact absurd (owned found).2 other
      · intro discloses
        obtain ⟨stored, -, -, -, -, cached, readable⟩ := discloses
        have unread : (some (Snapshot.ofRecord stored).encode).bind Snapshot.decode? = none :=
          cached ▸ read
        rw [Option.bind_some, Snapshot.decode?_encode, Option.map_eq_none_iff] at unread
        exact absurd unread readable
  | some snapshot =>
      obtain ⟨cached, found, decoded⟩ := Option.bind_eq_some_iff.mp read
      -- The marker is no snapshot, so what was decoded stands for a stored record.
      refine ⟨?_, ?_, ?_⟩
      · intro record shown
        cases shown
        rcases sound.peek found with rfl | ⟨stored, -, rfl, rfl⟩
        · rw [Snapshot.decode?_marker] at decoded
          cases decoded
        · exact (toRecord_decoded userId decoded).2.1
      · intro shows
        obtain ⟨record, ⟨⟩, foreign⟩ := shows
        rcases sound.peek found with rfl | ⟨stored, inLedger, rfl, rfl⟩
        · rw [Snapshot.decode?_marker] at decoded
          cases decoded
        · obtain ⟨readable, -, other⟩ := toRecord_decoded userId decoded
          obtain ⟨notUser, somebody⟩ := other.mp foreign
          exact ⟨stored, inLedger, rfl, notUser, somebody, found, readable⟩
      · intro discloses
        obtain ⟨stored, -, rfl, notUser, somebody, inCache, -⟩ := discloses
        obtain rfl : cached = _ := Option.some.inj (found.symm.trans inCache)
        exact ⟨_, rfl, (toRecord_decoded userId decoded).2.2.mpr ⟨notUser, somebody⟩⟩

/-- A lookup tells a record of another user exactly when it is not interrupted and the cache
discloses one; the record it tells is always that of the request.
-/
theorem result_discloses_iff {name : Nat → String} {state : State}
    (fresh : Function.Injective name) (reached : Reachable name state)
    (verdict : Except ScorerFault Verdict) (wall : Instant → Timestamp) (ctx : Context)
    (userId requestId : String)
    : ∃ answer after,
        (Verification.result ctx userId requestId).run (InMemory.environment verdict wall name) none
            ⟨state.clock, state.shared.backends, state.shared.named, [], []⟩
          = (some answer, after)
        ∧ (∀ record, answer = .ok record → record.requestId = requestId)
        ∧ ((∃ record, answer = .ok record ∧ record.userId ≠ userId)
          ↔ ctx.interruption state.clock = none ∧ Discloses state userId requestId) := by
  have sound := Steps.sound fresh reached sound_start
  let world : World Call InMemory :=
    ⟨state.clock, state.shared.backends, state.shared.named, [], []⟩
  cases free : ctx.interruption state.clock with
  | some kind =>
      -- An interrupted lookup does not tell anything.
      obtain ⟨answer, after, ran, halted, -, -⟩ :=
        ((Verification.result_obeys ctx userId requestId).stops kind).run
          (InMemory.environment verdict wall name) 0 world free
      obtain rfl := halted
      exact ⟨_, after, ran, by simp, by simp⟩
  | none =>
      obtain ⟨after, ran⟩ :=
        @Verification.run_result verdict wall name ctx world free userId requestId
      obtain ⟨requested, foreign⟩ := told_iff sound.backends userId requestId
      exact ⟨_, after, ran, requested, foreign.trans ⟨fun discloses => ⟨rfl, discloses⟩, And.right⟩⟩

/-- Names that are longer the later they are drawn. -/
def unary (number : Nat) : String := String.ofList (List.replicate (number + 1) 'r')

/-- Different numbers have different names. -/
theorem unary_injective : Function.Injective unary := by
  intro a b same
  simpa using String.ofList_injective same

/-- A service that has verified an image for one user and done nothing else. -/
def verifiedOnce (userId : String) : Option Answer × World Call InMemory :=
  ((Operation.verify userId []).flow .background).run
    (InMemory.environment (.ok ⟨true, .zero, ""⟩) (fun _ => .epoch) unary) none (.start .empty)

/-- Right after the image of one user has been verified, any other user is told the record. -/
theorem result_discloses_verified
    : ∃ state,
        Reachable unary state
        ∧ ∃ record after,
            (Verification.result .background "mallory" "r").run
                (InMemory.environment (.ok ⟨true, .zero, ""⟩) (fun _ => .epoch) unary) none
                ⟨state.clock, state.shared.backends, state.shared.named, [], []⟩
              = (some (.ok record), after)
            ∧ record.userId ≠ "mallory" := by
  have ran : ∃ outcome,
      verifiedOnce "alice" = (some (.verified (.ok outcome)), (verifiedOnce "alice").2) :=
    ⟨_, rfl⟩
  obtain ⟨outcome, ran⟩ := ran
  obtain ⟨drawn, reached⟩ := steps_of_run .start ran
  obtain ⟨answer, after, ran, -, foreign⟩ :=
    result_discloses_iff unary_injective reached (.ok ⟨true, .zero, ""⟩) (fun _ => .epoch)
      .background "mallory" "r"
  have readable : Snapshot.readScore? .zero ≠ none := by decide +kernel
  obtain ⟨record, rfl, other⟩ :=
    foreign.mpr ⟨rfl, _, List.mem_singleton_self _, rfl, by decide, by decide, rfl, readable⟩
  exact ⟨_, reached, record, after, ran, other⟩

end ImageVerification.Service
