import Mathlib.Data.List.Pairwise
import ImageVerification.InMemory

/-! What the backends kept in memory hold after a call: reads change nothing that is live, and only
accepted records are added to the ledger.
-/

namespace ImageVerification

namespace ExpiringMap

variable {map : ExpiringMap} {entry : ExpiringEntry} {now : Instant} {key value : String}

/-- Dropping what has expired does not change what a lookup finds. -/
theorem get_fst (map : ExpiringMap) (now : Instant) (key : String)
    : (map.get now key).1 = map.peek now key := by
  unfold get
  split
  · next found => exact found.symm
  · next missed => exact missed.symm

theorem mem_of_mem_evict (member : entry ∈ (map.evict now key).entries) : entry ∈ map.entries :=
  (List.mem_filter.mp member).1

/-- A lookup adds no entry. -/
theorem mem_of_mem_get (member : entry ∈ (map.get now key).2.entries) : entry ∈ map.entries := by
  unfold get at member
  split at member
  · exact member
  · exact mem_of_mem_evict member

/-- After a setting the entries are the new one and those of other keys. -/
theorem mem_set {ttl : Duration}
    : entry ∈ (map.set now key value ttl).entries
      ↔ entry = ⟨key, value, now + ttl.nanos⟩ ∨ entry ∈ map.entries ∧ entry.key ≠ key := by
  simp [set]

/-- What is found under a key is the value of a live entry. -/
theorem exists_of_peek (found : map.peek now key = some value)
    : ∃ entry ∈ map.entries, entry.key = key ∧ entry.value = value ∧ now < entry.expiresAt := by
  obtain ⟨entry, live, valued⟩ := Option.map_eq_some_iff.mp found
  obtain ⟨first, live⟩ := Option.filter_eq_some_iff.mp live
  have keyed := List.find?_some first
  exact ⟨entry, List.mem_of_find?_eq_some first, by simpa using keyed, valued,
    by simpa [isLive] using live⟩

end ExpiringMap

namespace Ledger

/-- A record is turned away, or it is the first of its request and of its user's image. -/
theorem save_cases (ledger : Ledger) (record : Record)
    : (∃ fault, ledger.save record = (.error fault, ledger))
      ∨ ledger.save record = (.ok (), ⟨ledger.records ++ [record]⟩)
        ∧ ∀ other ∈ ledger.records,
            other.requestId ≠ record.requestId
            ∧ ¬ (other.userId = record.userId ∧ other.fingerprint = record.fingerprint) := by
  unfold save
  split
  · exact .inl ⟨_, rfl⟩
  · next newRequest =>
      split
      · exact .inl ⟨_, rfl⟩
      · next newImage =>
          refine .inr ⟨rfl, ?_⟩
          intro other member
          simp only [List.any_eq_true, beq_iff_eq, Bool.and_eq_true, not_exists]
            at newRequest newImage
          exact ⟨fun same => newRequest other ⟨member, same⟩,
            fun same => newImage other ⟨member, same⟩⟩

/-- What is found is held under both names that it was asked for by. -/
theorem find_ok {ledger : Ledger} {requestId userId : String} {record : Record}
    (found : ledger.find requestId userId = .ok record)
    : record ∈ ledger.records ∧ record.requestId = requestId ∧ record.userId = userId := by
  unfold find at found
  split at found
  · next first =>
      cases found
      have matching := List.find?_some first
      simp only [Bool.and_eq_true, beq_iff_eq] at matching
      exact ⟨List.mem_of_find?_eq_some first, matching⟩
  · cases found

/-- No two records are those of one request. -/
def UniqueIds (ledger : Ledger) : Prop :=
  ledger.records.Pairwise fun a b => a.requestId ≠ b.requestId

/-- With unique names two records of one name are one record. -/
theorem UniqueIds.eq {ledger : Ledger} {a b : Record} (unique : ledger.UniqueIds)
    (left : a ∈ ledger.records) (right : b ∈ ledger.records) (same : a.requestId = b.requestId)
    : a = b := by
  by_contra different
  have symmetric : Std.Symm fun a b : Record => a.requestId ≠ b.requestId :=
    ⟨fun _ _ apart => apart.symm⟩
  exact List.Pairwise.forall unique left right different same

/-- Where request ids are unique, the record of a request is what its owner finds. -/
theorem UniqueIds.find_eq {ledger : Ledger} {record : Record} (unique : ledger.UniqueIds)
    (stored : record ∈ ledger.records)
    : ledger.find record.requestId record.userId = .ok record := by
  unfold find
  split
  · next other first =>
      have matching := List.find?_some first
      simp only [Bool.and_eq_true, beq_iff_eq] at matching
      rw [unique.eq (List.mem_of_find?_eq_some first) stored matching.1]
  · next absent =>
      have missed := List.find?_eq_none.mp absent record stored
      simp at missed

end Ledger

namespace InMemory

open Collaborator

/-- What a call may change: nothing but expired entries, one entry of the cache, or one record more
in the ledger.
-/
inductive Changes (now : Instant) (backends : InMemory) : Call → InMemory → Prop where
  | kept {request : Call} {after : InMemory} (ledger : after.ledger = backends.ledger)
      (cache : ∀ entry ∈ after.cache.entries, entry ∈ backends.cache.entries)
      : Changes now backends request after
  | cached {key value : String} {ttl : Duration}
      : Changes now backends (.cacheSet key value ttl)
          { backends with cache := backends.cache.set now key value ttl }
  | saved {record : Record}
      (first : ∀ other ∈ backends.ledger.records,
        other.requestId ≠ record.requestId
        ∧ ¬ (other.userId = record.userId ∧ other.fingerprint = record.fingerprint))
      : Changes now backends (.storeSave record)
          { backends with ledger := ⟨backends.ledger.records ++ [record]⟩ }

/-- A call that leaves the backends alone is a change of the smallest kind. -/
theorem changes_self (now : Instant) (backends : InMemory) (request : Call)
    : Changes now backends request backends :=
  .kept rfl fun _ member => member

/-- Every answer changes the backends in one of the ways of `Changes`; by cases on the call, only a
save and a setting adding anything.
-/
theorem changes_answer (verdict : Except ScorerFault Verdict) (now : Instant) (backends : InMemory)
    (request : Call)
    : Changes now backends request (answer verdict now backends request).2 := by
  cases request with
  | cacheSet key value ttl => exact .cached
  | cacheGet key => exact .kept rfl fun _ member => ExpiringMap.mem_of_mem_get member
  | storeSave record =>
      rcases backends.ledger.save_cases record with ⟨fault, turnedAway⟩ | ⟨taken, first⟩
      · simp only [answer, turnedAway]
        exact changes_self now backends _
      · simp only [answer, taken]
        exact .saved first
  | storeFind requestId userId => exact changes_self now backends _
  | storeDuplicates owner fingerprint exclude => exact changes_self now backends _
  | storeTotals => exact changes_self now backends _
  | storePing => exact changes_self now backends _
  | storePrepare => exact changes_self now backends _
  | score userId image deadline => exact changes_self now backends _

/-- A record that the store says it has saved is in the ledger. -/
theorem mem_of_answer_storeSave (verdict : Except ScorerFault Verdict) (now : Instant)
    (backends : InMemory) (record : Record)
    (taken : (answer verdict now backends (.storeSave record)).1 = .ok ())
    : record ∈ (answer verdict now backends (.storeSave record)).2.ledger.records := by
  rcases backends.ledger.save_cases record with ⟨fault, turnedAway⟩ | ⟨added, -⟩
  · simp [answer, turnedAway] at taken
  · simp [answer, added]

end InMemory

end ImageVerification
