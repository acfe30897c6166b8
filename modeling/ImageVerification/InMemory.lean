import ImageVerification.Cache.ExpiringMap
import ImageVerification.Collaborator
import ImageVerification.Flow.Run
import ImageVerification.Store.Ledger

/-! The collaborators kept in memory: a ledger as the store and a map as the cache. -/

namespace ImageVerification

structure InMemory where
  ledger : Ledger
  cache : ExpiringMap
deriving DecidableEq

namespace InMemory

open Collaborator

def empty : InMemory := ⟨.empty, .empty⟩

/-- Answers a call at an instant; the scorer's verdict is given from outside. -/
def answer (verdict : Except ScorerFault Verdict) (now : Instant) (state : InMemory)
    : (call : Call) → Reply call × InMemory
  | .cacheSet key value ttl =>
      (.ok (), { state with cache := state.cache.set now key value ttl })
  | .cacheGet key =>
      let (found, cache) := state.cache.get now key
      (.ok found, { state with cache })
  | .storeSave record =>
      let (saved, ledger) := state.ledger.save record
      (saved, { state with ledger })
  | .storeFind requestId userId => (state.ledger.find requestId userId, state)
  | .storeDuplicates owner fingerprint exclude =>
      (.ok (state.ledger.duplicates owner fingerprint exclude), state)
  | .storeTotals => (.ok state.ledger.totals, state)
  | .storePing => (.ok (), state)
  | .storePrepare => (.ok (), state)
  | .score .. => (verdict, state)

/-- Every call is answered at once. -/
def environment (verdict : Except ScorerFault Verdict) (wall : Instant → Timestamp)
    (name : Nat → String) : Environment Call Reply InMemory :=
  {
    accept := fun call _ state =>
      (⟨some 0, fun now state => answer verdict now state call, some 0⟩, state)
    wall
    name
  }

/-- The name under which both backends report themselves. -/
def backendName : String := "memory"

end InMemory

end ImageVerification
