import Mathlib.Logic.Relation
import ImageVerification.InMemory
import ImageVerification.Verification

/-! The service at work: any number of operations over one store and one cache in memory.

Operations interleave at their calls, waits and readings of the clock. A call may be carried out and
answered, or it may fail or be interrupted, whether or not it has been carried out before that. Time
passes at will, and expired entries of the cache may be dropped.
-/

namespace ImageVerification.Service

open Collaborator

/-- What a caller may ask for. -/
inductive Operation where
  | verify (userId : String) (image : Bytes)
  | result (userId requestId : String)
  | duplicateReport (scope : DuplicateScope) (userId requestId : String)
  | metrics

inductive Answer where
  | verified (outcome : Except Verification.StageFailure VerificationOutcome)
  | found (outcome : Repository.Outcome Record)
  | reported (outcome : Repository.Outcome DuplicateReport)
  | summed (outcome : Repository.Outcome MetricsSummary)

def Operation.flow (ctx : Context) : Operation → Action Answer
  | .verify userId image =>
      (Verification.verify ctx userId image).bind fun outcome => .done (.verified outcome)
  | .result userId requestId =>
      (Verification.result ctx userId requestId).bind fun outcome => .done (.found outcome)
  | .duplicateReport scope userId requestId =>
      (Verification.duplicateReport scope ctx userId requestId).bind fun outcome =>
        .done (.reported outcome)
  | .metrics => (Verification.metrics ctx).bind fun outcome => .done (.summed outcome)

/-- An operation on its way: the names it has drawn and what it has left to do. -/
structure Job where
  operation : Operation
  names : List String
  rest : Action Answer

/-- A reply that reports a fault. -/
def IsFault : (request : Call) → Reply request → Prop
  | .cacheSet .., reply => ∃ fault, reply = .error fault
  | .cacheGet .., reply => ∃ fault, reply = .error fault
  | .storeSave .., reply => ∃ fault, reply = .error fault
  | .storeFind .., reply => ∃ fault, reply = .error fault
  | .storeDuplicates .., reply => ∃ fault, reply = .error fault
  | .storeTotals, reply => ∃ fault, reply = .error fault
  | .storePing, reply => ∃ fault, reply = .error fault
  | .storePrepare, reply => ∃ fault, reply = .error fault
  | .score .., reply => ∃ fault, reply = .error fault

/-- What a call may leave behind: what it found, or the effect it was meant to have. -/
inductive Leaves (now : Instant) (backends : InMemory) (request : Call) : InMemory → Prop where
  | untouched : Leaves now backends request backends
  | effect (verdict : Except ScorerFault Verdict)
      : Leaves now backends request (InMemory.answer verdict now backends request).2

/-- How a call may end, and what it may leave behind. -/
inductive Ends (now : Instant) (backends : InMemory) (request : Call)
    : Except Interrupt (Reply request) → InMemory → Prop where
  | answered (verdict : Except ScorerFault Verdict)
      : Ends now backends request (.ok (InMemory.answer verdict now backends request).1)
          (InMemory.answer verdict now backends request).2
  | failed {reply : Reply request} {after : InMemory} (fault : IsFault request reply)
      (left : Leaves now backends request after)
      : Ends now backends request (.ok reply) after
  | interrupted {after : InMemory} (kind : Interrupt) (left : Leaves now backends request after)
      : Ends now backends request (.error kind) after

/-- What the operations share: the backends, and how many names have been drawn. -/
structure Shared where
  backends : InMemory
  named : Nat

/-- One step of one operation at an instant. -/
inductive Advances (name : Nat → String) (now : Instant) : Shared → Job → Shared → Job → Prop where
  | call {shared : Shared} {operation : Operation} {names : List String} {ctx : Context}
      {request : Call} {next : Except Interrupt (Reply request) → Action Answer}
      {reply : Except Interrupt (Reply request)} {after : InMemory}
      (ends : Ends now shared.backends request reply after)
      : Advances name now shared ⟨operation, names, .call ctx request next⟩
          { shared with backends := after } ⟨operation, names, next reply⟩
  | sleep {shared : Shared} {operation : Operation} {names : List String} {ctx : Context}
      {span : Duration} {next : Except Interrupt Unit → Action Answer}
      (reply : Except Interrupt Unit)
      : Advances name now shared ⟨operation, names, .sleep ctx span next⟩ shared
          ⟨operation, names, next reply⟩
  | now {shared : Shared} {operation : Operation} {names : List String}
      {next : Reading → Action Answer} (wall : Timestamp)
      : Advances name now shared ⟨operation, names, .now next⟩ shared
          ⟨operation, names, next ⟨now, wall⟩⟩
  | fresh {shared : Shared} {operation : Operation} {names : List String}
      {next : String → Action Answer}
      : Advances name now shared ⟨operation, names, .fresh next⟩
          { shared with named := shared.named + 1 }
          ⟨operation, name shared.named :: names, next (name shared.named)⟩
  | log {shared : Shared} {operation : Operation} {names : List String} {event : Event}
      {next : Action Answer}
      : Advances name now shared ⟨operation, names, .log event next⟩ shared
          ⟨operation, names, next⟩

structure State where
  clock : Instant
  shared : Shared
  jobs : List Job

namespace State

/-- Nothing stored, nothing cached, nothing under way. -/
def start : State := ⟨0, ⟨.empty, 0⟩, []⟩

def ledger (state : State) : Ledger := state.shared.backends.ledger

def cache (state : State) : ExpiringMap := state.shared.backends.cache

/-- Without the chosen entries of the cache that have expired. -/
def withoutExpired (state : State) (chosen : ExpiringEntry → Bool) : State :=
  let kept := state.cache.entries.filter fun entry =>
    !chosen entry || ExpiringMap.isLive state.clock entry
  { state with shared.backends.cache := ⟨kept⟩ }

end State

inductive Step (name : Nat → String) : State → State → Prop where
  | elapse (state : State) (span : Nat) : Step name state { state with clock := state.clock + span }
  | begin (state : State) (ctx : Context) (operation : Operation)
      : Step name state
          { state with jobs := state.jobs ++ [⟨operation, [], operation.flow ctx⟩] }
  | advance {state : State} {index : Nat} {job next : Job} {shared : Shared}
      (found : state.jobs[index]? = some job)
      (advances : Advances name state.clock state.shared job shared next)
      : Step name state { state with shared, jobs := state.jobs.set index next }
  | expire (state : State) (chosen : ExpiringEntry → Bool)
      : Step name state (state.withoutExpired chosen)

/-- What can come of a state. -/
abbrev Steps (name : Nat → String) : State → State → Prop := Relation.ReflTransGen (Step name)

/-- What can come of an empty service. -/
def Reachable (name : Nat → String) (state : State) : Prop := Steps name .start state

end ImageVerification.Service
