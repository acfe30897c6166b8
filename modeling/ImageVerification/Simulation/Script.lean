import ImageVerification.Fault.Any
import ImageVerification.Flow.Run
import ImageVerification.InMemory

/-! Collaborators in memory that follow a script.

Each method has a queue of acts. An act delays a call, and it may replace the reply of the
collaborator, in place of the work or, for an applied act, after the work has been done.
-/

namespace ImageVerification.Simulation

open Collaborator

inductive Method where
  | cacheSet
  | cacheGet
  | storeSave
  | storeFind
  | storeDuplicates
  | storeTotals
  | storePing
  | storePrepare
  | scorer
deriving DecidableEq

namespace Method

def ofCall : Call → Method
  | .cacheSet .. => cacheSet
  | .cacheGet .. => cacheGet
  | .storeSave .. => storeSave
  | .storeFind .. => storeFind
  | .storeDuplicates .. => storeDuplicates
  | .storeTotals => storeTotals
  | .storePing => storePing
  | .storePrepare => storePrepare
  | .score .. => scorer

def all : List Method :=
  [cacheSet, cacheGet, storeSave, storeFind, storeDuplicates, storeTotals, storePing, storePrepare,
   scorer]

/-- The name of a method in scripts, after that of its collaborator. -/
def name : Method → String
  | cacheSet => "cache.set"
  | cacheGet => "cache.get"
  | storeSave => "store.save"
  | storeFind => "store.find"
  | storeDuplicates => "store.duplicates"
  | storeTotals => "store.metrics"
  | storePing => "store.ping"
  | storePrepare => "store.ensure_schema"
  | scorer => "scorer"

end Method

structure Act where
  delay : Nat
  fault : Option AnyFault
  applied : Bool
  verdict : Verdict
  totals : Option Totals
deriving DecidableEq

namespace Act

/-- The scorer's verdict unless an act says otherwise. -/
def usualVerdict : Verdict := ⟨true, ⟨0x3f5eb852⟩, "verified"⟩

def idle : Act := ⟨0, none, false, usualVerdict, none⟩

def storeReply {α : Type} (act : Act) : Option (Except StoreFault α) :=
  match act.fault with
  | some (.store fault) => some (.error fault)
  | _ => none

def cacheReply {α : Type} (act : Act) : Option (Except CacheFault α) :=
  match act.fault with
  | some (.cache fault) => some (.error fault)
  | _ => none

/-- The reply that stands in for that of the collaborator. -/
def replacement (act : Act) : (call : Call) → Option (Reply call)
  | .cacheSet .. => act.cacheReply
  | .cacheGet .. => act.cacheReply
  | .storeSave .. => act.storeReply
  | .storeFind .. => act.storeReply
  | .storeDuplicates .. => act.storeReply
  | .storeTotals =>
      match act.fault with
      | some (.store fault) => some (.error fault)
      | _ => act.totals.map .ok
  | .storePing => act.storeReply
  | .storePrepare => act.storeReply
  | .score .. =>
      match act.fault with
      | some (.scorer fault) => some (.error fault)
      | _ => none

end Act

structure Stage where
  backends : InMemory
  queue : List (Method × Act)

namespace Stage

def empty : Stage := ⟨.empty, []⟩

def enqueue (stage : Stage) (method : Method) (acts : List Act) : Stage :=
  { stage with queue := stage.queue ++ acts.map fun act => (method, act) }

/-- Takes the next act of a method, which is idle when none is queued. -/
def takeAct (method : Method) : List (Method × Act) → Act × List (Method × Act)
  | [] => (.idle, [])
  | (owner, act) :: rest =>
      if owner = method then (act, rest)
      else
        let (found, rest) := takeAct method rest
        (found, (owner, act) :: rest)

/-- Does the work of a call. -/
def work (call : Call) (act : Act) (now : Instant) (stage : Stage) : Reply call × Stage :=
  let (reply, backends) := stage.backends.answer (.ok act.verdict) now call
  (reply, { stage with backends })

def conduct (call : Call) (act : Act) : Conduct Stage (Reply call) :=
  if act.applied then
    {
      before := some 0
      effect := fun now stage =>
        let (reply, stage) := work call act now stage
        ((act.replacement call).getD reply, stage)
      after := some act.delay
    }
  else
    {
      before := some act.delay
      effect := fun now stage =>
        match act.replacement call with
        | some reply => (reply, stage)
        | none => work call act now stage
      after := some 0
    }

def environment (wall : Instant → Timestamp) (name : Nat → String)
    : Environment Call Reply Stage :=
  {
    accept := fun call _ stage =>
      let (act, queue) := takeAct (Method.ofCall call) stage.queue
      (conduct call act, { stage with queue })
    wall
    name
  }

end Stage

end ImageVerification.Simulation
