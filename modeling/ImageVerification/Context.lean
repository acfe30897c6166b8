import ImageVerification.Fault.Basic
import ImageVerification.Time.Duration

/-! Contexts: until when work may go on.

A context is interrupted from the instant of its cancellation or its deadline on, whichever comes
first, and stays so. Where work and an interruption fall due together, the interruption wins.
-/

namespace ImageVerification

inductive Interrupt where
  | cancelled
  | deadlineExceeded
deriving DecidableEq

namespace Interrupt

def text : Interrupt → String
  | cancelled => "context canceled"
  | deadlineExceeded => "context deadline exceeded"

def label : Interrupt → String
  | cancelled => "interrupt.cancelled"
  | deadlineExceeded => "interrupt.deadline"

instance : Fault Interrupt := ⟨text, fun _ => true, label⟩

end Interrupt

/-- The earlier of two instants that may never come. -/
def earlier : Option Instant → Option Instant → Option Instant
  | some a, some b => some (min a b)
  | some a, none => some a
  | none, b => b

structure Context where
  cancelledAt : Option Instant
  deadline : Option Instant
deriving DecidableEq

namespace Context

def background : Context := ⟨none, none⟩

/-- The same context with a deadline; the earliest one counts. -/
def deadlineAt (ctx : Context) (deadline : Instant) : Context :=
  { ctx with deadline := earlier ctx.deadline (some deadline) }

/-- The first instant at which the context is interrupted. -/
def interruptAt (ctx : Context) : Option Instant := earlier ctx.cancelledAt ctx.deadline

/-- Whether and how the context is interrupted at an instant; a cancellation hides a deadline. -/
def interruption (ctx : Context) (now : Instant) : Option Interrupt :=
  if ctx.cancelledAt.any (· ≤ now) then some .cancelled
  else if ctx.deadline.any (· ≤ now) then some .deadlineExceeded
  else none

/-- The time left until the deadline. -/
def remaining (ctx : Context) (now : Instant) : Option Nat := ctx.deadline.map (· - now)

/-- Whether work that falls due at an instant is done before any interruption. -/
def allows (ctx : Context) (due : Instant) : Bool := ctx.interruptAt.all (due < ·)

/-- The result of a race: nothing when neither side ever comes. -/
inductive Race where
  | finished (instant : Instant)
  | interrupted (kind : Interrupt) (instant : Instant)
  | pending
deriving DecidableEq

/-- Races work that falls due at an instant, or never, against the context. -/
def race (ctx : Context) (start : Instant) (due : Option Instant) : Race :=
  match ctx.interruption start with
  | some kind => .interrupted kind start
  | none =>
      match due, ctx.interruptAt with
      | some due, none => .finished due
      | some due, some stop =>
          if due < stop then .finished due
          else .interrupted ((ctx.interruption stop).getD .deadlineExceeded) stop
      | none, some stop => .interrupted ((ctx.interruption stop).getD .deadlineExceeded) stop
      | none, none => .pending

end Context

end ImageVerification
