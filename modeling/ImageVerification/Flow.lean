import ImageVerification.Context
import ImageVerification.Event
import ImageVerification.Time.Timestamp

/-! Flows: programs that call collaborators, wait, read clocks, draw fresh names and log.

Every call and every wait is raced against a context and hands on how the race ended. A flow says
nothing about how long a collaborator takes or what it answers; that is for whoever runs it.
-/

namespace ImageVerification

/-- Both clocks read at once. -/
structure Reading where
  instant : Instant
  wall : Timestamp
deriving DecidableEq

inductive Flow (Call : Type) (Reply : Call → Type) (α : Type) where
  | done (result : α)
  | call (ctx : Context) (request : Call)
      (next : Except Interrupt (Reply request) → Flow Call Reply α)
  | sleep (ctx : Context) (span : Duration) (next : Except Interrupt Unit → Flow Call Reply α)
  | now (next : Reading → Flow Call Reply α)
  | fresh (next : String → Flow Call Reply α)
  | log (event : Event) (next : Flow Call Reply α)

namespace Flow

variable {Call : Type} {Reply : Call → Type} {α β γ : Type}

def bind : Flow Call Reply α → (α → Flow Call Reply β) → Flow Call Reply β
  | done result, f => f result
  | call ctx request next, f => call ctx request fun reply => (next reply).bind f
  | sleep ctx span next, f => sleep ctx span fun reply => (next reply).bind f
  | now next, f => now fun reading => (next reading).bind f
  | fresh next, f => fresh fun name => (next name).bind f
  | log event next, f => log event (next.bind f)

instance : Monad (Flow Call Reply) where
  pure := done
  bind := bind

def perform (ctx : Context) (request : Call)
    : Flow Call Reply (Except Interrupt (Reply request)) :=
  call ctx request done

def pause (ctx : Context) (span : Duration) : Flow Call Reply (Except Interrupt Unit) :=
  sleep ctx span done

def readClocks : Flow Call Reply Reading := now done

def freshName : Flow Call Reply String := fresh done

def note (event : Event) : Flow Call Reply Unit := log event (done ())

/-- Doing nothing after a flow leaves it as it is, by induction on the flow. -/
theorem bind_done (flow : Flow Call Reply α) : flow.bind done = flow := by
  induction flow with
  | done result => rfl
  | call ctx request next ih => simp only [bind, ih]
  | sleep ctx span next ih => simp only [bind, ih]
  | now next ih => simp only [bind, ih]
  | fresh next ih => simp only [bind, ih]
  | log event next ih => simp only [bind, ih]

/-- It does not matter how flows in a row are bracketed, by induction on the first one. -/
theorem bind_assoc (flow : Flow Call Reply α) (f : α → Flow Call Reply β)
    (g : β → Flow Call Reply γ)
    : (flow.bind f).bind g = flow.bind fun result => (f result).bind g := by
  induction flow with
  | done result => rfl
  | call ctx request next ih => simp only [bind, ih]
  | sleep ctx span next ih => simp only [bind, ih]
  | now next ih => simp only [bind, ih]
  | fresh next ih => simp only [bind, ih]
  | log event next ih => simp only [bind, ih]

instance : LawfulMonad (Flow Call Reply) :=
  LawfulMonad.mk' (Flow Call Reply) bind_done (fun _ _ => rfl) bind_assoc

end Flow

end ImageVerification
