import ImageVerification.Proofs.Flow.Asks
import ImageVerification.Proofs.Service.Runs

/-! Turns: flows that share one store and one cache in memory go on step by step.

A turn is one step of one flow: a call that takes effect and is answered in one instant, or is
interrupted before it does; a wait; a reading of the clocks; a name; a line of the log. Who takes
the next turn, when, and what the scorer says is left open.
-/

namespace ImageVerification.Service

open Collaborator

structure Turn where
  /-- Whose turn it is. -/
  number : Nat
  instant : Instant
  wall : Timestamp
  /-- How a call or a wait is interrupted, if it is. -/
  interrupt : Option Interrupt
  /-- What the scorer says if it is asked. -/
  verdict : Except ScorerFault Verdict

variable {α : Type}

/-- How a wait ends in a turn. -/
def Turn.waited (turn : Turn) : Except Interrupt Unit :=
  match turn.interrupt with
  | some kind => .error kind
  | none => .ok ()

/-- A turn of a flow that is given a name: what it leaves of the backends, and what the flow has
left to do. One that is done passes.
-/
def Turn.take (turn : Turn) (name : String) (backends : InMemory)
    : Action α → InMemory × Action α
  | .done result => (backends, .done result)
  | .call _ request next =>
      match turn.interrupt with
      | some kind => (backends, next (.error kind))
      | none =>
          let (reply, after) := backends.answer turn.verdict turn.instant request
          (after, next (.ok reply))
  | .sleep _ _ next => (backends, next turn.waited)
  | .now next => (backends, next ⟨turn.instant, turn.wall⟩)
  | .fresh next => (backends, next name)
  | .log _ next => (backends, next)

variable {turn : Turn} {name : String} {backends : InMemory} {ctx : Context} {request : Call}
  {next : Except Interrupt (Reply request) → Action α}

theorem Turn.take_call_interrupted {kind : Interrupt} (lost : turn.interrupt = some kind)
    : turn.take name backends (.call ctx request next) = (backends, next (.error kind)) := by
  simp only [take, lost]

/-- A call that is answered in a turn takes effect in the same turn. -/
theorem Turn.take_call_answered (heard : turn.interrupt = none)
    : turn.take name backends (.call ctx request next)
      = ((backends.answer turn.verdict turn.instant request).2,
          next (.ok (backends.answer turn.verdict turn.instant request).1)) := by
  simp only [take, heard]

/-- A turn of a flow makes no call that is answered, or one that is allowed; either way it is the
same turn over all backends, but for what that call is answered.
-/
theorem Turn.take_cases {allowed : Call → Prop} {drawn : String → Prop} {rest : Action α}
    (asks : rest.Asks allowed drawn) (turn : Turn) {name : String} (given : drawn name)
    : (∃ left : Action α,
          left.Asks allowed drawn
          ∧ ∀ backends, turn.take name backends rest = (backends, left))
      ∨ ∃ request, ∃ next : Reply request → Action α,
          allowed request
          ∧ (∀ reply, (next reply).Asks allowed drawn)
          ∧ ∀ backends,
              turn.take name backends rest
              = ((backends.answer turn.verdict turn.instant request).2,
                  next (backends.answer turn.verdict turn.instant request).1) := by
  cases rest with
  | done result => exact .inl ⟨_, asks, fun _ => rfl⟩
  | call ctx request next =>
      obtain ⟨fine, later⟩ := asks
      cases lost : turn.interrupt with
      | some kind => exact .inl ⟨_, later _, fun _ => take_call_interrupted lost⟩
      | none =>
          exact .inr ⟨request, fun reply => next (.ok reply), fine, fun reply => later _,
            fun _ => take_call_answered lost⟩
  | sleep ctx span next => exact .inl ⟨_, asks _, fun _ => rfl⟩
  | now next => exact .inl ⟨_, asks _, fun _ => rfl⟩
  | fresh next => exact .inl ⟨_, asks _ given, fun _ => rfl⟩
  | log event next => exact .inl ⟨next, asks, fun _ => rfl⟩

/-- Two systems stay related when the second one leaves turns out, if a turn that is left out is not
noticed and a turn that is kept leads to related states.
-/
theorem related_of_filter {σ τ : Type} {R : σ → τ → Prop} {step : σ → Turn → σ}
    {step' : τ → Turn → τ} {kept : Turn → Bool}
    (skip : ∀ {a b turn}, R a b → kept turn = false → R (step a turn) b)
    (next : ∀ {a b turn}, R a b → kept turn = true → R (step a turn) (step' b turn))
    {a : σ} {b : τ} (related : R a b) (turns : List Turn)
    : R (turns.foldl step a) ((turns.filter kept).foldl step' b) := by
  induction turns generalizing a b with
  | nil => exact related
  | cons turn turns ih =>
      cases isKept : kept turn with
      | false =>
          rw [List.filter_cons_of_neg (by simp [isKept])]
          exact ih (skip related isKept)
      | true =>
          rw [List.filter_cons_of_pos isKept]
          exact ih (next related isKept)

/-- Turns that a flow takes one after the other. -/
def takeAll (name : String) (turns : List Turn) (backends : InMemory) (rest : Action α)
    : InMemory × Action α :=
  turns.foldl (fun left turn => turn.take name left.1 left.2) (backends, rest)

/-- A flow that is run on its own takes turns, by induction on what it has left to do. -/
theorem turns_of_run {verdict : Except ScorerFault Verdict} {wall : Instant → Timestamp}
    {rest : Action α} {result : α} {world after : World Call InMemory} (number : Nat)
    (ran : rest.run (InMemory.environment verdict wall fun _ => name) none world
      = (some result, after))
    : ∃ turns : List Turn,
        (∀ turn ∈ turns, turn.number = number)
        ∧ takeAll name turns world.state rest = (after.state, .done result) := by
  -- One turn before the turns of what is left.
  have further {backends : InMemory} {left : Action α} (turn : Turn)
      (own : turn.number = number)
      (later : ∃ turns : List Turn,
        (∀ turn ∈ turns, turn.number = number)
        ∧ takeAll name turns (turn.take name backends left).1 (turn.take name backends left).2
          = (after.state, .done result))
      : ∃ turns : List Turn,
          (∀ turn ∈ turns, turn.number = number)
          ∧ takeAll name turns backends left = (after.state, .done result) := by
    obtain ⟨turns, owns, comes⟩ := later
    exact ⟨turn :: turns, List.forall_mem_cons.mpr ⟨own, owns⟩, comes⟩
  -- The two turns that a run on its own can take: undisturbed, or interrupted.
  let answered (clock : Instant) : Turn := ⟨number, clock, wall clock, none, verdict⟩
  let cutOff (clock : Instant) (kind : Interrupt) : Turn :=
    ⟨number, clock, wall clock, some kind, verdict⟩
  induction rest generalizing world with
  | done outcome =>
      cases ran
      exact ⟨[], List.forall_mem_nil _, rfl⟩
  | call ctx request next ih =>
      cases free : ctx.interruption world.clock with
      | some kind =>
          simp only [Flow.run, Flow.runCall, free] at ran
          have later := ih _ ran
          exact further (cutOff world.clock kind) rfl later
      | none =>
          simp only [Flow.run, InMemory.runCall_environment free] at ran
          have later := ih _ ran
          exact further (answered world.clock) rfl later
  | sleep ctx span next ih =>
      simp only [Flow.run] at ran
      split at ran
      · next reply clock waited =>
          have later := ih reply ran
          cases reply with
          | ok done => exact further (answered world.clock) rfl later
          | error kind => exact further (cutOff world.clock kind) rfl later
      · cases ran
  | now next ih =>
      simp only [Flow.run] at ran
      have later := ih _ ran
      exact further (answered world.clock) rfl later
  -- The name is the same at every turn, since the environment has no other.
  | fresh next ih =>
      simp only [Flow.run] at ran
      have later := ih name ran
      exact further (answered world.clock) rfl later
  | log event next ih =>
      simp only [Flow.run] at ran
      have later := ih ran
      exact further (answered world.clock) rfl later

end ImageVerification.Service
