import ImageVerification.Proofs.Context.Signal
import ImageVerification.Proofs.Flow.Exchanges

/-! Racing work against a context: it is lost to an interruption that comes before the work is done,
or together with it, and otherwise is as if there were no context.

A race is told by asking again and again what is ready, the cancellation before the deadline and
both before the work.
-/

namespace ImageVerification

/-- What comes of asking at an instant for something that may be ready then. -/
abbrev Poll (α : Type) := Instant → Option α

namespace Poll

variable {α β : Type} {poll : Poll α} {start instant other : Instant} {output given : α}

def readyFrom (due : Option Instant) (output : α) : Poll α :=
  fun now => if due.any (· ≤ now) then some output else none

def map (f : α → β) (poll : Poll α) : Poll β := fun now => (poll now).map f

/-- Asks for something, and for something else if that is not ready. -/
def orElse (first second : Poll α) : Poll α := fun now => (first now).or (second now)

/-- Something that is asked for from an instant on is ready at another for the first time. -/
structure Completes (poll : Poll α) (start instant : Instant) (output : α) : Prop where
  asked : start ≤ instant
  ready : poll instant = some output
  first : ∀ earlier, start ≤ earlier → earlier < instant → poll earlier = none

/-- From the instant on at which it falls due, a poll is ready. -/
theorem readyFrom_of_due {due : Instant} (past : due ≤ instant)
    : readyFrom (some due) output instant = some output :=
  if_pos (by simpa using past)

/-- Before that, or if nothing ever falls due, it is not. -/
theorem readyFrom_of_not_due {due : Option Instant} (later : ∀ done ∈ due, instant < done)
    : readyFrom due output instant = none := by
  refine if_neg ?_
  rw [Option.any_eq_true]
  rintro ⟨done, same, past⟩
  exact Nat.not_le_of_lt (later done same) (of_decide_eq_true past)

end Poll

namespace Context

variable {ctx : Context} {start stop done now later : Instant} {due : Option Instant}

/-- A context is interrupted from the first instant of an interruption on. -/
theorem interruption_ne_none_iff
    : ctx.interruption now ≠ none ↔ ∃ stop ∈ ctx.interruptAt, stop ≤ now := by
  rw [ne_eq, ctx.interruption_eq_none_iff, allows]
  cases ctx.interruptAt <;> simp

/-- Before it, the context is free; the contrapositive of the above. -/
theorem interruption_of_free (before : ∀ stop ∈ ctx.interruptAt, now < stop)
    : ctx.interruption now = none := by
  by_contra interrupted
  obtain ⟨stop, found, past⟩ := interruption_ne_none_iff.mp interrupted
  exact Nat.not_lt_of_le past (before stop found)

/-- A context is told to be interrupted by asking for its cancellation and then its deadline. -/
def signal (ctx : Context) : Poll Interrupt :=
  (Poll.readyFrom ctx.cancelledAt .cancelled).orElse
    (Poll.readyFrom ctx.deadline .deadlineExceeded)

/-- A look at the context before a race tells the same as the race does. -/
theorem signal_eq (ctx : Context) : ctx.signal = ctx.interruption := by
  funext now
  unfold signal Poll.orElse Poll.readyFrom interruption
  split <;> rfl

/-- Work that is due at an instant, or never, is asked for after the signals of a context. -/
def raced (ctx : Context) (due : Option Instant) : Poll (Except Interrupt Unit) :=
  (ctx.signal.map .error).orElse (Poll.readyFrom due (.ok ()))

/-- The end of a race is what is ready first. -/
def Race.Tells (poll : Poll (Except Interrupt Unit)) (start : Instant) : Race → Prop
  | finished instant => poll.Completes start instant (.ok ())
  | interrupted kind instant => poll.Completes start instant (.error kind)
  | pending => ∀ now, start ≤ now → poll now = none

/-- A race is lost at its start, or at a later interruption if that is not too late. -/
theorem race_of_lost (first : ctx.interruptAt = some stop)
    (lost : stop ≤ start ∨ ∀ done ∈ due, stop ≤ done)
    : ctx.race start due
      = .interrupted (ctx.kindAt (max start stop)) (max start stop) := by
  rcases Nat.lt_or_ge start stop with before | after
  · rw [Nat.max_eq_right (Nat.le_of_lt before)]
    rcases race_cases first before due with ⟨done, same, inTime, -⟩ | interrupted
    · have late := lost.resolve_left (Nat.not_le_of_lt before) done same
      exact absurd inTime (Nat.not_lt_of_le late)
    · exact interrupted
  · rw [Nat.max_eq_left after]
    have why := interruption_of_after first after
    simp only [race, why]

/-- Work wins if the race begins, and the work is done, before any interruption. -/
theorem race_of_won (won : ∀ stop ∈ ctx.interruptAt, start < stop ∧ done < stop)
    : ctx.race start (some done) = .finished done := by
  have free := interruption_of_free fun stop first => (won stop first).1
  cases first : ctx.interruptAt with
  | none => simp only [race, free, first]
  | some stop => simp only [race, free, first, if_pos (won stop first).2]

/-- Where neither side ever comes, the race is never decided. -/
theorem race_of_endless (never : ctx.interruptAt = none) (start : Instant)
    : ctx.race start none = .pending := by
  have free : ctx.interruption start = none := interruption_of_free (by simp [never])
  simp only [race, free, never]

/-- A race is lost, won, or goes on for ever. -/
theorem race_trichotomy (ctx : Context) (start : Instant) (due : Option Instant)
    : (∃ stop, ctx.interruptAt = some stop ∧ (stop ≤ start ∨ ∀ done ∈ due, stop ≤ done))
      ∨ (∃ done, due = some done ∧ ∀ stop ∈ ctx.interruptAt, start < stop ∧ done < stop)
      ∨ ctx.interruptAt = none ∧ due = none := by
  cases first : ctx.interruptAt with
  | none =>
      cases due with
      | none => exact .inr (.inr ⟨rfl, rfl⟩)
      | some done => exact .inr (.inl ⟨done, rfl, nofun⟩)
  | some stop =>
      by_cases lost : stop ≤ start ∨ ∀ done ∈ due, stop ≤ done
      · exact .inl ⟨stop, rfl, lost⟩
      · obtain ⟨before, done, due, inTime⟩
            : start < stop ∧ ∃ done, due = some done ∧ done < stop := by
          simpa using lost
        refine .inr (.inl ⟨done, due, ?_⟩)
        rintro _ ⟨⟩
        exact ⟨before, inTime⟩

/-- A race ends as asking for the signals of its context and then for the work tells. -/
theorem race_tells (ctx : Context) (early : ∀ done ∈ due, start ≤ done)
    : (ctx.race start due).Tells (ctx.raced due) start := by
  have quiet {instant : Instant} (before : ∀ stop ∈ ctx.interruptAt, instant < stop)
      : ctx.signal.map (.error : Interrupt → Except Interrupt Unit) instant = none := by
    rw [Poll.map, signal_eq, interruption_of_free before]
    rfl
  have asleep {instant : Instant} (before : ∀ stop ∈ ctx.interruptAt, instant < stop)
      (later : ∀ done ∈ due, instant < done)
      : ctx.raced due instant = none := by
    rw [raced, Poll.orElse, quiet before, Poll.readyFrom_of_not_due later]
    rfl
  rcases ctx.race_trichotomy start due with ⟨stop, first, lost⟩ | ⟨done, rfl, won⟩ | ⟨never, rfl⟩
  · rw [race_of_lost first lost]
    refine ⟨Nat.le_max_left _ _, ?_, fun earlier late before => ?_⟩
    · have why := interruption_of_after first (Nat.le_max_right start stop)
      rw [raced, Poll.orElse, Poll.map, signal_eq, why]
      rfl
    · -- Before the interruption the context is free and the work not done.
      have free : earlier < stop := by
        by_contra past
        have latest := Nat.max_le.mpr ⟨late, Nat.le_of_not_lt past⟩
        exact Nat.not_lt_of_le latest before
      refine asleep (fun other found => ?_) fun done due => ?_
      · rwa [Option.some_inj.mp (found.symm.trans first)]
      · rcases lost with already | tooLate
        · exact absurd (Nat.lt_of_lt_of_le free already) (Nat.not_lt_of_le late)
        · exact Nat.lt_of_lt_of_le free (tooLate done due)
  · rw [race_of_won won]
    refine ⟨early done rfl, ?_, fun earlier late before => asleep ?_ ?_⟩
    · rw [raced, Poll.orElse, quiet fun stop first => (won stop first).2,
        Poll.readyFrom_of_due (Nat.le_refl done)]
      rfl
    · exact fun stop first => Nat.lt_trans before (won stop first).2
    · rintro _ ⟨⟩
      exact before
  · rw [race_of_endless never]
    exact fun now late => asleep (by simp [never]) nofun

/-- Once a context is interrupted it stays so. -/
theorem interruption_stays (interrupted : ctx.interruption now ≠ none) (passed : now ≤ later)
    : ctx.interruption later ≠ none := by
  obtain ⟨stop, first, past⟩ := interruption_ne_none_iff.mp interrupted
  exact interruption_ne_none_iff.mpr ⟨stop, first, Nat.le_trans past passed⟩

/-- How work ends that is raced against a context from an instant on, and that would be done at
another, or never, with some output. Nothing comes of it when neither of the two ever happens.
-/
structure Raced {α : Type} (ctx : Context) (start : Instant) (due : Option Instant)
    (gives : α → Prop) (ended : Option (Except Interrupt α)) (instant : Instant) : Prop where
  lost_iff :
    (∃ kind, ended = some (.error kind))
    ↔ ∃ stop ∈ ctx.interruptAt, stop ≤ start ∨ ∀ done ∈ due, stop ≤ done
  lost :
    ∀ kind,
      ended = some (.error kind)
      → ∀ stop ∈ ctx.interruptAt,
          instant = max start stop ∧ kind = ctx.kindAt (max start stop)
  won_iff :
    (∃ output, ended = some (.ok output))
    ↔ ∃ done ∈ due, ∀ stop ∈ ctx.interruptAt, start < stop ∧ done < stop
  won : ∀ output, ended = some (.ok output) → due = some instant ∧ gives output

section Raced

variable {α : Type} {gives : α → Prop}

/-- A race that the interruption wins ends with it, at the later of start and interruption. Nothing
else can have come before, since the work was not done in time.
-/
theorem raced_of_lost (first : ctx.interruptAt = some stop)
    (lost : stop ≤ start ∨ ∀ done ∈ due, stop ≤ done)
    : ctx.Raced start due gives (some (.error (ctx.kindAt (max start stop))))
        (max start stop) := by
  refine ⟨iff_of_true ⟨_, rfl⟩ ⟨stop, first, lost⟩, ?_, iff_of_false nofun ?_, nofun⟩
  · rintro _ ⟨⟩ other found
    obtain rfl : stop = other := Option.some_inj.mp (first.symm.trans found)
    exact ⟨rfl, rfl⟩
  · rintro ⟨done, due, won⟩
    obtain ⟨before, inTime⟩ := won stop first
    rcases lost with already | tooLate
    · exact Nat.not_le_of_lt before already
    · exact Nat.not_le_of_lt inTime (tooLate done due)

/-- A race that the work wins ends with its output. The interruption cannot have won it too, since
it comes after both the start and the work.
-/
theorem raced_of_won {output : α}
    (won : ∀ stop ∈ ctx.interruptAt, start < stop ∧ done < stop) (given : gives output)
    : ctx.Raced start (some done) gives (some (.ok output)) done := by
  refine ⟨iff_of_false nofun ?_, nofun, iff_of_true ⟨_, rfl⟩ ⟨done, rfl, won⟩, ?_⟩
  · rintro ⟨stop, first, already | tooLate⟩
    · exact Nat.not_le_of_lt (won stop first).1 already
    · exact Nat.not_le_of_lt (won stop first).2 (tooLate done rfl)
  · rintro _ ⟨⟩
    exact ⟨rfl, given⟩

/-- A race that nobody wins leaves no result, whatever instant one looks at. -/
theorem raced_of_endless (never : ctx.interruptAt = none) (instant : Instant)
    : ctx.Raced start none gives none instant := by
  refine ⟨iff_of_false nofun ?_, nofun, iff_of_false nofun nofun, nofun⟩
  simp [never]

end Raced

end Context

namespace Conduct

variable {σ ρ : Type}

/-- When a call is answered that has been accepted at an instant, if it ever is. -/
def doneAt? (conduct : Conduct σ ρ) (now : Instant) : Option Instant :=
  conduct.before.bind fun before => conduct.after.map fun after => now + before + after

/-- Work is done after both of its waits, if these end. -/
theorem mem_doneAt? {conduct : Conduct σ ρ} {now done : Instant}
    : done ∈ conduct.doneAt? now
      ↔ ∃ before ∈ conduct.before, ∃ after ∈ conduct.after, now + before + after = done := by
  simp [doneAt?, Option.bind_eq_some_iff]

/-- What a call is answered that has been accepted at an instant. -/
def Gives (conduct : Conduct σ ρ) (now : Instant) (state : σ) (reply : ρ) : Prop :=
  ∃ before ∈ conduct.before, reply = (conduct.effect (now + before) state).1

end Conduct

namespace Flow

open Context

variable {Call : Type} {Reply : Call → Type} {σ : Type} {ctx : Context} {request : Call}
  {world : World Call σ}

/-- To perform a call is to make it and return its reply. -/
theorem run_perform_eq (env : Environment Call Reply σ) (ctx : Context) (request : Call)
    (world : World Call σ)
    : (perform ctx request).run env none world = runCall env none ctx request world := by
  rw [perform, run]
  rcases runCall env none ctx request world with ⟨_ | reply, after⟩ <;> rfl

/-- A call is raced as a whole, although its effect and its reply are raced one after the other. -/
theorem runCall_raced (env : Environment Call Reply σ)
    (free : ctx.interruption world.clock = none)
    {conduct : Conduct σ (Reply request)} {state : σ}
    (accepted : env.accept request world.clock world.state = (conduct, state))
    : ctx.Raced world.clock (conduct.doneAt? world.clock) (conduct.Gives world.clock state)
        (runCall env none ctx request world).1 (runCall env none ctx request world).2.clock := by
  -- The context is free at the start, so it is interrupted later than that, if at all.
  have inTime {stop : Instant} (first : ctx.interruptAt = some stop) : world.clock < stop := by
    by_contra past
    exact interruption_ne_none_iff.mpr ⟨stop, first, Nat.le_of_not_lt past⟩ free
  rcases ctx.race_trichotomy world.clock (conduct.before.map (world.clock + ·))
    with ⟨stop, first, lost⟩ | ⟨effectAt, due, won⟩ | ⟨never, endless⟩
  · -- The call is interrupted before its effect.
    have raced := race_of_lost first lost
    simp only [runCall, free, accepted, raced, await_interrupted]
    refine raced_of_lost first (.inr fun done due => ?_)
    obtain ⟨before, begun, after, answered, rfl⟩ := Conduct.mem_doneAt?.mp due
    have late := lost.resolve_left (Nat.not_le_of_lt (inTime first)) _
      (Option.mem_map_of_mem _ begun)
    exact Nat.le_trans late (Nat.le_add_right _ _)
  · obtain ⟨before, begun, rfl⟩ := Option.map_eq_some_iff.mp due
    have effected := race_of_won won
    rcases ctx.race_trichotomy (world.clock + before)
        (conduct.after.map (world.clock + before + ·))
      with ⟨stop, first, lost⟩ | ⟨replyAt, due, answeredFirst⟩ | ⟨never, endless⟩
    · -- The call is interrupted between its effect and the reply.
      have raced := race_of_lost first lost
      have latest : max (world.clock + before) stop = max world.clock stop := by
        rw [Nat.max_eq_right (Nat.le_of_lt (won stop first).2),
          Nat.max_eq_right (Nat.le_of_lt (inTime first))]
      rw [latest] at raced
      simp only [runCall, free, accepted, begun, Option.map_some, effected, await_finished, raced,
        await_interrupted]
      refine raced_of_lost first (.inr fun done due => ?_)
      obtain ⟨_, same, after, answered, rfl⟩ := Conduct.mem_doneAt?.mp due
      obtain rfl : before = _ := Option.some_inj.mp (begun.symm.trans same)
      exact lost.resolve_left (Nat.not_le_of_lt (won stop first).2) _
        (Option.mem_map_of_mem _ answered)
    · -- Both parts come before the interruption, and the instants add up.
      obtain ⟨after, answered, rfl⟩ := Option.map_eq_some_iff.mp due
      have raced := race_of_won answeredFirst
      simp only [runCall, free, accepted, begun, answered, Option.map_some, effected, raced,
        await_finished, Conduct.doneAt?, Option.bind_some]
      exact raced_of_won (fun stop first => ⟨inTime first, (answeredFirst stop first).2⟩)
        ⟨before, begun, rfl⟩
    · -- An effect without a reply, and nothing that would interrupt the wait for one.
      have unanswered : conduct.after = none := Option.map_eq_none_iff.mp endless
      have raced := race_of_endless never (world.clock + before)
      simp only [runCall, free, accepted, begun, unanswered, Option.map_some, Option.map_none,
        effected, await_finished, raced, await_pending, Conduct.doneAt?, Option.bind_some]
      exact raced_of_endless never _
  · -- Nothing ever comes of the call, not even its effect.
    have uneffected : conduct.before = none := Option.map_eq_none_iff.mp endless
    have raced := race_of_endless never world.clock
    simp only [runCall, free, accepted, uneffected, Option.map_none, raced, await_pending,
      Conduct.doneAt?, Option.bind_none]
    exact raced_of_endless never _

/-- A call is recorded at the instant at which it is made, and as begun unless the context was
interrupted by then. How it ends makes no difference.
-/
theorem calls_runCall (env : Environment Call Reply σ) (ctx : Context) (request : Call)
    (world : World Call σ)
    : (runCall env none ctx request world).2.calls
      = world.calls ++ [⟨world.clock, request, (ctx.interruption world.clock).isNone⟩] := by
  unfold runCall
  split
  · next why => simp [why]
  · next free =>
      simp only [free, Option.isNone_none]
      split
      · split <;> rfl
      · rfl
      · rfl

/-- A call under a context that is interrupted already is not begun. -/
theorem runCall_raced_of_interrupted (env : Environment Call Reply σ)
    (interrupted : ctx.interruption world.clock ≠ none) (due : Option Instant)
    (gives : Reply request → Prop)
    : ctx.Raced world.clock due gives (runCall env none ctx request world).1
        (runCall env none ctx request world).2.clock := by
  obtain ⟨stop, first, past⟩ := interruption_ne_none_iff.mp interrupted
  have why := interruption_of_after first past
  rw [runCall_of_interruption env none request why]
  have raced : ctx.Raced world.clock due gives _ _ := raced_of_lost first (.inl past)
  rwa [Nat.max_eq_left past] at raced

/-- A wait is raced against its context as work that is done after its span. -/
theorem run_pause_raced (env : Environment Call Reply σ) (ctx : Context) (span : Duration)
    (world : World Call σ)
    : ctx.Raced world.clock (some (world.clock + span.nanos)) (fun _ => True)
        ((pause ctx span).run env none world).1 ((pause ctx span).run env none world).2.clock := by
  rcases ctx.race_trichotomy world.clock (some (world.clock + span.nanos))
    with ⟨stop, first, lost⟩ | ⟨done, ⟨⟩, won⟩ | ⟨-, impossible⟩
  · simp only [pause, run, race_of_lost first lost, await_interrupted]
    exact raced_of_lost first lost
  · simp only [pause, run, race_of_won won, await_finished]
    exact raced_of_won won trivial
  · cases impossible

end Flow

namespace Context

open ImageVerification.Flow

/-- A context rules what is done under it: it stays interrupted, and calls and waits end as races
with it. A call that meets an interruption is not put to anybody and changes nothing.
-/
structure Rules (ctx : Context) : Prop where
  stays :
    ∀ now later, now ≤ later → ctx.interruption now ≠ none → ctx.interruption later ≠ none
  told :
    ∀ start due,
      (∀ done ∈ due, start ≤ done) → (ctx.race start due).Tells (ctx.raced due) start
  called :
    ∀ {Call : Type} {Reply : Call → Type} {σ : Type} (env : Environment Call Reply σ) request
        (world : World Call σ),
      let conduct := (env.accept request world.clock world.state).1
      ctx.Raced world.clock (conduct.doneAt? world.clock)
        (conduct.Gives world.clock (env.accept request world.clock world.state).2)
        ((perform ctx request).run env none world).1
        ((perform ctx request).run env none world).2.clock
  begun :
    ∀ {Call : Type} {Reply : Call → Type} {σ : Type} (env : Environment Call Reply σ) request
        (world : World Call σ),
      ((perform ctx request).run env none world).2.calls
      = world.calls ++ [⟨world.clock, request, (ctx.interruption world.clock).isNone⟩]
  unchanged :
    ∀ {Call : Type} {Reply : Call → Type} {σ : Type} (env : Environment Call Reply σ) request
        (world : World Call σ),
      (∃ stop ∈ ctx.interruptAt, stop ≤ world.clock)
      → ((perform ctx request).run env none world).2.state = world.state
  paused :
    ∀ {Call : Type} {Reply : Call → Type} {σ : Type} (env : Environment Call Reply σ) span
        (world : World Call σ),
      ctx.Raced world.clock (some (world.clock + span.nanos)) (fun _ => True)
        ((pause ctx span).run env none world).1 ((pause ctx span).run env none world).2.clock

/-- Every context rules what is done under it. Witness: its interruption is monotone in time, and
calls and waits are races, each of which is lost, won or endless.
-/
theorem rules (ctx : Context) : ctx.Rules := by
  refine ⟨fun _ _ passed interrupted => interruption_stays interrupted passed,
    fun start due early => ctx.race_tells early, fun env request world => ?_,
    fun env request world => ?_, fun env request world past => ?_,
    fun env span world => run_pause_raced env ctx span world⟩
  · rw [run_perform_eq]
    by_cases free : ctx.interruption world.clock = none
    · exact runCall_raced env free rfl
    · exact runCall_raced_of_interrupted env free _ _
  · rw [run_perform_eq, calls_runCall]
  · obtain ⟨stop, first, past⟩ := past
    have why := interruption_of_after first past
    rw [run_perform_eq, runCall_of_interruption env none request why]

/-- A context as it is made with a handle or without one, is given deadlines one after the other,
and is left by what is done with the handles.
-/
def built (steps : List Handles.Step) (handle : Option Nat) (deadlines : List Instant) : Context :=
  (SharedContext.derived handle deadlines).resolve (.played steps)

/-- A context has the earliest of its deadlines and is cancelled by the first cancellation by its
handle, however often deadlines have been added; a handle that is dropped before it has cancelled
cancels nothing. Whatever is done under the context is ruled by it.
-/
theorem built_rules (steps : List Handles.Step) (handle : Option Nat) (deadlines : List Instant)
    : EarliestOf (· ∈ deadlines) (built steps handle deadlines).deadline
      ∧ EarliestOf (fun instant => ∃ id ∈ handle, Handles.Cancels steps id instant)
          (built steps handle deadlines).cancelledAt
      ∧ (∀ others,
          (built steps handle others).cancelledAt = (built steps handle deadlines).cancelledAt)
      ∧ (∀ id before after,
          handle = some id
          → steps = before ++ .drop id :: after
          → id < Handles.madeCount before
          → (∀ instant, .cancelAt id instant ∉ before)
          → (built steps handle deadlines).cancelledAt = none)
      ∧ (built steps handle deadlines).Rules := by
  have cancelled := SharedContext.earliest_cancellation handle deadlines steps
  refine ⟨SharedContext.earliest_deadline handle deadlines, cancelled, fun others => ?_, ?_,
    rules _⟩
  · rw [built, built, SharedContext.resolve, SharedContext.resolve, SharedContext.handle_derived,
      SharedContext.handle_derived]
  · rintro id before after rfl rfl made uncancelled
    have powerless := Handles.not_cancels_of_dropped made uncancelled after
    cases fires : (built (before ++ .drop id :: after) (some id) deadlines).cancelledAt with
    | none => rfl
    | some instant =>
        rw [built] at fires
        rw [fires] at cancelled
        obtain ⟨_, ⟨⟩, cancels⟩ := cancelled.1
        exact absurd cancels (powerless instant)

end Context

end ImageVerification
