import ImageVerification.Proofs.Flow.Interruption

/-! The exchanges of a run: the calls it begins with what came of each, in their order. Together
with the result they tell all that a flow learns of its collaborators and they of it.
-/

namespace ImageVerification

namespace Context

/-- A race is lost to the interruption that the context shows then. -/
theorem interruption_of_race {ctx : Context} {start stop : Instant} {due : Option Instant}
    {kind : Interrupt} (lost : ctx.race start due = .interrupted kind stop)
    : ctx.interruption stop = some kind := by
  have atFirst {first : Instant} (isFirst : ctx.interruptAt = some first)
      (same : Race.interrupted ((ctx.interruption first).getD .deadlineExceeded) first
        = .interrupted kind stop)
      : ctx.interruption stop = some kind := by
    have why := interruption_of_after isFirst (Nat.le_refl first)
    rw [why, Option.getD_some] at same
    cases same
    exact why
  unfold race at lost
  split at lost
  · next already =>
      cases lost
      exact already
  · split at lost
    · cases lost
    · next isFirst =>
        split at lost
        · cases lost
        · exact atFirst isFirst lost
    · next isFirst => exact atFirst isFirst lost
    · cases lost

/-- A race is won at an instant at which the context is not interrupted. -/
theorem allows_of_race {ctx : Context} {start finish : Instant} {due : Option Instant}
    (won : ctx.race start due = .finished finish)
    : due = some finish ∧ ctx.allows finish = true := by
  unfold race at won
  split at won
  · cases won
  · split at won
    · next isFirst =>
        cases won
        exact ⟨rfl, by simp [allows, isFirst]⟩
    · next isFirst =>
        split at won
        · next before =>
            cases won
            exact ⟨rfl, by simpa [allows, isFirst] using before⟩
        · cases won
    · cases won
    · cases won

end Context

namespace Environment

variable {Call : Type} {Reply : Call → Type} {σ : Type}

/-- Accepts a call and carries it out at an instant. -/
def carryOut (env : Environment Call Reply σ) (request : Call) (now : Instant) (state : σ)
    (instant : Instant)
    : Reply request × σ :=
  let (conduct, accepted) := env.accept request now state
  conduct.effect instant accepted

end Environment

/-- A call that has been begun, and what came of it. -/
structure Exchange (Call : Type) (Reply : Call → Type) (σ : Type) where
  request : Call
  /-- Nothing while the call is under way. -/
  reply : Option (Except Interrupt (Reply request))
  before : World Call σ
  after : World Call σ

/-- How an exchange shows among the calls. -/
def Exchange.record {Call : Type} {Reply : Call → Type} {σ : Type}
    (exchange : Exchange Call Reply σ)
    : CallRecord Call :=
  ⟨exchange.before.clock, exchange.request, true⟩

namespace Flow

variable {Call : Type} {Reply : Call → Type} {σ τ α β : Type}

/-- The exchange of a single call, unless its context keeps it from being begun. -/
def exchange? (env : Environment Call Reply σ) (limit : Option Instant) (ctx : Context)
    (request : Call) (world : World Call σ)
    : List (Exchange Call Reply σ) :=
  match ctx.interruption world.clock with
  | some _ => []
  | none =>
      let (reply, after) := runCall env limit ctx request world
      [⟨request, reply, world, after⟩]

/-- The exchanges of a run, up to a limit if there is one. -/
def exchanges (env : Environment Call Reply σ) (limit : Option Instant)
    : Flow Call Reply α → World Call σ → List (Exchange Call Reply σ)
  | done _, _ => []
  | call ctx request next, world =>
      exchange? env limit ctx request world
        ++ match runCall env limit ctx request world with
          | (some reply, world) => exchanges env limit (next reply) world
          | (none, _) => []
  | sleep ctx span next, world =>
      match await limit world.clock (ctx.race world.clock (some (world.clock + span.nanos))) with
      | (some reply, clock) => exchanges env limit (next reply) { world with clock }
      | (none, _) => []
  | now next, world => exchanges env limit (next ⟨world.clock, env.wall world.clock⟩) world
  | fresh next, world =>
      exchanges env limit (next (env.name world.named)) { world with named := world.named + 1 }
  | log event next, world =>
      exchanges env limit next { world with events := world.events ++ [event] }

/-- A composed flow has the exchanges of its first part and then of what follows it. -/
theorem exchanges_bind (env : Environment Call Reply σ) (limit : Option Instant)
    (flow : Flow Call Reply α) (f : α → Flow Call Reply β) (world : World Call σ)
    : exchanges env limit (flow.bind f) world
      = exchanges env limit flow world
        ++ match run env limit flow world with
          | (some result, world) => exchanges env limit (f result) world
          | (none, _) => [] := by
  induction flow generalizing world with
  | done result => rfl
  | call ctx request next ih =>
      simp only [bind, exchanges, run, List.append_assoc]
      rcases runCall env limit ctx request world with ⟨_ | reply, called⟩
      · rfl
      · simp only [ih reply called]
  | sleep ctx span next ih =>
      simp only [bind, exchanges, run]
      rcases await limit world.clock (ctx.race world.clock (some (world.clock + span.nanos)))
        with ⟨_ | reply, clock⟩
      · rfl
      · exact ih reply { world with clock }
  | now next ih => exact ih ⟨world.clock, env.wall world.clock⟩ world
  | fresh next ih => exact ih (env.name world.named) { world with named := world.named + 1 }
  | log event next ih => exact ih { world with events := world.events ++ [event] }

/-- What a run comes to: its exchanges, its result if it has one, and the world after it. -/
structure Goes (env : Environment Call Reply σ) (limit : Option Instant)
    (flow : Flow Call Reply α) (world : World Call σ) (trace : List (Exchange Call Reply σ))
    (result : Option α) (after : World Call σ)
    : Prop where
  traced : flow.exchanges env limit world = trace
  ran : flow.run env limit world = (result, after)

variable {env : Environment Call Reply σ} {limit : Option Instant} {ctx : Context}
  {request : Call} {world after : World Call σ} {trace : List (Exchange Call Reply σ)}
  {result : Option α}

/-- Every run comes to something. -/
theorem goes_run (env : Environment Call Reply σ) (limit : Option Instant)
    (flow : Flow Call Reply α) (world : World Call σ)
    : Goes env limit flow world (flow.exchanges env limit world) (flow.run env limit world).1
        (flow.run env limit world).2 :=
  ⟨rfl, rfl⟩

/-- A flow that is done begins no call and changes nothing. -/
theorem Goes.done_eq {value : α} (goes : Goes env limit (done value) world trace result after)
    : trace = [] ∧ result = some value ∧ after = world := by
  obtain ⟨rfl, ran⟩ := goes
  cases ran
  exact ⟨rfl, rfl, rfl⟩

/-- A composed flow stops in its first part, or goes on from the result of it. -/
theorem Goes.bind_cases {flow : Flow Call Reply β} {f : β → Flow Call Reply α}
    (goes : Goes env limit (flow.bind f) world trace result after)
    : Goes env limit flow world trace none after ∧ result = none
      ∨ ∃ value middle first rest,
          Goes env limit flow world first (some value) middle
          ∧ Goes env limit (f value) middle rest result after
          ∧ trace = first ++ rest := by
  obtain ⟨rfl, ran⟩ := goes
  rw [run_bind] at ran
  rw [exchanges_bind]
  rcases ended : flow.run env limit world with ⟨_ | value, middle⟩
  · rw [ended] at ran
    cases ran
    exact .inl ⟨⟨(List.append_nil _).symm, ended⟩, rfl⟩
  · rw [ended] at ran
    exact .inr ⟨value, middle, _, _, ⟨rfl, ended⟩, ⟨rfl, ran⟩, rfl⟩

/-- A call under an interrupted context is recorded as not begun, and its reply is the interruption.
-/
theorem runCall_of_interruption {kind : Interrupt} (env : Environment Call Reply σ)
    (limit : Option Instant) (request : Call) (why : ctx.interruption world.clock = some kind)
    : runCall env limit ctx request world
      = (some (.error kind),
          { world with calls := world.calls ++ [⟨world.clock, request, false⟩] }) := by
  simp only [runCall, why]

/-- A call that is carried out and answered at once. -/
theorem runCall_at_once (begins : (env.accept request world.clock world.state).1.before = some 0)
    (ends : (env.accept request world.clock world.state).1.after = some 0)
    (free : ctx.interruption world.clock = none)
    : ∃ after,
        runCall env none ctx request world
        = (some (.ok (env.carryOut request world.clock world.state world.clock).1), after) := by
  have allowed : ctx.allows (world.clock + 0 + 0) = true :=
    (ctx.interruption_eq_none_iff world.clock).mp free
  rcases accepted : env.accept request world.clock world.state with ⟨conduct, state⟩
  rw [accepted] at begins ends
  have ran := runCall_of_allows accepted begins ends allowed
  rw [Nat.add_zero] at ran
  rw [Environment.carryOut, accepted]
  exact ⟨_, ran⟩

/-- A race that is won in time is waited for. -/
theorem await_of_within {due : Instant} (inTime : within limit due = true) (clock : Instant)
    : await limit clock (.finished due) = (some (.ok ()), due) := by
  simp only [await, if_pos inTime]

/-- A wait ends with the work, which is then in time, or with the interruption, or at the limit and
without a reply; by cases on the race, and on whether its end is in time.
-/
theorem await_cases (limit : Option Instant) (clock : Instant) (race : Context.Race)
    : (∃ due,
        race = .finished due
        ∧ within limit due = true
        ∧ await limit clock race = (some (.ok ()), due))
      ∨ (∃ kind stop,
          race = .interrupted kind stop ∧ await limit clock race = (some (.error kind), stop))
      ∨ ∃ stopped, await limit clock race = (none, stopped) := by
  unfold await
  cases race with
  | finished due =>
      dsimp only
      split
      · next inTime => exact .inl ⟨due, rfl, inTime, rfl⟩
      · exact .inr (.inr ⟨_, rfl⟩)
  | interrupted kind stop =>
      dsimp only
      split
      · exact .inr (.inl ⟨kind, stop, rfl, rfl⟩)
      · exact .inr (.inr ⟨_, rfl⟩)
  | pending => exact .inr (.inr ⟨_, rfl⟩)

/-- How a call that has been begun leaves the state: as it was accepted or as its effect has left
it, and answered or not. An effect whose reply is due at once is answered.
-/
inductive Carried (env : Environment Call Reply σ) (request : Call) (now : Instant) (state : σ)
    : Option (Except Interrupt (Reply request)) → σ → Prop where
  | accepted {reply : Option (Except Interrupt (Reply request))}
      (unanswered : ∀ value, reply ≠ some (.ok value))
      : Carried env request now state reply (env.accept request now state).2
  | answered (instant : Instant)
      : Carried env request now state (some (.ok (env.carryOut request now state instant).1))
          (env.carryOut request now state instant).2
  | unheard (instant : Instant) {reply : Option (Except Interrupt (Reply request))}
      (unanswered : ∀ value, reply ≠ some (.ok value))
      (late : (env.accept request now state).1.after ≠ some 0)
      : Carried env request now state reply (env.carryOut request now state instant).2

/-- What a call comes to that has been begun. -/
structure Begun (env : Environment Call Reply σ) (ctx : Context) (request : Call)
    (world : World Call σ) (reply : Option (Except Interrupt (Reply request)))
    (after : World Call σ)
    : Prop where
  carried : Carried env request world.clock world.state reply after.state
  interrupted : ∀ kind, reply = some (.error kind) → ctx.interruption after.clock = some kind
  recorded : after.calls = world.calls ++ [⟨world.clock, request, true⟩]

/-- A call under a context that is free has been begun: it has been answered, interrupted before or
after it took effect, or is under way still. One case for each way in which the two waits of a call,
before its effect and after it, can end.
-/
theorem begun_runCall (env : Environment Call Reply σ) (limit : Option Instant) (request : Call)
    (free : ctx.interruption world.clock = none)
    : Begun env ctx request world (runCall env limit ctx request world).1
        (runCall env limit ctx request world).2 := by
  rcases accepted : env.accept request world.clock world.state with ⟨conduct, state⟩
  have took (instant : Instant)
      : env.carryOut request world.clock world.state instant = conduct.effect instant state := by
    rw [Environment.carryOut, accepted]
  have untouched {reply : Option (Except Interrupt (Reply request))}
      (unanswered : ∀ value, reply ≠ some (.ok value))
      : Carried env request world.clock world.state reply state := by
    have asAccepted : Carried env request world.clock world.state reply _ := .accepted unanswered
    rwa [accepted] at asAccepted
  simp only [runCall, free, accepted]
  rcases await_cases limit world.clock (ctx.race world.clock (conduct.before.map (world.clock + ·)))
    with ⟨instant, worked, inTime, ended⟩ | ⟨kind, stop, lost, ended⟩ | ⟨stopped, ended⟩
  · have answered
        : Carried env request world.clock world.state (some (.ok (conduct.effect instant state).1))
            (conduct.effect instant state).2 :=
      took instant ▸ .answered instant
    -- A reply that is due in the instant of the effect is not missed.
    have prompt (due : conduct.after = some 0)
        : await limit instant (ctx.race instant (conduct.after.map (instant + ·)))
          = (some (.ok ()), instant) := by
      have allowed := (Context.allows_of_race worked).2
      rw [due, Option.map_some, Nat.add_zero, Context.race_eq_finished allowed (Nat.le_refl _)]
      exact await_of_within inTime instant
    have unheard {reply : Option (Except Interrupt (Reply request))}
        (unanswered : ∀ value, reply ≠ some (.ok value)) (late : conduct.after ≠ some 0)
        : Carried env request world.clock world.state reply (conduct.effect instant state).2 := by
      rw [← took]
      exact .unheard instant unanswered (by rwa [accepted])
    simp only [ended]
    rcases await_cases limit instant (ctx.race instant (conduct.after.map (instant + ·)))
      with ⟨replied, -, -, heard⟩ | ⟨kind, stop, lost, heard⟩ | ⟨stopped, heard⟩
    · simp only [heard]
      exact ⟨answered, by simp, rfl⟩
    · simp only [heard]
      refine ⟨unheard (by simp) fun due => ?_, ?_, rfl⟩
      · cases heard.symm.trans (prompt due)
      · rintro _ ⟨⟩
        exact Context.interruption_of_race lost
    · simp only [heard]
      refine ⟨unheard (by simp) fun due => ?_, by simp, rfl⟩
      cases heard.symm.trans (prompt due)
  · simp only [ended]
    refine ⟨untouched (by simp), ?_, rfl⟩
    rintro _ ⟨⟩
    exact Context.interruption_of_race lost
  · simp only [ended]
    exact ⟨untouched (by simp), by simp, rfl⟩

/-- A flow of a single call either is kept from it by its context or begins it, and its reply is
then that of the one exchange.
-/
theorem Goes.perform_cases {reply : Option (Except Interrupt (Reply request))}
    (goes : Goes env limit (perform ctx request) world trace reply after)
    : (∃ kind, trace = [] ∧ reply = some (.error kind) ∧ ctx.interruption after.clock = some kind)
      ∨ trace = [⟨request, reply, world, after⟩] ∧ Begun env ctx request world reply after := by
  obtain ⟨rfl, ran⟩ := goes
  have same : runCall env limit ctx request world = (reply, after) := by
    simp only [perform, run] at ran
    rcases called : runCall env limit ctx request world with ⟨_ | reply, middle⟩
    · rwa [called] at ran
    · rwa [called] at ran
  have only : exchanges env limit (perform ctx request) world
      = exchange? env limit ctx request world := by
    simp only [perform, exchanges, same]
    cases reply <;> simp
  rw [only, exchange?]
  cases free : ctx.interruption world.clock with
  | some kind =>
      rw [runCall_of_interruption env limit request free] at same
      cases same
      exact .inl ⟨kind, rfl, rfl, free⟩
  | none =>
      have begun := begun_runCall env limit request free
      rw [same] at begun ⊢
      exact .inr ⟨rfl, begun⟩

/-- A wait has no exchanges; it is over, interrupted or still going on. -/
theorem Goes.pause_cases {span : Duration} {reply : Option (Except Interrupt Unit)}
    (goes : Goes env limit (pause ctx span) world trace reply after)
    : trace = []
      ∧ (reply = none
        ∨ reply = some (.ok ())
        ∨ ∃ kind, reply = some (.error kind) ∧ ctx.interruption after.clock = some kind) := by
  obtain ⟨rfl, ran⟩ := goes
  simp only [pause, run, exchanges] at ran ⊢
  rcases await_cases limit world.clock (ctx.race world.clock (some (world.clock + span.nanos)))
    with ⟨due, -, -, ended⟩ | ⟨kind, stop, lost, ended⟩ | ⟨stopped, ended⟩
  · rw [ended] at ran ⊢
    cases ran
    exact ⟨rfl, .inr (.inl rfl)⟩
  · rw [ended] at ran ⊢
    cases ran
    exact ⟨rfl, .inr (.inr ⟨kind, rfl, Context.interruption_of_race lost⟩)⟩
  · rw [ended] at ran ⊢
    cases ran
    exact ⟨rfl, .inl rfl⟩

/-- An answer is that of the effect, which has then taken place. -/
theorem Carried.of_answer {now : Instant} {state left : σ} {value : Reply request}
    (carried : Carried env request now state (some (.ok value)) left)
    : ∃ instant, env.carryOut request now state instant = (value, left) := by
  generalize answered : some (Except.ok value) = reply at carried
  cases carried with
  | accepted unanswered => exact absurd answered.symm (unanswered value)
  | answered instant =>
      cases answered
      exact ⟨instant, rfl⟩
  | unheard instant unanswered late => exact absurd answered.symm (unanswered value)

/-- What an exchange tells is what came of a call that has been begun. -/
def Occurs (env : Environment Call Reply σ) (exchange : Exchange Call Reply σ) : Prop :=
  ∃ ctx, Begun env ctx exchange.request exchange.before exchange.reply exchange.after

/-- The exchanges occur one after the other and lead from one state to another, which changes in
none but them.
-/
def Linked (env : Environment Call Reply σ) : σ → List (Exchange Call Reply σ) → σ → Prop
  | first, [], last => last = first
  | first, exchange :: rest, last =>
      exchange.before.state = first
      ∧ Occurs env exchange
      ∧ Linked env exchange.after.state rest last

/-- Exchanges in a row are linked if both parts are and the second begins where the first has left
the state.
-/
theorem Linked.append {first middle last : σ} {early late : List (Exchange Call Reply σ)}
    (before : Linked env first early middle) (rest : Linked env middle late last)
    : Linked env first (early ++ late) last := by
  induction early generalizing first with
  | nil =>
      obtain rfl : middle = first := before
      exact rest
  | cons exchange early ih => exact ⟨before.1, before.2.1, ih before.2.2⟩

/-- Linked exchanges can be cut anywhere, by induction on those before the cut. -/
theorem Linked.split {first last : σ} {early late : List (Exchange Call Reply σ)}
    (linked : Linked env first (early ++ late) last)
    : ∃ middle, Linked env first early middle ∧ Linked env middle late last := by
  induction early generalizing first with
  | nil => exact ⟨first, rfl, linked⟩
  | cons exchange early ih =>
      obtain ⟨same, occurs, later⟩ := linked
      obtain ⟨middle, before, rest⟩ := ih later
      exact ⟨middle, ⟨same, occurs, before⟩, rest⟩

/-- What no exchange changes is the same in the end. -/
theorem Linked.keeps {first last : σ} (view : σ → τ) (linked : Linked env first trace last)
    (kept : ∀ exchange ∈ trace,
      Occurs env exchange → view exchange.after.state = view exchange.before.state)
    : view last = view first := by
  induction trace generalizing first with
  | nil => rw [show last = first from linked]
  | cons exchange rest ih =>
      obtain ⟨same, occurs, later⟩ := linked
      have keptLater := ih later fun other member => kept other (List.mem_cons_of_mem _ member)
      rw [keptLater, kept exchange List.mem_cons_self occurs, same]

/-- The exchanges of a run from one world to another: nothing else changes the state or is recorded
as begun.
-/
structure Conducted (env : Environment Call Reply σ) (world : World Call σ)
    (trace : List (Exchange Call Reply σ)) (after : World Call σ)
    : Prop where
  linked : Linked env world.state trace after.state
  recorded :
    after.calls.filter (·.begun) = world.calls.filter (·.begun) ++ trace.map Exchange.record

/-- What two runs in a row have conducted is what their exchanges tell, first of the one and then of
the other.
-/
theorem Conducted.append {middle : World Call σ} {rest : List (Exchange Call Reply σ)}
    (first : Conducted env world trace middle) (later : Conducted env middle rest after)
    : Conducted env world (trace ++ rest) after := by
  refine ⟨first.linked.append later.linked, ?_⟩
  rw [later.recorded, first.recorded, List.map_append, List.append_assoc]

/-- Without a call nothing is to be recorded. -/
theorem conducted_nil (state : after.state = world.state) (calls : after.calls = world.calls)
    : Conducted env world [] after :=
  ⟨state, by simp [calls]⟩

/-- What goes on before the first call does not matter if it changes nothing. -/
theorem Conducted.skip {middle : World Call σ} (later : Conducted env middle trace after)
    (state : middle.state = world.state) (calls : middle.calls = world.calls)
    : Conducted env world trace after :=
  (conducted_nil state calls).append later

/-- A single call conducts what its exchange tells; if its context keeps it from being begun, the
state is left alone.
-/
theorem conducted_call (env : Environment Call Reply σ) (limit : Option Instant) (ctx : Context)
    (request : Call) (world : World Call σ)
    : Conducted env world (exchange? env limit ctx request world)
        (runCall env limit ctx request world).2 := by
  unfold exchange?
  split
  · next why =>
      have skipped := runCall_of_interruption env limit request why
      rw [skipped]
      exact ⟨rfl, by simp⟩
  · next free =>
      have begun := begun_runCall env limit request free
      exact ⟨⟨rfl, ⟨ctx, begun⟩, rfl⟩, by simp [begun.recorded, Exchange.record]⟩

/-- The exchanges of a run tell all that happens to the state and all calls that are recorded as
begun, by induction on the flow with one case for each kind of step.
-/
theorem conducted_run (env : Environment Call Reply σ) (limit : Option Instant)
    (flow : Flow Call Reply α) (world : World Call σ)
    : Conducted env world (flow.exchanges env limit world) (flow.run env limit world).2 := by
  induction flow generalizing world with
  | done result => exact conducted_nil rfl rfl
  | call ctx request next ih =>
      have first := conducted_call env limit ctx request world
      simp only [exchanges, run]
      rcases called : runCall env limit ctx request world with ⟨_ | reply, middle⟩
      · rw [called] at first
        simpa only [List.append_nil] using first
      · rw [called] at first
        exact first.append (ih reply middle)
  | sleep ctx span next ih =>
      simp only [exchanges, run]
      rcases await limit world.clock (ctx.race world.clock (some (world.clock + span.nanos)))
        with ⟨_ | reply, clock⟩
      · exact conducted_nil rfl rfl
      · exact (ih reply { world with clock }).skip rfl rfl
  | now next ih => exact ih ⟨world.clock, env.wall world.clock⟩ world
  | fresh next ih =>
      exact (ih (env.name world.named) { world with named := world.named + 1 }).skip rfl rfl
  | log event next ih => exact (ih { world with events := world.events ++ [event] }).skip rfl rfl

/-- The same of a run that is given by its exchanges and its result. -/
theorem Goes.conducted {flow : Flow Call Reply α}
    (goes : Goes env limit flow world trace result after)
    : Conducted env world trace after := by
  have conducted := conducted_run env limit flow world
  rwa [goes.traced, goes.ran] at conducted

end Flow

end ImageVerification
