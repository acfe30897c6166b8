import ImageVerification.Proofs.Api.Handlers
import ImageVerification.Proofs.Api.Origins
import ImageVerification.Proofs.Flow.Limits

/-! Probes of the server: they report whether the store answers a ping in two seconds, and ask
nothing else.

A probe is waited for no longer than other requests are, which is a second longer than the time of a
request. If that is less than two seconds, the router may give up before the probe does, or together
with it.
-/

namespace ImageVerification

open Http Collaborator ImageVerification.Flow

/-- A race is lost only to an interruption that comes no later than the work. -/
theorem Context.le_of_race_lost {ctx : Context} {stop start due lostAt : Instant}
    {kind : Interrupt} (first : ctx.interruptAt = some stop) (before : start < stop)
    (lost : ctx.race start (some due) = .interrupted kind lostAt)
    : stop ≤ due := by
  refine Nat.le_of_not_lt fun wins => ?_
  simp only [race, interruption_of_before first before, first, if_pos wins] at lost
  cases lost

/-- When a call is replied to that nothing cuts short, and with what. -/
def Environment.replyTo? {Call : Type} {Reply : Call → Type} {σ : Type}
    (env : Environment Call Reply σ) (request : Call) (now : Instant) (state : σ)
    : Option (Instant × Reply request) :=
  let (conduct, accepted) := env.accept request now state
  match conduct.before, conduct.after with
  | some before, some after =>
      some (now + before + after, (conduct.effect (now + before) accepted).1)
  | _, _ => none

namespace Flow

variable {Call : Type} {Reply : Call → Type} {σ : Type}

/-- How a call ends under a context that is interrupted at an instant: it is answered if its reply
comes before, and otherwise cut short then.
-/
inductive EndsBy {ρ : Type} (stop : Instant) (due : Option (Instant × ρ))
    : Option (Except Interrupt ρ) × World Call σ → Prop where
  | answered {instant : Instant} {reply : ρ} {after : World Call σ}
      (comes : due = some (instant, reply)) (early : instant < stop) (clock : after.clock = instant)
      : EndsBy stop due (some (.ok reply), after)
  | stopped {kind : Interrupt} {after : World Call σ}
      (late : ∀ instant reply, due = some (instant, reply) → stop ≤ instant)
      (clock : after.clock = stop)
      : EndsBy stop due (some (.error kind), after)

/-- A call under a context with a deadline is over by then: the ping is answered in time or given up
at the deadline, by cases on the two waits of a call.
-/
theorem runCall_endsBy {ctx : Context} {stop : Instant} (first : ctx.interruptAt = some stop)
    (env : Environment Call Reply σ) (request : Call) {world : World Call σ}
    (early : world.clock < stop)
    : EndsBy stop (env.replyTo? request world.clock world.state)
        (runCall env none ctx request world) := by
  unfold runCall Environment.replyTo?
  rw [Context.interruption_of_before first early]
  rcases env.accept request world.clock world.state with ⟨⟨before, effect, after⟩, accepted⟩
  dsimp only
  rcases Context.race_cases first early (before.map (world.clock + ·))
    with ⟨effectAt, due, inTime, won⟩ | lost
  · obtain ⟨before, rfl, rfl⟩ := Option.map_eq_some_iff.mp due
    rw [won, await_finished]
    dsimp only
    rcases Context.race_cases first inTime (after.map (world.clock + before + ·))
      with ⟨replyAt, due, inTime, won⟩ | lost
    · obtain ⟨after, rfl, rfl⟩ := Option.map_eq_some_iff.mp due
      rw [won, await_finished]
      exact .answered rfl inTime rfl
    · rw [lost, await_interrupted]
      refine .stopped ?_ rfl
      cases after with
      | none => nofun
      | some after =>
          rintro _ _ ⟨⟩
          exact Context.le_of_race_lost first inTime lost
  · rw [lost, await_interrupted]
    refine .stopped ?_ rfl
    cases before with
    | none => nofun
    | some before =>
        cases after with
        | none => nofun
        | some after =>
            rintro _ _ ⟨⟩
            -- The effect is too late, and the reply does not come before it.
            exact Nat.le_trans (Context.le_of_race_lost first early lost) (Nat.le_add_right _ _)

/-- A call under a context made of the time, with nothing but something quiet after it. -/
theorem run_now_call_of_quiet {α : Type} {ctxAt : Instant → Context} {request : Call}
    {told : Except Interrupt (Reply request) → α}
    {next : Except Interrupt (Reply request) → Flow Call Reply α}
    (quiet : ∀ ended, ∃ events, ∀ reading, Quiet reading (next ended) (told ended) events)
    {env : Environment Call Reply σ} {limit : Option Instant} {world after : World Call σ}
    {ended : Option (Except Interrupt (Reply request))}
    (called : runCall env limit (ctxAt world.clock) request world = (ended, after))
    : ∃ events,
        (Flow.now fun reading => (perform (ctxAt reading.instant) request).bind next).run env limit
            world
        = (ended.map told, { after with events }) := by
  simp only [perform, bind, run, called]
  cases ended with
  | none => exact ⟨_, rfl⟩
  | some ended =>
      obtain ⟨events, quiet⟩ := quiet ended
      exact ⟨_, (quiet _).run env limit after rfl⟩

/-- A flow whose result is only put into other words. -/
theorem run_reworded {α β γ : Type} (flow : Flow Call Reply α) (answer : α → β) (dress : β → γ)
    (env : Environment Call Reply σ) (limit : Option Instant) (world : World Call σ)
    : ((some <$> (flow >>= fun result => return answer result)).bind fun (told : Option β) =>
          .done (told.map dress)).run env limit world
      = ((flow.run env limit world).1.map fun result => some (dress (answer result)),
          (flow.run env limit world).2) := by
  have reworded
      : ((some <$> (flow >>= fun result => return answer result)).bind fun (told : Option β) =>
            (.done (told.map dress) : Flow Call Reply (Option γ)))
        = flow.bind fun result => .done (some (dress (answer result))) := by
    simp only [map_eq_pure_bind, bind_eq_bind, bind_assoc]
    rfl
  rw [reworded, run_bind]
  rcases flow.run env limit world with ⟨_ | result, after⟩ <;> rfl

end Flow

namespace Api

variable {σ : Type} {env : Environment Call Reply σ} {world : World Call σ}

/-- The store answers a ping that is sent now, and does so within two seconds. -/
def Reachable (env : Environment Call Reply σ) (world : World Call σ) : Prop :=
  ∃ instant,
    env.replyTo? .storePing world.clock world.state = some (instant, .ok ())
    ∧ instant < world.clock + 2 * 10 ^ 9

/-- Something comes back of a ping that is sent now, before some time has passed. -/
def Prompt (env : Environment Call Reply σ) (world : World Call σ) (span : Nat) : Prop :=
  ∃ instant reply,
    env.replyTo? .storePing world.clock world.state = some (instant, reply)
    ∧ instant < world.clock + span

/-- A probe has come to its end before the router gives up that gives requests so many seconds. -/
def Awaited (env : Environment Call Reply σ) (world : World Call σ) (seconds : Nat) : Prop :=
  2 ≤ seconds ∨ Prompt env world ((seconds + 1) * 10 ^ 9)

/-- What comes of a probe: it tells whether the store is reachable, in time. -/
structure Probed (env : Environment Call Reply σ) (world : World Call σ) (reachable : Bool)
    (after : World Call σ)
    : Prop where
  told : reachable = true ↔ Reachable env world
  inTime : after.clock ≤ world.clock + 2 * 10 ^ 9
  prompt :
    ∀ span, span ≤ 2 * 10 ^ 9 → (after.clock < world.clock + span ↔ Prompt env world span)

/-- The context of a probe that begins at an instant. -/
def probeContext (now : Instant) : Context := Context.background.deadlineAt (now + probeTime)

/-- How a probe goes on from the end of its ping: a failure is logged. -/
def conclude (complaint : String) : Except Interrupt (Except StoreFault Unit) → Action Bool
  | .ok (.ok ()) => .done true
  | .ok (.error fault) => complain (.failed "repository.ping" "" fault)
  | .error kind => complain (.interrupted "repository.ping" "" kind)
where
  complain (failure : OperationFailure StoreFault) : Action Bool :=
    .log ⟨.warn, complaint, [("error", .shown failure.text)]⟩ (.done false)

/-- A probe reads the clock, pings under a context of its own, and concludes from what comes of it.
-/
theorem probe_eq (complaint : String)
    : probe complaint
      = .now fun reading =>
          (Flow.perform (probeContext reading.instant) Call.storePing).bind
            (conclude complaint) := by
  refine congrArg Flow.now (funext fun reading => congrArg (Flow.call _ _) (funext fun ended => ?_))
  match ended with
  | .ok (.ok ()) => rfl
  | .ok (.error fault) => rfl
  | .error kind => rfl

/-- Whether the end of a ping is an answer of the store. -/
def isAnswer : Except Interrupt (Except StoreFault Unit) → Bool
  | .ok (.ok ()) => true
  | _ => false

/-- After its ping a probe is quiet. -/
theorem exists_quiet_conclude (complaint : String)
    (ended : Except Interrupt (Except StoreFault Unit))
    : ∃ events, ∀ reading, Quiet reading (conclude complaint ended) (isAnswer ended) events := by
  match ended with
  | .ok (.ok ()) => exact ⟨_, fun _ => .done _⟩
  | .ok (.error fault) => exact ⟨_, fun _ => .log (.done _)⟩
  | .error kind => exact ⟨_, fun _ => .log (.done _)⟩

/-- A probe comes to what its ping comes to, but for what is logged. -/
theorem run_probe {limit : Option Instant} {after : World Call σ}
    {ended : Option (Except Interrupt (Except StoreFault Unit))} (complaint : String)
    (pinged : runCall env limit (probeContext world.clock) .storePing world = (ended, after))
    : ∃ events,
        (probe complaint).run env limit world = (ended.map isAnswer, { after with events }) := by
  rw [probe_eq]
  exact run_now_call_of_quiet (exists_quiet_conclude complaint) pinged

theorem interruptAt_probeContext (now : Instant)
    : (probeContext now).interruptAt = some (now + probeTime) :=
  rfl

theorem lt_add_probeTime (now : Instant) : now < now + probeTime :=
  Nat.lt_add_of_pos_right (by decide)

theorem probeTime_eq : probeTime = 2 * 10 ^ 9 := rfl

/-- A probe records one call, the ping, which its context does not keep from being begun. -/
theorem calls_probe (env : Environment Call Reply σ) (limit : Option Instant) (complaint : String)
    (world : World Call σ)
    : ((probe complaint).run env limit world).2.calls
      = world.calls ++ [⟨world.clock, .storePing, true⟩] := by
  have free := Context.interruption_of_before (interruptAt_probeContext world.clock)
    (lt_add_probeTime world.clock)
  have recorded := (begun_runCall env limit .storePing free).recorded
  rcases pinged : runCall env limit (probeContext world.clock) .storePing world with ⟨ended, after⟩
  rw [pinged] at recorded
  obtain ⟨events, ran⟩ := run_probe complaint pinged
  rw [ran]
  exact recorded

/-- Every probe comes to an end by itself. -/
theorem exists_probed (env : Environment Call Reply σ) (complaint : String) (world : World Call σ)
    : ∃ reachable after,
        (probe complaint).run env none world = (some reachable, after)
        ∧ Probed env world reachable after := by
  -- The context of a probe is interrupted on its own, so the ping ends by then.
  have ends := runCall_endsBy (interruptAt_probeContext world.clock) env .storePing
    (lt_add_probeTime world.clock)
  rw [probeTime_eq] at ends
  rcases pinged : runCall env none (probeContext world.clock) .storePing world with ⟨ended, after⟩
  rw [pinged] at ends
  obtain ⟨events, ran⟩ := run_probe complaint pinged
  cases ends with
  | @answered instant reply after comes early clock =>
      refine ⟨_, _, ran, ?_, ?_, ?_⟩
      · rcases reply with fault | _
        · refine iff_of_false nofun ?_
          rintro ⟨_, same, -⟩
          cases comes.symm.trans same
        · exact iff_of_true rfl ⟨instant, comes, early⟩
      · exact clock ▸ Nat.le_of_lt early
      · intro span _
        dsimp only
        rw [clock]
        constructor
        · exact fun prompt => ⟨instant, reply, comes, prompt⟩
        · rintro ⟨_, _, same, prompt⟩
          cases comes.symm.trans same
          exact prompt
  | @stopped kind after late clock =>
      refine ⟨_, _, ran, ?_, Nat.le_of_eq clock, fun span short => ?_⟩
      · refine iff_of_false nofun ?_
        -- What would have come of the ping comes too late for the store to be reachable.
        rintro ⟨instant, comes, early⟩
        exact Nat.not_lt_of_le (late _ _ comes) early
      · have longer := Nat.add_le_add_left short world.clock
        dsimp only
        rw [clock]
        refine iff_of_false (Nat.not_lt_of_le longer) ?_
        rintro ⟨instant, reply, comes, prompt⟩
        exact Nat.not_lt_of_le (Nat.le_trans longer (late _ _ comes)) prompt

/-- A probe is over before the router gives up, if that is in more than two seconds, which a probe
never takes, or if something comes back of its ping in time.
-/
theorem Probed.lt_limit_iff {reachable : Bool} {after : World Call σ}
    (probed : Probed env world reachable after) (seconds : Nat)
    : after.clock < world.clock + (seconds + 1) * 10 ^ 9 ↔ Awaited env world seconds := by
  unfold Awaited
  rcases Nat.lt_or_ge seconds 2 with short | enough
  · have span_le : (seconds + 1) * 10 ^ 9 ≤ 2 * 10 ^ 9 := Nat.mul_le_mul_right _ short
    rw [probed.prompt _ span_le, or_iff_right (Nat.not_le_of_lt short)]
  · have longer : 2 * 10 ^ 9 < (seconds + 1) * 10 ^ 9 :=
      Nat.mul_lt_mul_of_pos_right (Nat.lt_succ_of_le enough) (by decide)
    exact iff_of_true (Nat.lt_of_le_of_lt probed.inTime (Nat.add_lt_add_left longer _))
      (.inl enough)

/-- What becomes of a probe that is waited for: there is an outcome if the probe is over before the
router gives up, and otherwise there is none, when the router has given up.
-/
inductive AwaitedProbe (env : Environment Call Reply σ) (world : World Call σ) (seconds : Nat)
    : Option Bool × World Call σ → Prop where
  | told {reachable : Bool} {after : World Call σ} (probed : Probed env world reachable after)
      (awaited : Awaited env world seconds)
      : AwaitedProbe env world seconds (some reachable, after)
  | givenUp {stopped : World Call σ} (short : ¬ Awaited env world seconds)
      (atLimit : stopped.clock = world.clock + (seconds + 1) * 10 ^ 9)
      : AwaitedProbe env world seconds (none, stopped)

/-- A probe under the limit of the router, by comparison with the same probe without a limit. -/
theorem run_probe_awaited (env : Environment Call Reply σ) (complaint : String)
    (world : World Call σ) (seconds : Nat)
    : AwaitedProbe env world seconds
        ((probe complaint).run env (some (world.clock + (seconds + 1) * 10 ^ 9)) world) := by
  obtain ⟨reachable, finished, ran, probed⟩ := exists_probed env complaint world
  have early : world.clock < world.clock + (seconds + 1) * 10 ^ 9 :=
    Nat.lt_add_of_pos_right (Nat.mul_pos (Nat.succ_pos seconds) (by decide))
  have limited := run_limited env (probe complaint) world early
  rw [ran] at limited
  generalize (probe complaint).run env (some _) world = ended at limited ⊢
  cases limited with
  | inTime early => exact .told probed ((probed.lt_limit_iff seconds).mp early)
  | cut late atLimit =>
      refine .givenUp (fun awaited => ?_) atLimit
      exact Nat.not_lt_of_le (late _ _ rfl) ((probed.lt_limit_iff seconds).mpr awaited)

/-- The state of a service, with the backends that it has been started with. -/
def stateObject (api : Api) (status : String) : List Char :=
  Json.Writer.object
    [("status", Json.quote status), ("version", Json.quote "0.1.0"),
     ("service", Json.quote "aicheck-server"), ("store", Json.quote api.storeName),
     ("cache", Json.quote api.cacheName)]

/-- What the endpoints answer that probe the store. -/
inductive Reports (api : Api) (reachable : Prop) : Endpoint → Response → Prop where
  | ok (up : reachable) : Reports api reachable .health (.json 200 (api.stateObject "ok"))
  | degraded (down : ¬ reachable)
      : Reports api reachable .health (.json 200 (api.stateObject "degraded"))
  | ready (up : reachable)
      : Reports api reachable .ready
          (.json 200 (Json.Writer.object [("ready", Json.Writer.bool true)]))
  | notReady (down : ¬ reachable)
      : Reports api reachable .ready
          (.json 503
            (Json.Writer.object
              [("ready", Json.Writer.bool false),
               ("message", Json.quote "Durable store unreachable")]))

/-- The endpoints that probe the store put the outcome into words. -/
theorem exists_probing {endpoint : Endpoint} (probes : endpoint ∈ [.health, .ready]) (api : Api)
    (request : Request)
    : ∃ (complaint : String) (answer : Bool → Response),
        api.answer request endpoint
          = some <$> (probe complaint >>= fun reachable => return answer reachable)
        ∧ ∀ (reachable : Bool) (up : Prop),
            (reachable = true ↔ up) → Reports api up endpoint (answer reachable) := by
  simp only [List.mem_cons, List.not_mem_nil, or_false] at probes
  rcases probes with rfl | rfl
  · refine ⟨_, _, rfl, fun reachable up same => ?_⟩
    cases reachable with
    | true => exact .ok (same.mp rfl)
    | false => exact .degraded fun holds => nomatch same.mpr holds
  · refine ⟨_, _, rfl, fun reachable up same => ?_⟩
    cases reachable with
    | true => exact .ready (same.mp rfl)
    | false => exact .notReady fun holds => nomatch same.mpr holds

end Api

namespace Router

variable {config : Config} {authority : Authority} {scope : DuplicateScope}
  {storeName cacheName : String} {router : Router} {events : List Event} {endpoint : Endpoint}
  {request : Request} {limiter : Limiter} {now : Instant} {σ : Type}

/-- A request that reaches a probe is answered with what comes of it within the time limit. -/
theorem serve_probe (leads : Endpoint.Leads request.path endpoint)
    (reaches : router.Reaches limiter now request endpoint) (get : request.method = "GET")
    {complaint : String} {answer : Bool → Response}
    (probes : router.api.answer request endpoint
      = some <$> (Api.probe complaint >>= fun reachable => return answer reachable))
    {env : Environment Call Reply σ} {world after : World Call σ} {reachable : Option Bool}
    (ran : (Api.probe complaint).run env (some (world.clock + router.api.requestTime + slack)) world
      = (reachable, after))
    : router.serve env limiter now request world
      = (some ((reachable.map (router.origins.decorate request ∘ answer)).getD (.empty 408)),
          (router.refusal? limiter now request).2, after) := by
  have whole (response : Response) : finish request response = response := by
    rw [finish_of_serves leads reaches.served, if_neg (by rw [get]; decide)]
  rw [serve_of_admitted reaches.admitted, respond, withinLength_of_reaches leads reaches, probes]
  rw [run_reworded, ran]
  cases reachable with
  | none => simp only [Option.map_none, whole, Option.getD_none]
  | some reachable => simp only [Option.map_some, whole, Option.getD_some, Function.comp_apply]

/-- No report looks as if the router had given up. -/
theorem decorate_ne_of_reports {api : Api} {up : Prop} {response : Response}
    (reports : api.Reports up endpoint response) (origins : OriginPolicy) (request : Request)
    : origins.decorate request response ≠ .empty 408 := by
  intro same
  have status : response.status = 408 := congrArg Response.status same
  cases reports <;> cases status

/-- A probe pings the store once and asks nothing else, needs no token and is answered within two
seconds. The answer tells whether the store is reachable if and only if requests have two seconds or
something comes back of the ping before the router gives up, a second after the time of a request;
otherwise the router has given up then.
-/
theorem probes_report_iff
    (made : ofConfig config authority scope storeName cacheName = .ok (router, events))
    (unlimited : config.limitsRate = false)
    (leads : Endpoint.Leads request.path endpoint) (probes : endpoint ∈ [.health, .ready])
    (get : request.method = "GET")
    (within : ∀ length ∈ announcedLength? request.headers,
      length ≤ config.bodyLimitMegabytes * 1048576)
    (env : Environment Call Reply σ) (world : World Call σ) (limiter : Limiter) (now : Instant)
    : ∃ response after,
        router.serve env limiter now request world = (some response, limiter, after)
        ∧ after.calls = world.calls ++ [⟨world.clock, .storePing, true⟩]
        ∧ after.clock ≤ world.clock + 2 * 10 ^ 9
        ∧ ((∃ told,
              router.api.Reports (Api.Reachable env world) endpoint told
              ∧ response = router.origins.decorate request told)
            ↔ 2 ≤ config.requestSeconds
              ∨ Api.Prompt env world ((config.requestSeconds + 1) * 10 ^ 9))
        ∧ (¬ (2 ≤ config.requestSeconds
              ∨ Api.Prompt env world ((config.requestSeconds + 1) * 10 ^ 9)) →
            response = .empty 408
            ∧ after.clock = world.clock + (config.requestSeconds + 1) * 10 ^ 9) := by
  have configured := configured_of_ofConfig made
  -- No limiter stands before the request, and no other layer refuses it.
  have admitted := configured.refusal?_eq unlimited limiter now request
  have served : endpoint.serves request.method = true := by
    rw [get]
    simp only [List.mem_cons, List.not_mem_nil, or_false] at probes
    rcases probes with rfl | rfl <;> rfl
  have reaches : router.Reaches limiter now request endpoint := by
    refine ⟨by rw [admitted], ?_, served⟩
    rw [configured.api]
    exact within
  obtain ⟨complaint, answer, probing, reports⟩ := Api.exists_probing probes router.api request
  have calls := Api.calls_probe env (some (world.clock + router.api.requestTime + slack)) complaint
    world
  -- The probe under the limit of the router: it is over before it, or given up at it.
  have awaited := Api.run_probe_awaited env complaint world config.requestSeconds
  rw [← configured.limit_eq world.clock] at awaited
  rcases ran : (Api.probe complaint).run env
    (some (world.clock + router.api.requestTime + slack)) world with ⟨ended, after⟩
  have answered := serve_probe leads reaches get probing ran
  rw [ran] at awaited calls
  rw [admitted] at answered
  refine ⟨_, after, answered, calls, ?_⟩
  cases awaited with
  | told probed enough =>
      have reported := reports _ _ probed.told
      exact ⟨probed.inTime, iff_of_true ⟨_, reported, rfl⟩ enough, (absurd enough ·)⟩
  | givenUp short atLimit =>
      refine ⟨?_, iff_of_false ?_ short, fun _ => ⟨rfl, atLimit⟩⟩
      · rw [atLimit]
        have atMost : config.requestSeconds < 2 :=
          Nat.lt_of_not_le fun enough => short (.inl enough)
        exact Nat.add_le_add_left (Nat.mul_le_mul_right _ atMost) _
      · rintro ⟨told, reports, same⟩
        exact decorate_ne_of_reports reports _ _ same.symm

/-- Settings under which requests have so many seconds. -/
def hurried (seconds : Nat) : Config := { Config.standard with requestSeconds := seconds }

/-- Backends in memory that take so long to answer, or never do. -/
def sluggish (delay : Option Nat) : Environment Call Reply InMemory :=
  {
    accept := fun call _ state =>
      let verdict := Except.error (.transport "refused")
      (⟨delay, fun now state => InMemory.answer verdict now state call, some 0⟩, state)
    wall := fun _ => .epoch
    name := fun _ => ""
  }

/-- A probe that says nothing of who sends it. -/
def healthProbe : Request := ⟨"GET", "/health", [], [], none⟩

/-- How a probe is answered under hurried settings. -/
def ProbedAs (seconds : Nat) (delay : Option Nat) (response : Response) (clock : Instant) : Prop :=
  ∃ router events after,
    ofConfig (hurried seconds) (.make "secret" none) .owner InMemory.backendName
        InMemory.backendName
      = .ok (router, events)
    ∧ router.serve (sluggish delay) .empty 0 healthProbe (.start .empty)
      = (some response, .empty, after)
    ∧ after.clock = clock

/-- The router gives up a probe of which it could be told in another half second that the store is
reachable, and one that finds out that it is not just when the router gives up.
-/
theorem hurried_probe_given_up
    : Api.Reachable (sluggish (some 1500000000)) (.start .empty)
      ∧ ProbedAs 0 (some 1500000000) (.empty 408) 1000000000
      ∧ ProbedAs 1 none (.empty 408) 2000000000 := by
  have leads : Endpoint.Leads healthProbe.path .health := .health
  have settled (seconds : Nat)
      : OriginPolicy.ofSettings (hurried seconds).allowedOrigins = some (.anyOrigin, _) := rfl
  have givenUp {seconds : Nat} {delay : Option Nat} (few : seconds < 2)
      (slow : ¬ Api.Prompt (sluggish delay) (.start .empty) ((seconds + 1) * 10 ^ 9))
      : ProbedAs seconds delay (.empty 408) ((seconds + 1) * 10 ^ 9) := by
    have fits : seconds + 1 < Word.limit64 := Nat.lt_trans (Nat.succ_lt_succ few) (by decide)
    have small : Config.standard.bodyLimitMegabytes * 1048576 < Word.limit64 := by decide
    obtain ⟨quotaEvent, made⟩ := ofConfig_of_unlimited (settled seconds) small fits rfl
      (.make "secret" none) .owner InMemory.backendName InMemory.backendName
    obtain ⟨response, after, served, -, -, -, late⟩ := probes_report_iff made rfl leads (.head _)
      rfl nofun (sluggish delay) (.start .empty) .empty 0
    obtain ⟨rfl, atLimit⟩ := late (not_or_intro (Nat.not_le_of_lt few) slow)
    exact ⟨_, _, after, made, served, atLimit.trans (Nat.zero_add _)⟩
  refine ⟨⟨1500000000, rfl, by decide⟩, givenUp (by decide) ?_, givenUp (by decide) ?_⟩
  · rintro ⟨instant, reply, comes, prompt⟩
    cases comes
    exact absurd prompt (by decide)
  · rintro ⟨instant, reply, comes, prompt⟩
    cases comes

end Router

end ImageVerification
