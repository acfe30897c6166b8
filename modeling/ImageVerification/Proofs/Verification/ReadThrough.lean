import ImageVerification.Proofs.Flow.Limits
import ImageVerification.Proofs.Verification.Lookup
import ImageVerification.Proofs.Verification.Repeats

/-! Lookups whatever the cache does: either it tells a snapshot, and nothing else is asked, or the
lookup is one in the store and comes to what that comes to.
-/

namespace ImageVerification

open Collaborator ImageVerification.Flow

variable {σ ε α : Type} {env : Environment Call Reply σ} {ctx : Context}
  {world after : World Call σ} {trace : List (Exchange Call Reply σ)} {task : Task}

section Attempts

variable [Fault ε] {plan : RetryPlan} {attempt : Nat}
  {result : Option (Except (OperationFailure ε) α)}
  {exchange : Except ε α → World Call σ → World Call σ → Exchange Call Reply σ}

/-- Attempts before one with this outcome, which each show as an exchange. They have failed in
passing, and so has the last one only for want of another.
-/
structure Attempted (exchange : Except ε α → World Call σ → World Call σ → Exchange Call Reply σ)
    (most : Nat) (failures : List (Exchange Call Reply σ)) (outcome : Except ε α)
    : Prop where
  passing :
    ∀ failure ∈ failures, ∃ fault before after,
      failure = exchange (.error fault) before after ∧ isTransient fault = true
  few : failures.length < most
  final : RetryPlan.FailsTransiently outcome → failures.length + 1 = most

/-- One more failure in passing before the attempts leaves one more to be allowed. -/
theorem Attempted.again {most : Nat} {failures : List (Exchange Call Reply σ)}
    {outcome : Except ε α} {fault : ε} (later : Attempted exchange most failures outcome)
    (passing : isTransient fault = true) (before after : World Call σ)
    : Attempted exchange (most + 1) (exchange (.error fault) before after :: failures) outcome := by
  refine ⟨?_, Nat.succ_lt_succ later.few, fun again => congrArg (· + 1) (later.final again)⟩
  intro failure member
  rcases List.mem_cons.mp member with rfl | member
  · exact ⟨fault, before, after, rfl, passing⟩
  · exact later.passing failure member

/-- Attempts until one of them is conclusive or the last: their exchanges, the outcome that is
handed on, and the world right after the last of them, but for what has been logged.
-/
inductive Persists (task : Task)
    (exchange : Except ε α → World Call σ → World Call σ → Exchange Call Reply σ) (most : Nat)
    : List (Exchange Call Reply σ) → Option (Except (OperationFailure ε) α) → World Call σ → Prop
    where
  | ended {failures : List (Exchange Call Reply σ)} {outcome : Except ε α}
      {before finished : World Call σ} {events : List Event}
      (attempted : Attempted exchange most failures outcome)
      : Persists task exchange most (failures ++ [exchange outcome before finished])
          (some (RetryPlan.tagged task outcome)) { finished with events }

/-- An operation that persists after a failure in passing persists from that failure on. -/
theorem Persists.again {most : Nat} {fault : ε}
    (later : Persists task exchange most trace result after) (passing : isTransient fault = true)
    (before finished : World Call σ)
    : Persists task exchange (most + 1) (exchange (.error fault) before finished :: trace) result
        after := by
  cases later with
  | ended attempted => exact .ended (attempted.again passing before finished)

/-- A last attempt, conclusive or with the budget used up, is an operation that persists by itself.
-/
theorem persists_of_final {most : Nat} {outcome : Except ε α}
    (final : RetryPlan.FailsTransiently outcome → 1 = most) (positive : 0 < most)
    (before finished : World Call σ) (events : List Event)
    : Persists task exchange most [exchange outcome before finished]
        (some (RetryPlan.tagged task outcome)) { finished with events } := by
  have attempted : Attempted exchange most [] outcome := ⟨by simp, positive, final⟩
  exact .ended attempted

/-- After a fault in passing the next attempt is made, if the context is free to the end. -/
theorem waitThen_elapsed {next : Action (Except (OperationFailure ε) α)} {fault : ε}
    (goes : Goes env none (plan.waitThen ctx task attempt next fault) world trace result after)
    (allowed : ctx.allows after.clock = true)
    : ∃ later, Goes env none next later trace result after := by
  let wait := plan.waitBefore (attempt - 1)
  have goes : Goes env none ((pause ctx wait).bind _) _ trace result after := goes.log
  rcases goes.bind_cases with ⟨waits, rfl⟩ | ⟨reply, middle, first, rest, waited, later, rfl⟩
  · cases (waits.pause_elapsed allowed).2
  · obtain ⟨rfl, elapsed⟩ := waited.pause_elapsed (Context.allows_of_le allowed later.le)
    cases elapsed
    exact ⟨middle, later⟩

/-- Under a context that is free to the end, an attempt has an outcome and shows as an exchange. -/
def Shows (env : Environment Call Reply σ) (ctx : Context) (op : RetryPlan.Attempt Call Reply ε α)
    (exchange : Except ε α → World Call σ → World Call σ → Exchange Call Reply σ)
    : Prop :=
  ∀ world after trace result,
    Goes env none (op ctx) world trace result after
    → ctx.allows after.clock = true
    → ∃ outcome, result = some (.ok outcome) ∧ trace = [exchange outcome world after]

/-- An attempt that is answered is conclusive, or it has failed in passing and leads on. -/
theorem attempt_cases {op : RetryPlan.Attempt Call Reply ε α}
    {again : ε → Action (Except (OperationFailure ε) α)} {most : Nat}
    (shows : Shows env ctx op exchange)
    (goes : Goes env none ((op ctx).bind (RetryPlan.settle task attempt again)) world trace result
      after)
    (allowed : ctx.allows after.clock = true)
    : Persists task exchange (most + 1) trace result after
      ∨ ∃ fault middle rest,
          isTransient fault = true
          ∧ trace = exchange (.error fault) world middle :: rest
          ∧ Goes env none (again fault) middle rest result after := by
  rcases goes.bind_cases with ⟨cut, rfl⟩ | ⟨value, middle, first, rest, tried, settles, rfl⟩
  · obtain ⟨outcome, ended, -⟩ := shows _ _ _ _ cut allowed
    cases ended
  obtain ⟨outcome, ended, rfl⟩ := shows _ _ _ _ tried (Context.allows_of_le allowed settles.le)
  cases ended
  match outcome with
  | .ok value =>
      have conclusive : ¬ RetryPlan.FailsTransiently (.ok value : Except ε α) := by
        rintro ⟨fault, ⟨⟩, -⟩
      simp only [RetryPlan.settle, RetryPlan.succeed] at settles
      split at settles
      · obtain ⟨rfl, rfl, rfl⟩ := settles.log.done_eq
        exact .inl (persists_of_final (absurd · conclusive) (Nat.succ_pos _) world middle _)
      · obtain ⟨rfl, rfl, rfl⟩ := settles.done_eq
        exact .inl (persists_of_final (absurd · conclusive) (Nat.succ_pos _) world after _)
  | .error fault =>
      simp only [RetryPlan.settle] at settles
      split at settles
      · next passing => exact .inr ⟨fault, middle, rest, passing, rfl, settles⟩
      · next lasting =>
          have conclusive : ¬ RetryPlan.FailsTransiently (.error fault : Except ε α) := by
            rintro ⟨_, ⟨⟩, passing⟩
            exact lasting passing
          obtain ⟨rfl, rfl, rfl⟩ := settles.log.done_eq
          exact .inl (persists_of_final (absurd · conclusive) (Nat.succ_pos _) world middle _)

/-- Attempts under a context that is free to the end, by induction on the attempts left: each one is
handed on, or it has failed in passing and goes before the others.
-/
theorem attemptFrom_persists {op : RetryPlan.Attempt Call Reply ε α}
    (shows : Shows env ctx op exchange)
    {left : Nat}
    (goes : Goes env none (plan.attemptFrom ctx task op attempt left) world trace result after)
    (allowed : ctx.allows after.clock = true)
    : Persists task exchange (left + 1) trace result after := by
  induction left generalizing attempt world trace result after with
  | zero =>
      rcases attempt_cases shows goes allowed with final | ⟨fault, middle, rest, -, rfl, fails⟩
      · exact final
      · obtain ⟨rfl, rfl, rfl⟩ := fails.log.done_eq
        exact persists_of_final (fun _ => rfl) Nat.one_pos world middle _
  | succ left ih =>
      rcases attempt_cases shows goes allowed
        with final | ⟨fault, middle, rest, passing, rfl, waits⟩
      · exact final
      · obtain ⟨later, onward⟩ := waitThen_elapsed waits allowed
        exact (ih onward allowed).again passing world middle

/-- A repeated operation that is not interrupted persists up to its last attempt. -/
theorem repeatAttempts_persists {op : RetryPlan.Attempt Call Reply ε α}
    (shows : Shows env ctx op exchange)
    (several : 1 < plan.attempts)
    (goes : Goes env none (plan.repeatAttempts ctx task op) world trace result after)
    (allowed : ctx.allows after.clock = true)
    : Persists task exchange plan.attempts trace result after := by
  rw [RetryPlan.repeatAttempts, if_neg (Nat.not_le_of_lt several)] at goes
  have persists := attemptFrom_persists shows goes allowed
  rwa [Nat.sub_add_cancel (Nat.le_of_lt several)] at persists

end Attempts

namespace CacheAside

/-- The cache being read, with its answer. -/
def reading (key : String) (answer : Except CacheFault (Option String))
    (before after : World Call σ)
    : Exchange Call Reply σ :=
  ⟨.cacheGet key, some (.ok answer), before, after⟩

/-- The snapshot that an answer of the cache tells: that of a text which is not the marker and can
be decoded.
-/
def snapshot? : Except CacheFault (Option String) → Option Snapshot
  | .ok (some text) => if text = marker then none else Snapshot.decode? text
  | .ok none => none
  | .error _ => none

/-- What is handed on of the cache's last answer. -/
def handedOn (task : Task) : Except CacheFault (Option String) → Outcome String
  | .ok (some text) => .ok text
  | .ok none => .error (.failed task.operation task.correlationId .miss)
  | .error fault => .error (.failed task.operation task.correlationId fault)

/-- A read of a cache that answers, not interrupted, is up to three attempts, and what the last one
gave is handed on.
-/
theorem get_attempted {key : String} {result : Option (Outcome String)}
    (goes : Goes env none (get ctx task key) world trace result after)
    (answers : env.Answers (.cacheGet key)) (allowed : ctx.allows after.clock = true)
    : ∃ failures answer before read events,
        Attempted (reading key) 3 failures answer
        ∧ trace = failures ++ [reading key answer before read]
        ∧ result = some (handedOn task answer)
        ∧ after = { read with events } := by
  let read : RetryPlan.Attempt Call Reply CacheFault (Option String) :=
    fun ctx => perform ctx (Call.cacheGet key)
  have shows : Shows env ctx read (reading key) := by
    intro world after trace reply asked allowed
    obtain ⟨answer, rfl, rfl⟩ := Goes.perform_answered asked answers allowed
    exact ⟨answer, rfl, rfl⟩
  have several : 1 < RetryPlan.cache.attempts := by decide
  rcases goes.bind_cases with ⟨cut, rfl⟩ | ⟨found, middle, first, rest, attempts, relay, rfl⟩
  · cases repeatAttempts_persists shows several cut allowed
  · obtain ⟨rfl, rfl, rfl⟩ := relay.done_eq
    cases repeatAttempts_persists shows several attempts allowed with
    | @ended failures answer before read events attempted =>
        refine ⟨failures, answer, before, read, events, attempted, List.append_nil _, ?_, rfl⟩
        match answer with
        | .ok (some text) => rfl
        | .ok none => rfl
        | .error fault => rfl

end CacheAside

theorem Exchange.ending_storeFind {requestId userId : String}
    (reply : Option (Except Interrupt (Except StoreFault Record))) (before after : World Call σ)
    : (⟨.storeFind requestId userId, reply, before, after⟩ : Exchange Call Reply σ).ending
      = .ofAttempt .store reply := by
  match reply with
  | none => rfl
  | some (.error kind) => rfl
  | some (.ok (.error fault)) => rfl
  | some (.ok (.ok record)) => rfl

/-- A lookup in the store is one call, repeated up to three times, and reported by how it ended. -/
theorem find_repeats {limit : Option Instant} {requestId userId : String}
    {result : Option (Repository.Outcome Record)}
    (goes : Goes env limit (Repository.find ctx requestId userId) world trace result after)
    : ∃ ending,
        Repeats (.storeFind requestId userId) 3 trace ending
        ∧ Reports ctx ⟨"repository.find_by_request_and_user", requestId⟩ .store after.clock ending
          result := by
  refine repeatAttempts_repeats (fun _ => rfl) ?_ (by decide : 1 < RetryPlan.store.attempts) goes
  intro world after trace reply asked
  exact perform_tries (fun _ => .rfl) (Exchange.ending_storeFind reply) asked

namespace Verification

variable {userId requestId : String} {result : Option (Repository.Outcome Record)}

/-- A run that goes on as a lookup in the store does: nothing else is asked, errors are tagged with
the lookup and correlated by the request, and there is a result if the store answers.
-/
structure FallsBack (env : Environment Call Reply σ) (ctx : Context) (userId requestId : String)
    (world : World Call σ) (trace : List (Exchange Call Reply σ))
    (result : Option (Repository.Outcome Record)) (after : World Call σ)
    : Prop where
  goes : Goes env none (Repository.find ctx requestId userId) world trace result after
  asked : ∀ exchange ∈ trace, exchange.request = .storeFind requestId userId
  tagged :
    ∀ failure,
      result = some (.error failure)
      → failure.operation = "repository.find_by_request_and_user"
        ∧ failure.correlationId = requestId
  returns : env.Answers (.storeFind requestId userId) → ∃ outcome, result = some outcome

/-- To ask the store is to fall back on it: only the lookup is called, and its outcome is the
result.
-/
theorem fallsBack_of_find
    (goes : Goes env none (Repository.find ctx requestId userId) world trace result after)
    : FallsBack env ctx userId requestId world trace result after := by
  obtain ⟨ending, repeats, reports⟩ := find_repeats goes
  refine ⟨goes, repeats.asked, ?_, ?_⟩
  · rintro failure rfl
    cases reports with
    | interrupted stopped => exact ⟨rfl, rfl⟩
    | failed => exact ⟨rfl, rfl⟩
  · intro answers
    have asks : (Repository.find ctx requestId userId).Asks env.Answers fun _ => True :=
      RetryPlan.repeatAttempts_asks _ ctx _ fun ctx => perform_asks ctx answers
    obtain ⟨outcome, found, ran, -⟩ := asks.run_of_answers world
    rw [goes.ran] at ran
    cases ran
    exact ⟨outcome, rfl⟩

/-- How a lookup goes on from the cache's last answer: to the record that its snapshot stands for,
if it tells one, and otherwise as a lookup in the store.
-/
def Continues (env : Environment Call Reply σ) (ctx : Context) (userId requestId : String)
    (read : World Call σ) (trace : List (Exchange Call Reply σ))
    (result : Option (Repository.Outcome Record)) (after : World Call σ)
    : Option Snapshot → Prop
  | some snapshot =>
      trace = []
      ∧ result = some (.ok (snapshot.toRecord userId requestId))
      ∧ ∃ events, after = { read with events }
  | none => ∃ events, FallsBack env ctx userId requestId { read with events } trace result after

/-- A lookup under a context that is free to the end, whatever the cache answers and after whatever
time. The cache is read at most three times, and again only after a passing fault. A snapshot that
its last answer tells is the answer, and nothing else is asked. Otherwise the lookup goes on as one
in the store does, to the same result.
-/
theorem result_reads_through
    (goes : Goes env none (Verification.result ctx userId requestId) world trace result after)
    (answers : env.Answers (.cacheGet (CacheAside.key requestId)))
    (uninterrupted : ctx.allows after.clock = true)
    : ∃ failures answer before read rest,
        Attempted (CacheAside.reading (CacheAside.key requestId)) 3 failures answer
        ∧ trace = failures ++ [CacheAside.reading (CacheAside.key requestId) answer before read]
            ++ rest
        ∧ Continues env ctx userId requestId read rest result after
            (CacheAside.snapshot? answer) := by
  rcases goes.bind_cases with ⟨cut, rfl⟩ | ⟨found, middle, first, rest, reads, onward, rfl⟩
  · obtain ⟨failures, answer, before, read, events, -, -, ended, -⟩ :=
      CacheAside.get_attempted cut answers uninterrupted
    cases ended
  obtain ⟨failures, answer, before, read, events, attempted, rfl, ended, rfl⟩ :=
    CacheAside.get_attempted reads answers (Context.allows_of_le uninterrupted onward.le)
  cases ended
  refine ⟨failures, answer, before, read, rest, attempted, rfl, ?_⟩
  match answer with
  | .ok (some text) =>
      simp only [CacheAside.handedOn] at onward
      split at onward
      · next marked =>
          rw [CacheAside.snapshot?, if_pos marked]
          exact ⟨_, fallsBack_of_find onward.log⟩
      · next unmarked =>
          rw [CacheAside.snapshot?, if_neg unmarked]
          cases decoded : Snapshot.decode? text with
          | some snapshot =>
              rw [decoded] at onward
              obtain ⟨rfl, rfl, rfl⟩ := onward.done_eq
              exact ⟨rfl, rfl, events, rfl⟩
          | none =>
              rw [decoded] at onward
              exact ⟨_, fallsBack_of_find onward.log⟩
  | .ok none => exact ⟨events, fallsBack_of_find onward⟩
  | .error fault =>
      -- Misses and other errors lead to the same lookup; only the others are logged.
      simp only [CacheAside.handedOn] at onward
      split at onward
      · exact ⟨events, fallsBack_of_find onward⟩
      · exact ⟨_, fallsBack_of_find onward.log⟩

/-- Backends in memory but for the cache, which gives one reply to all readings after a while. -/
def replying (reply : Except CacheFault (Option String)) : Environment Call Reply InMemory :=
  {
    accept := fun call _ state =>
      match call with
      | .cacheGet _ => (⟨some 5, fun _ state => (reply, state), some 1⟩, state)
      | other =>
          let verdict := Except.error (.transport "refused")
          (⟨some 0, fun now state => InMemory.answer verdict now state other, some 0⟩, state)
    wall := fun _ => .epoch
    name := fun _ => ""
  }

/-- A cache that replies with anything at all answers. -/
theorem replying_answers (reply : Except CacheFault (Option String)) (key : String)
    : (replying reply).Answers (.cacheGet key) :=
  fun _ _ => ⟨5, 1, rfl, rfl⟩

/-- A cache that is out of reach. -/
def withoutCache : Environment Call Reply InMemory :=
  replying (.error (.unavailable "refused" true))

/-- What has been cached of a request of alice's. -/
def alicesSnapshot : Snapshot := ⟨"r", "alice", .zero, true, "", "", .epoch⟩

def withSnapshot : Environment Call Reply InMemory := replying (.ok (some alicesSnapshot.encode))

def lookupByAlice : Action (Repository.Outcome Record) :=
  Verification.result .background "alice" "r"

/-- How a lookup by alice reads through the cache. -/
def AliceReadsThrough (env : Environment Call Reply InMemory) : Prop :=
  ∃ failures answer before read rest,
    Attempted (CacheAside.reading (CacheAside.key "r")) 3 failures answer
    ∧ lookupByAlice.exchanges env none (.start .empty)
      = failures ++ [CacheAside.reading (CacheAside.key "r") answer before read] ++ rest
    ∧ Continues env .background "alice" "r" read rest
        (lookupByAlice.run env none (.start .empty)).1
        (lookupByAlice.run env none (.start .empty)).2 (CacheAside.snapshot? answer)

/-- The store is asked after three readings that fail, and is not asked after one that tells a
snapshot.
-/
theorem lookupByAlice_reads_through
    : (lookupByAlice.run withoutCache none (.start .empty)).2.calls.map CallRecord.request
        = [.cacheGet "verification:r", .cacheGet "verification:r", .cacheGet "verification:r",
          .storeFind "r" "alice"]
      ∧ withoutCache.Answers (.cacheGet (CacheAside.key "r"))
      ∧ AliceReadsThrough withoutCache
      ∧ (lookupByAlice.run withSnapshot none (.start .empty)).2.calls.map CallRecord.request
        = [.cacheGet "verification:r"]
      ∧ (lookupByAlice.run withSnapshot none (.start .empty)).1.bind Except.toOption
        = some (alicesSnapshot.toRecord "alice" "r")
      ∧ withSnapshot.Answers (.cacheGet (CacheAside.key "r"))
      ∧ AliceReadsThrough withSnapshot := by
  have unreachable : withoutCache.Answers (.cacheGet (CacheAside.key "r")) := replying_answers _ _
  have found : withSnapshot.Answers (.cacheGet (CacheAside.key "r")) := replying_answers _ _
  have readsThrough : AliceReadsThrough withoutCache :=
    result_reads_through (goes_run _ none _ _) unreachable rfl
  have readsThrough' : AliceReadsThrough withSnapshot :=
    result_reads_through (goes_run _ none _ _) found rfl
  exact ⟨by decide +kernel, unreachable, readsThrough, by decide +kernel, by decide +kernel,
    found, readsThrough'⟩

end Verification

end ImageVerification
