import ImageVerification.Proofs.Flow.Exchanges
import ImageVerification.Verification

/-! Calls that are repeated as long as they fail in passing: which exchanges attempts at a call may
have, how they end, and what is reported of it.
-/

namespace ImageVerification

open Collaborator ImageVerification.Flow

/-- The fault that a reply reports, as that of the collaborator it comes from. -/
def StageFault.ofReply? : (request : Call) → Reply request → Option StageFault
  | .cacheSet .., .error fault => some (.cache fault)
  | .cacheGet .., .error fault => some (.cache fault)
  | .storeSave .., .error fault => some (.store fault)
  | .storeFind .., .error fault => some (.store fault)
  | .storeDuplicates .., .error fault => some (.store fault)
  | .storeTotals, .error fault => some (.store fault)
  | .storePing, .error fault => some (.store fault)
  | .storePrepare, .error fault => some (.store fault)
  | .score .., .error fault => some (.scorer fault)
  | _, _ => none

/-- How a call or a stage has ended, if it has. -/
inductive Ending where
  | underway
  | interrupted (kind : Interrupt)
  | failed (fault : StageFault)
  | succeeded
deriving DecidableEq

variable {σ ε α : Type}

def Exchange.ending (exchange : Exchange Call Reply σ) : Ending :=
  match exchange.reply with
  | none => .underway
  | some (.error kind) => .interrupted kind
  | some (.ok reply) =>
      match StageFault.ofReply? exchange.request reply with
      | some fault => .failed fault
      | none => .succeeded

/-- Calls that have all failed, but might not the next time. -/
def FailedInPassing (request : Call) (trace : List (Exchange Call Reply σ)) : Prop :=
  ∀ exchange ∈ trace,
    exchange.request = request
    ∧ ∃ fault, exchange.ending = .failed fault ∧ fault.transient = true

theorem failedInPassing_nil (request : Call)
    : FailedInPassing request ([] : List (Exchange Call Reply σ)) :=
  fun _ member => absurd member List.not_mem_nil

/-- All attempts, the last one too, make the same call. -/
theorem FailedInPassing.asked {request : Call} {failures : List (Exchange Call Reply σ)}
    {last : Exchange Call Reply σ} (passing : FailedInPassing request failures)
    (asked : last.request = request)
    : ∀ exchange ∈ failures ++ [last], exchange.request = request := by
  intro exchange member
  rcases List.mem_append.mp member with earlier | final
  · exact (passing exchange earlier).1
  · rwa [List.mem_singleton.mp final]

/-- None of the attempts that failed in passing succeeded. -/
theorem FailedInPassing.unsuccessful {request : Call} {failures : List (Exchange Call Reply σ)}
    (passing : FailedInPassing request failures)
    : ∀ exchange ∈ failures, exchange.ending ≠ .succeeded := by
  intro exchange member succeeded
  obtain ⟨-, fault, failed, -⟩ := passing exchange member
  rw [succeeded] at failed
  cases failed

/-- Attempts at a call, at most so many, and their ending: all but the last have failed in passing.
-/
inductive Repeats (request : Call) (most : Nat) : List (Exchange Call Reply σ) → Ending → Prop where
  /-- The last call ends the attempts; if it fails in passing, because no more may follow. -/
  | last {earlier : List (Exchange Call Reply σ)} {exchange : Exchange Call Reply σ}
      (passed : FailedInPassing request earlier) (few : earlier.length < most)
      (asked : exchange.request = request)
      (final : ∀ fault, exchange.ending = .failed fault → fault.transient = true
        → earlier.length + 1 = most)
      : Repeats request most (earlier ++ [exchange]) exchange.ending
  /-- Before the next call there is a wait, or an interruption. -/
  | between {earlier : List (Exchange Call Reply σ)} {ending : Ending}
      (passed : FailedInPassing request earlier) (few : earlier.length < most)
      (unfinished : ending = .underway ∨ ∃ kind, ending = .interrupted kind)
      : Repeats request most earlier ending

/-- What is reported of an ending: an interruption is the one that the context shows at that
instant, and a fault is handed on.
-/
inductive Reports (ctx : Context) (task : Task) (wrap : ε → StageFault) (now : Instant)
    : Ending → Option (Except (OperationFailure ε) α) → Prop where
  | underway : Reports ctx task wrap now .underway none
  | interrupted {kind : Interrupt} (stopped : ctx.interruption now = some kind)
      : Reports ctx task wrap now (.interrupted kind)
          (some (.error (.interrupted task.operation task.correlationId kind)))
  | failed {fault : ε}
      : Reports ctx task wrap now (.failed (wrap fault))
          (some (.error (.failed task.operation task.correlationId fault)))
  | succeeded {value : α} : Reports ctx task wrap now .succeeded (some (.ok value))

/-- Attempts that have succeeded or failed have done so at last. -/
theorem Repeats.concluded {request : Call} {most : Nat} {trace : List (Exchange Call Reply σ)}
    {ending : Ending} (repeats : Repeats request most trace ending)
    (finished : ending = .succeeded ∨ ∃ fault, ending = .failed fault)
    : ∃ earlier last,
        trace = earlier ++ [last]
        ∧ FailedInPassing request earlier
        ∧ earlier.length < most
        ∧ last.request = request
        ∧ last.ending = ending := by
  cases repeats with
  | last passed few asked final => exact ⟨_, _, rfl, passed, few, asked, rfl⟩
  | between passed few unfinished =>
      rcases finished with rfl | ⟨fault, rfl⟩
      · simp at unfinished
      · simp at unfinished

/-- All attempts are at the same call. -/
theorem Repeats.asked {request : Call} {most : Nat} {trace : List (Exchange Call Reply σ)}
    {ending : Ending} (repeats : Repeats request most trace ending)
    : ∀ exchange ∈ trace, exchange.request = request := by
  cases repeats with
  | last passed few asked final => exact passed.asked asked
  | between passed few unfinished => exact fun exchange member => (passed exchange member).1

/-- Where the attempts have not succeeded, none of them has. -/
theorem Repeats.unsuccessful {request : Call} {most : Nat} {trace : List (Exchange Call Reply σ)}
    {ending : Ending} (repeats : Repeats request most trace ending)
    (notPassed : ending ≠ .succeeded)
    : ∀ exchange ∈ trace, exchange.ending ≠ .succeeded := by
  cases repeats with
  | last passed few asked final =>
      intro exchange member
      rcases List.mem_append.mp member with earlier | last
      · exact passed.unsuccessful exchange earlier
      · rwa [List.mem_singleton.mp last]
  | between passed few unfinished => exact passed.unsuccessful

/-- A failure in passing before a repeated call makes one more attempt of it; by cases on how the
rest ends.
-/
theorem Repeats.again {request : Call} {most : Nat} {exchange : Exchange Call Reply σ}
    {rest : List (Exchange Call Reply σ)} {ending : Ending} {fault : StageFault}
    (later : Repeats request most rest ending) (asked : exchange.request = request)
    (failed : exchange.ending = .failed fault) (passing : fault.transient = true)
    : Repeats request (most + 1) (exchange :: rest) ending := by
  have passedToo {earlier : List (Exchange Call Reply σ)} (passed : FailedInPassing request earlier)
      : FailedInPassing request (exchange :: earlier) := by
    intro other member
    rcases List.mem_cons.mp member with rfl | member
    · exact ⟨asked, fault, failed, passing⟩
    · exact passed other member
  cases later with
  | last passed few askedLast final =>
      exact .last (passedToo passed) (Nat.succ_lt_succ few) askedLast fun fault failed passing =>
        congrArg (· + 1) (final fault failed passing)
  | between passed few unfinished =>
      exact .between (passedToo passed) (Nat.succ_lt_succ few) unfinished

/-- How an attempt has ended by its outcome. -/
def Ending.ofAttempt (wrap : ε → StageFault) : Option (Except Interrupt (Except ε α)) → Ending
  | none => .underway
  | some (.error kind) => .interrupted kind
  | some (.ok (.error fault)) => .failed (wrap fault)
  | some (.ok (.ok _)) => .succeeded

/-- An attempt has failed exactly when its reply is a fault of its own kind. -/
theorem Ending.ofAttempt_failed {wrap : ε → StageFault}
    {outcome : Option (Except Interrupt (Except ε α))} {fault : StageFault}
    : Ending.ofAttempt wrap outcome = .failed fault
      ↔ ∃ own, outcome = some (.ok (.error own)) ∧ wrap own = fault := by
  match outcome with
  | none => simp [ofAttempt]
  | some (.error kind) => simp [ofAttempt]
  | some (.ok (.error own)) => simp [ofAttempt]
  | some (.ok (.ok value)) => simp [ofAttempt]

/-- An attempt has succeeded exactly when its reply is a value. -/
theorem Ending.ofAttempt_succeeded {wrap : ε → StageFault}
    {outcome : Option (Except Interrupt (Except ε α))}
    : Ending.ofAttempt wrap outcome = .succeeded ↔ ∃ value, outcome = some (.ok (.ok value)) := by
  match outcome with
  | none => simp [ofAttempt]
  | some (.error kind) => simp [ofAttempt]
  | some (.ok (.error own)) => simp [ofAttempt]
  | some (.ok (.ok value)) => simp [ofAttempt]

theorem Exchange.ending_cacheSet {key value : String} {ttl : Duration}
    (reply : Option (Except Interrupt (Except CacheFault Unit))) (before after : World Call σ)
    : (⟨.cacheSet key value ttl, reply, before, after⟩ : Exchange Call Reply σ).ending
      = .ofAttempt .cache reply := by
  match reply with
  | none => rfl
  | some (.error kind) => rfl
  | some (.ok (.error fault)) => rfl
  | some (.ok (.ok ())) => rfl

theorem Exchange.ending_storeSave {record : Record}
    (reply : Option (Except Interrupt (Except StoreFault Unit))) (before after : World Call σ)
    : (⟨.storeSave record, reply, before, after⟩ : Exchange Call Reply σ).ending
      = .ofAttempt .store reply := by
  match reply with
  | none => rfl
  | some (.error kind) => rfl
  | some (.ok (.error fault)) => rfl
  | some (.ok (.ok ())) => rfl

theorem Exchange.ending_score {userId : String} {image : Bytes} {deadline : Option Instant}
    (reply : Option (Except Interrupt (Except ScorerFault Verdict))) (before after : World Call σ)
    : (⟨.score userId image deadline, reply, before, after⟩ : Exchange Call Reply σ).ending
      = .ofAttempt .scorer reply := by
  match reply with
  | none => rfl
  | some (.error kind) => rfl
  | some (.ok (.error fault)) => rfl
  | some (.ok (.ok verdict)) => rfl

/-- A single attempt at a call: one exchange, unless an interruption comes before it. -/
inductive Tries (ctx : Context) (request : Call) (wrap : ε → StageFault) (now : Instant)
    : List (Exchange Call Reply σ) → Option (Except Interrupt (Except ε α)) → Prop where
  | unbegun {kind : Interrupt} (stopped : ctx.interruption now = some kind)
      : Tries ctx request wrap now [] (some (.error kind))
  | begun {exchange : Exchange Call Reply σ} {result : Option (Except Interrupt (Except ε α))}
      (asked : exchange.request = request) (ended : exchange.ending = Ending.ofAttempt wrap result)
      (stopped : ∀ kind, result = some (.error kind) → ctx.interruption now = some kind)
      : Tries ctx request wrap now [exchange] result

/-- An attempt that is the last one, because of its outcome or for want of another. -/
theorem Tries.last {ctx : Context} {request : Call} {wrap : ε → StageFault} {now : Instant}
    {trace : List (Exchange Call Reply σ)} {result : Option (Except Interrupt (Except ε α))}
    {most : Nat} (tries : Tries ctx request wrap now trace result) (positive : 1 ≤ most)
    (final : ∀ fault, result = some (.ok (.error fault)) → (wrap fault).transient = true
      → most = 1)
    : Repeats request most trace (.ofAttempt wrap result) := by
  have nothing : FailedInPassing request ([] : List (Exchange Call Reply σ)) :=
    failedInPassing_nil request
  cases tries with
  | @unbegun kind stopped => exact .between nothing positive (.inr ⟨kind, rfl⟩)
  | @begun exchange _ asked ended stopped =>
      rw [← ended]
      refine .last nothing positive asked ?_
      intro fault failed passing
      obtain ⟨own, rfl, rfl⟩ := Ending.ofAttempt_failed.mp (ended.symm.trans failed)
      exact (final own rfl passing).symm

/-- A fault is the ending of an exchange. -/
theorem Tries.failed {ctx : Context} {request : Call} {wrap : ε → StageFault} {now : Instant}
    {trace : List (Exchange Call Reply σ)} {fault : ε}
    (tries : Tries ctx request wrap now trace
      (some (.ok (.error fault)) : Option (Except Interrupt (Except ε α))))
    : ∃ exchange,
        trace = [exchange]
        ∧ exchange.request = request
        ∧ exchange.ending = .failed (wrap fault) := by
  cases tries with
  | begun asked ended stopped => exact ⟨_, rfl, asked, ended⟩

/-- What attempts hand on of the outcome of the last one. -/
def Task.settled (task : Task) : Except Interrupt (Except ε α) → Except (OperationFailure ε) α
  | .error kind => .error (.interrupted task.operation task.correlationId kind)
  | .ok (.error fault) => .error (.failed task.operation task.correlationId fault)
  | .ok (.ok value) => .ok value

/-- What is reported of an attempt that is not repeated is its own ending. -/
theorem Tries.reports {ctx : Context} {request : Call} {wrap : ε → StageFault} {now : Instant}
    {trace : List (Exchange Call Reply σ)} {value : Except Interrupt (Except ε α)}
    (tries : Tries ctx request wrap now trace (some value)) (task : Task)
    : Reports ctx task wrap now (.ofAttempt wrap (some value)) (some (task.settled value)) := by
  match value with
  | .error kind =>
      cases tries with
      | unbegun stopped => exact .interrupted stopped
      | begun asked ended stopped => exact .interrupted (stopped kind rfl)
  | .ok (.error fault) => exact .failed
  | .ok (.ok value) => exact .succeeded

variable {env : Environment Call Reply σ} {limit : Option Instant} {ctx : Context}
  {world after : World Call σ} {trace : List (Exchange Call Reply σ)} {task : Task}
  {request : Call} {wrap : ε → StageFault}

theorem Flow.Goes.log {event : Event} {flow : Action α} {result : Option α}
    (goes : Goes env limit (.log event flow) world trace result after)
    : Goes env limit flow { world with events := world.events ++ [event] } trace result after :=
  ⟨goes.traced, goes.ran⟩

/-- Noting an event on the way to a result takes no time and no calls. -/
theorem Flow.Goes.note_done {event : Event} {value : α} {result : Option α}
    (goes : Goes env limit (.log event (.done value) : Action α) world trace result after)
    : trace = [] ∧ result = some value ∧ after.clock = world.clock := by
  obtain ⟨noCalls, same, rfl⟩ := goes.log.done_eq
  exact ⟨noCalls, same, rfl⟩

section Attempts

variable [Fault ε] {plan : RetryPlan} {attempt : Nat}
  {result : Option (Except (OperationFailure ε) α)}

/-- An attempt is handed on as it is, or it has failed in passing and leads to what follows. -/
theorem settle_cases {again : ε → Action (Except (OperationFailure ε) α)}
    {value : Except Interrupt (Except ε α)}
    (goes : Goes env limit (RetryPlan.settle task attempt again value) world trace result after)
    : trace = [] ∧ result = some (task.settled value) ∧ after.clock = world.clock
        ∧ (∀ fault, value = .ok (.error fault) → isTransient fault = false)
      ∨ ∃ fault,
          value = .ok (.error fault)
          ∧ isTransient fault = true
          ∧ Goes env limit (again fault) world trace result after := by
  match value with
  | .error kind =>
      obtain ⟨noCalls, same, clock⟩ := goes.note_done
      exact .inl ⟨noCalls, same, clock, by simp⟩
  | .ok (.ok value) =>
      simp only [RetryPlan.settle, RetryPlan.succeed] at goes
      split at goes
      · obtain ⟨noCalls, same, clock⟩ := goes.note_done
        exact .inl ⟨noCalls, same, clock, by simp⟩
      · obtain ⟨noCalls, same, rfl⟩ := goes.done_eq
        exact .inl ⟨noCalls, same, rfl, by simp⟩
  | .ok (.error fault) =>
      simp only [RetryPlan.settle] at goes
      split at goes
      · next passing => exact .inr ⟨fault, rfl, passing, goes⟩
      · next lasting =>
          obtain ⟨noCalls, same, clock⟩ := goes.note_done
          refine .inl ⟨noCalls, same, clock, ?_⟩
          rintro _ ⟨⟩
          exact Bool.eq_false_iff.mpr lasting

/-- A wait after an attempt goes on, is interrupted, or leads to the next attempt. -/
theorem waitThen_cases {next : Action (Except (OperationFailure ε) α)} {fault : ε}
    (goes : Goes env limit (plan.waitThen ctx task attempt next fault) world trace result after)
    : trace = [] ∧ result = none
      ∨ (∃ kind,
          trace = []
          ∧ result = some (.error (.interrupted task.operation task.correlationId kind))
          ∧ ctx.interruption after.clock = some kind)
      ∨ ∃ later, Goes env limit next later trace result after := by
  let wait := plan.waitBefore (attempt - 1)
  have goes : Goes env limit ((pause ctx wait).bind _) _ trace result after := goes.log
  rcases goes.bind_cases with ⟨waits, rfl⟩ | ⟨reply, middle, first, rest, waited, goes, rfl⟩
  · exact .inl ⟨waits.pause_cases.1, rfl⟩
  · obtain ⟨rfl, ends⟩ := waited.pause_cases
    rw [List.nil_append]
    rcases ends with unended | elapsed | ⟨kind, broken, stopped⟩
    · cases unended
    · cases elapsed
      exact .inr (.inr ⟨middle, goes⟩)
    · cases broken
      obtain ⟨noCalls, same, clock⟩ := goes.note_done
      exact .inr (.inl ⟨kind, noCalls, same, clock ▸ stopped⟩)

/-- A run of attempts, by induction on the attempts left: each one is the last, or has failed in
passing and goes before the others.
-/
theorem attemptFrom_repeats {op : RetryPlan.Attempt Call Reply ε α}
    (faithful : ∀ fault, (wrap fault).transient = isTransient fault)
    (single : ∀ {world after trace result},
      Goes env limit (op ctx) world trace result after
      → Tries ctx request wrap after.clock trace result)
    {left : Nat}
    (goes : Goes env limit (plan.attemptFrom ctx task op attempt left) world trace result after)
    : ∃ ending,
        Repeats request (left + 1) trace ending
        ∧ Reports ctx task wrap after.clock ending result := by
  induction left generalizing attempt world trace result after with
  | zero =>
      have goes : Goes env limit ((op ctx).bind _) world trace result after := goes
      rcases goes.bind_cases with ⟨cut, rfl⟩ | ⟨value, middle, first, rest, tried, settles, rfl⟩
      · exact ⟨.underway, (single cut).last (Nat.le_refl 1) fun _ _ _ => rfl, .underway⟩
      · have only := (single tried).last (Nat.le_refl 1) fun _ _ _ => rfl
        have reports := (single tried).reports task
        rcases settle_cases settles with ⟨rfl, rfl, clock, -⟩ | ⟨fault, rfl, -, fails⟩
        · rw [List.append_nil, clock]
          exact ⟨_, only, reports⟩
        · obtain ⟨rfl, rfl, clock⟩ := fails.note_done
          rw [List.append_nil, clock]
          exact ⟨_, only, reports⟩
  | succ left ih =>
      have goes : Goes env limit ((op ctx).bind _) world trace result after := goes
      rcases goes.bind_cases with ⟨cut, rfl⟩ | ⟨value, middle, first, rest, tried, settles, rfl⟩
      · exact ⟨.underway, (single cut).last (Nat.le_add_left 1 _) (by simp), .underway⟩
      -- An attempt that is not the last for want of others ends them, or has failed in passing.
      rcases settle_cases settles with ⟨rfl, rfl, clock, lasting⟩ | ⟨fault, rfl, passing, waits⟩
      · rw [List.append_nil, clock]
        refine ⟨_, (single tried).last (Nat.le_add_left 1 _) ?_, (single tried).reports task⟩
        intro fault failed passing
        rw [faithful, lasting fault (Option.some.inj failed)] at passing
        cases passing
      · obtain ⟨exchange, rfl, asked, failed⟩ := (single tried).failed
        rw [← faithful] at passing
        have alone : FailedInPassing request [exchange] := by
          intro other member
          obtain rfl := List.mem_singleton.mp member
          exact ⟨asked, _, failed, passing⟩
        rcases waitThen_cases waits with ⟨rfl, rfl⟩ | ⟨kind, rfl, rfl, stopped⟩ | ⟨later, again⟩
        · exact ⟨.underway, .between alone (by simp) (.inl rfl), .underway⟩
        · exact ⟨.interrupted kind, .between alone (by simp) (.inr ⟨kind, rfl⟩),
            .interrupted stopped⟩
        · obtain ⟨ending, repeats, reports⟩ := ih again
          exact ⟨ending, repeats.again asked failed passing, reports⟩

/-- A plan with more than one attempt goes through its attempts from the first. -/
theorem repeatAttempts_repeats {op : RetryPlan.Attempt Call Reply ε α}
    (faithful : ∀ fault, (wrap fault).transient = isTransient fault)
    (single : ∀ {world after trace result},
      Goes env limit (op ctx) world trace result after
      → Tries ctx request wrap after.clock trace result)
    (several : 1 < plan.attempts)
    (goes : Goes env limit (plan.repeatAttempts ctx task op) world trace result after)
    : ∃ ending,
        Repeats request plan.attempts trace ending
        ∧ Reports ctx task wrap after.clock ending result := by
  rw [RetryPlan.repeatAttempts, if_neg (Nat.not_le_of_lt several)] at goes
  have repeats := attemptFrom_repeats faithful single goes
  rwa [Nat.sub_add_cancel (Nat.le_of_lt several)] at repeats

end Attempts

/-- A call is an attempt whose outcome is the reply. -/
theorem perform_tries {reply : Option (Except Interrupt (Reply request))}
    {outcome : Option (Except Interrupt (Except ε α))}
    (same : ∀ kind, outcome = some (.error kind) ↔ reply = some (.error kind))
    (ended : ∀ before after,
      (⟨request, reply, before, after⟩ : Exchange Call Reply σ).ending = .ofAttempt wrap outcome)
    (goes : Goes env limit (perform ctx request) world trace reply after)
    : Tries ctx request wrap after.clock trace outcome := by
  rcases goes.perform_cases with ⟨kind, rfl, replied, stopped⟩ | ⟨rfl, begun⟩
  · rw [(same kind).mpr replied]
    exact .unbegun stopped
  · refine .begun rfl (ended world after) ?_
    exact fun kind interrupted => begun.interrupted kind ((same kind).mp interrupted)

/-- A write into the cache is one call, repeated up to three times, and reported by how it ended. -/
theorem set_repeats {key value : String} {ttl : Duration}
    {result : Option (CacheAside.Outcome Unit)}
    (goes : Goes env limit (CacheAside.set ctx task key value ttl) world trace result after)
    : ∃ ending,
        Repeats (.cacheSet key value ttl) 3 trace ending
        ∧ Reports ctx task .cache after.clock ending result := by
  refine repeatAttempts_repeats (fun _ => rfl) ?_ (by decide : 1 < RetryPlan.cache.attempts) goes
  intro world after trace reply asked
  exact perform_tries (fun _ => .rfl) (Exchange.ending_cacheSet reply) asked

/-- So is a save. -/
theorem save_repeats {record : Record} {result : Option (Repository.Outcome Unit)}
    (goes : Goes env limit (Repository.save ctx record) world trace result after)
    : ∃ ending,
        Repeats (.storeSave record) 3 trace ending
        ∧ Reports ctx ⟨"repository.save_log", record.requestId⟩ .store after.clock ending
          result := by
  refine repeatAttempts_repeats (fun _ => rfl) ?_ (by decide : 1 < RetryPlan.store.attempts) goes
  intro world after trace reply asked
  exact perform_tries (fun _ => .rfl) (Exchange.ending_storeSave reply) asked

end ImageVerification
