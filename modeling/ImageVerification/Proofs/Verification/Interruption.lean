import ImageVerification.InMemory
import ImageVerification.Proofs.Flow.Interruption
import ImageVerification.Verification

/-! Every operation of the service is over by the interruption of its context, and ends in that
interruption unless it was over before.
-/

namespace ImageVerification

namespace RetryPlan

open ImageVerification.Flow

variable {Call : Type} {Reply : Call → Type} {ε α : Type} {ctx : Context}

/-- The result of attempts that were interrupted. -/
def Halted (task : Task) (kind : Interrupt) (result : Except (OperationFailure ε) α) : Prop :=
  result = .error (.interrupted task.operation task.correlationId kind)

/-- An operation told of an interruption stops with it. -/
theorem interrupt_stops (task : Task) (event : Event) (kind : Interrupt)
    : (interrupt task event kind
        : Flow Call Reply (Except (OperationFailure ε) α)).Stops ctx kind
        (Halted task kind) :=
  rfl

theorem succeed_heeds (task : Task) (attempt : Nat) (value : α)
    : (succeed task attempt value : Flow Call Reply (Except (OperationFailure ε) α)).Heeds ctx
        (Halted task) := by
  unfold succeed
  split <;> trivial

variable [Fault ε]

/-- An attempt that was answered ends the operation or leads to what follows it. -/
theorem settle_heeds (task : Task) (attempt : Nat)
    {again : ε → Flow Call Reply (Except (OperationFailure ε) α)}
    (next : ∀ fault, (again fault).Heeds ctx (Halted task))
    (result : Except Interrupt (Except ε α))
    : (settle task attempt again result).Heeds ctx (Halted task) := by
  match result with
  | .error kind => trivial
  | .ok (.ok value) => exact succeed_heeds task attempt value
  | .ok (.error fault) =>
      simp only [settle]
      split
      · exact next fault
      · trivial

/-- The wait before the next attempt heeds an interruption, if the attempt does. -/
theorem waitThen_heeds (plan : RetryPlan) (task : Task) (attempt : Nat)
    {next : Flow Call Reply (Except (OperationFailure ε) α)} (heeds : next.Heeds ctx (Halted task))
    (fault : ε)
    : (plan.waitThen ctx task attempt next fault).Heeds ctx (Halted task) :=
  ⟨rfl, heeds, fun kind => interrupt_stops task (task.abortedEvent attempt kind) kind⟩

/-- Attempts obey a context when a single one does. By induction on the attempts left: an
interruption ends the attempt or the wait it falls into, and with it the operation.
-/
theorem attemptFrom_obeys (plan : RetryPlan) (task : Task) (op : Attempt Call Reply ε α)
    (single : (op ctx).Obeys ctx fun kind result => result = .error kind) (left attempt : Nat)
    : (plan.attemptFrom ctx task op attempt left).Obeys ctx (Halted task) := by
  induction left generalizing attempt with
  | zero =>
      refine single.bind (settle_heeds task attempt fun _ => trivial) ?_
      intro kind result lost
      obtain rfl := lost
      exact interrupt_stops task _ kind
  | succ left ih =>
      refine single.bind
        (settle_heeds task attempt (waitThen_heeds plan task attempt (ih (attempt + 1)).heeds)) ?_
      intro kind result lost
      obtain rfl := lost
      exact interrupt_stops task _ kind

/-- A plan with more than one attempt races every attempt against the context. -/
theorem repeatAttempts_obeys (plan : RetryPlan) (task : Task) (op : Attempt Call Reply ε α)
    (several : 1 < plan.attempts)
    (single : (op ctx).Obeys ctx fun kind result => result = .error kind)
    : (plan.repeatAttempts ctx task op).Obeys ctx (Halted task) := by
  unfold repeatAttempts
  rw [if_neg (Nat.not_le_of_lt several)]
  exact attemptFrom_obeys plan task op single (plan.attempts - 1) 1

end RetryPlan

/-- A single call obeys: it is not made once its context is interrupted. -/
theorem Collaborator.perform_obeys (ctx : Context) (request : Collaborator.Call)
    : (Flow.perform ctx request : Action _).Obeys ctx fun kind result => result = .error kind :=
  ⟨⟨rfl, fun _ => trivial, fun _ => rfl⟩, fun _ => ⟨rfl, rfl⟩⟩

namespace CacheAside

open RetryPlan Collaborator

/-- Writing the cache obeys an interruption at each attempt and each wait. -/
theorem set_obeys (ctx : Context) (task : Task) (key value : String) (ttl : Duration)
    : (set ctx task key value ttl).Obeys ctx (Halted task) :=
  repeatAttempts_obeys .cache task _ (by decide) (perform_obeys ctx (.cacheSet key value ttl))

/-- So does reading the cache: an interruption is handed on and not taken for a miss. -/
theorem get_obeys (ctx : Context) (task : Task) (key : String)
    : (get ctx task key).Obeys ctx (Halted task) := by
  refine (repeatAttempts_obeys .cache task _ (by decide) (perform_obeys ctx (.cacheGet key))).bind
    (fun _ => trivial) ?_
  intro kind result halted
  obtain rfl := halted
  rfl

end CacheAside

namespace Repository

open RetryPlan Collaborator

/-- So does a save. -/
theorem save_obeys (ctx : Context) (record : Record)
    : (save ctx record).Obeys ctx (Halted ⟨"repository.save_log", record.requestId⟩) :=
  repeatAttempts_obeys .store _ _ (by decide) (perform_obeys ctx (.storeSave record))

/-- So does a lookup in the store. -/
theorem find_obeys (ctx : Context) (requestId userId : String)
    : (find ctx requestId userId).Obeys ctx
        (Halted ⟨"repository.find_by_request_and_user", requestId⟩) :=
  repeatAttempts_obeys .store _ _ (by decide) (perform_obeys ctx (.storeFind requestId userId))

/-- So does a search for duplicates. -/
theorem duplicates_obeys (ctx : Context) (owner : Option String) (fingerprint : String)
    (exclude : Option String)
    : (duplicates ctx owner fingerprint exclude).Obeys ctx
        (Halted ⟨"repository.find_duplicates_by_hash", exclude.getD ""⟩) :=
  repeatAttempts_obeys .store _ _ (by decide)
    (perform_obeys ctx (.storeDuplicates owner fingerprint exclude))

/-- So does the sum over all records. -/
theorem totals_obeys (ctx : Context)
    : (totals ctx).Obeys ctx (Halted ⟨"repository.aggregate_metrics", ""⟩) :=
  repeatAttempts_obeys .store _ _ (by decide) (perform_obeys ctx .storeTotals)

end Repository

namespace Verification

open ImageVerification.Flow RetryPlan

variable {ε α : Type}

/-- The result of an operation that was interrupted. -/
def CutShort (kind : Interrupt) (result : Except (OperationFailure ε) α) : Prop :=
  ∃ failure, result = .error failure ∧ failure.cause = .interrupted kind

/-- Aborting a verification hands on the interruption that its stage was ended by. -/
theorem abort_stops (ctx : Context) (operation correlationId : String) (kind : Interrupt)
    : (abort (α := α) (.interrupted operation correlationId kind)).Stops ctx kind
        (CutShort kind) :=
  ⟨_, rfl, rfl⟩

/-- The last stage of a verification is cut short as its write into the cache is. -/
theorem cacheResult_obeys (ctx : Context) (verdict : Verdict) (record : Record)
    : (cacheResult ctx verdict record).Obeys ctx CutShort := by
  refine (CacheAside.set_obeys ctx _ _ _ _).bind ?_ ?_
  · intro outcome
    cases outcome with
    | error failure => trivial
    | ok done => trivial
  · intro kind result halted
    obtain rfl := halted
    exact abort_stops ctx _ _ kind

/-- The save of a verification is cut short as the operation is, and so is what comes after it. -/
theorem saveRecord_obeys (ctx : Context) (verdict : Verdict) (record : Record)
    : (saveRecord ctx verdict record).Obeys ctx CutShort := by
  refine (Repository.save_obeys ctx record).bind ?_ ?_
  · intro outcome
    cases outcome with
    | error failure => trivial
    | ok done => exact (cacheResult_obeys ctx verdict record).heeds
  · intro kind result halted
    obtain rfl := halted
    exact abort_stops ctx _ _ kind

/-- Scoring is cut short as the call of the scorer is; the readings of the clock around it take no
time.
-/
theorem scoreImage_obeys (ctx : Context) (requestId userId : String) (image : Bytes)
    : (scoreImage ctx requestId userId image).Obeys ctx CutShort := by
  refine obeys_now ?_
  intro started
  refine (Collaborator.perform_obeys ctx (.score userId image ctx.deadline)).bind ?_ ?_
  · intro reply
    match reply with
    | .error kind => trivial
    | .ok (.error fault) => trivial
    | .ok (.ok verdict) =>
        intro finished
        exact (saveRecord_obeys ctx verdict _).heeds
  · intro kind result halted
    obtain rfl := halted
    exact abort_stops ctx _ _ kind

/-- A verification is cut short at any of its stages; its name is drawn before the first of them. -/
theorem verify_obeys (ctx : Context) (userId : String) (image : Bytes)
    : (verify ctx userId image).Obeys ctx CutShort := by
  refine obeys_fresh ?_
  intro requestId
  refine (CacheAside.set_obeys ctx _ _ _ _).bind ?_ ?_
  · intro outcome
    cases outcome with
    | error failure => trivial
    | ok done => exact (scoreImage_obeys ctx requestId userId image).heeds
  · intro kind result halted
    obtain rfl := halted
    exact abort_stops ctx _ _ kind

/-- A lookup goes on to the store after any fault of the cache, and so after an interruption too,
which the store then meets again.
-/
theorem result_obeys (ctx : Context) (userId requestId : String)
    : (result ctx userId requestId).Obeys ctx
        (Halted ⟨"repository.find_by_request_and_user", requestId⟩) := by
  have found := Repository.find_obeys ctx requestId userId
  refine (CacheAside.get_obeys ctx _ _).bind ?_ ?_
  · intro outcome
    cases outcome with
    | error failure =>
        dsimp only
        split
        · exact found.heeds
        · exact found.heeds
    | ok cached =>
        dsimp only
        split
        · exact found.heeds
        · split
          · trivial
          · exact found.heeds
  -- The interruption of the read is passed over as any fault of the cache is.
  · intro kind result halted
    obtain rfl := halted
    exact found.stops kind

/-- A report is cut short at the lookup or at the search. -/
theorem duplicateReport_obeys (scope : DuplicateScope) (ctx : Context)
    (userId requestId : String)
    : (duplicateReport scope ctx userId requestId).Obeys ctx CutShort := by
  refine (Repository.find_obeys ctx requestId userId).bind ?_ ?_
  · intro outcome
    cases outcome with
    | error failure => trivial
    | ok requested =>
        refine (Repository.duplicates_obeys ctx _ _ _).heeds.bind ?_ ?_
        · intro outcome
          cases outcome with
          | error failure => trivial
          | ok duplicates => trivial
        · intro kind result halted
          obtain rfl := halted
          exact ⟨_, rfl, rfl⟩
  · intro kind result halted
    obtain rfl := halted
    exact ⟨_, rfl, rfl⟩

/-- The totals are cut short as their one operation is. -/
theorem metrics_obeys (ctx : Context) : (metrics ctx).Obeys ctx CutShort := by
  refine (Repository.totals_obeys ctx).bind ?_ ?_
  · intro outcome
    cases outcome with
    | error failure => trivial
    | ok totals => trivial
  · intro kind result halted
    obtain rfl := halted
    exact ⟨_, rfl, rfl⟩

/-- Interruptions are prompt and final. Whatever the collaborators do, each operation is over by the
interruption of its context, begins no call from then on, and ends in that interruption unless it
was over before. A lookup that is interrupted while it reads the cache ends in the interruption of
its lookup in the store.
-/
theorem operations_prompt (ctx : Context) (scope : DuplicateScope) (userId requestId : String)
    (image : Bytes)
    : (verify ctx userId image).Prompt ctx CutShort
      ∧ (result ctx userId requestId).Prompt ctx
          (fun kind answer =>
            answer
            = .error (.interrupted "repository.find_by_request_and_user" requestId kind))
      ∧ (duplicateReport scope ctx userId requestId).Prompt ctx CutShort
      ∧ (metrics ctx).Prompt ctx CutShort :=
  ⟨(verify_obeys ctx userId image).prompt, (result_obeys ctx userId requestId).prompt,
    (duplicateReport_obeys scope ctx userId requestId).prompt, (metrics_obeys ctx).prompt⟩

/-- Collaborators in memory that would do their work but never get to it. -/
def unanswering : Environment Collaborator.Call Collaborator.Reply InMemory :=
  {
    accept := fun call _ state =>
      (⟨none, fun now state => InMemory.answer (.error (.transport "")) now state call, none⟩,
        state)
    wall := fun _ => .epoch
    name := fun _ => "r"
  }

/-- A lookup that waits for the cache in vain ends at its deadline, although a cancellation would
have come later.
-/
theorem result_prompt_unanswered
    : (⟨some 20, some 10⟩ : Context).interruptAt = some 10
      ∧ ∃ answer after,
          run unanswering none (result ⟨some 20, some 10⟩ "u" "r") (.start .empty)
            = (some answer, after)
          ∧ after.clock ≤ 10
          ∧ BegunBefore 10 (.start .empty) after
          ∧ (10 ≤ after.clock
            → answer
              = .error
                (.interrupted "repository.find_by_request_and_user" "r" .deadlineExceeded)) :=
  ⟨rfl,
    (operations_prompt ⟨some 20, some 10⟩ .owner "u" "r" []).2.1 unanswering (.start .empty) 10
      rfl⟩

end Verification

end ImageVerification
