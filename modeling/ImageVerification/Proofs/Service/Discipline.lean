import ImageVerification.Proofs.Flow.Running
import ImageVerification.Proofs.Service.System

/-! What every operation of the service keeps to, however its calls end: it caches under names that
it has drawn itself, and nothing there but the marker and snapshots of records it has seen saved.
-/

namespace ImageVerification.Service

open Collaborator

/-- What may be asked for by who has drawn the names and seen the records saved. -/
def Allowed (names : List String) (saved : List Record) : Call → Prop
  | .cacheSet key value ttl =>
      ∃ name ∈ names,
        key = CacheAside.key name
        ∧ ttl.nanos ≤ CacheAside.snapshotLifetime.nanos
        ∧ (value = CacheAside.marker
          ∨ ∃ record ∈ saved,
              record.requestId = name ∧ value = (Snapshot.ofRecord record).encode)
  | .storeSave record => record.requestId ∈ names
  | _ => True

/-- The record that a reply shows to be saved. -/
def shown : (request : Call) → Except Interrupt (Reply request) → List Record
  | .storeSave record, .ok (.ok ()) => [record]
  | _, _ => []

variable {α β : Type}

/-- However its calls end, the flow asks only for what is allowed, and its result is as described
for the names it has drawn and the records it has seen saved by then.
-/
def Disciplined (post : List String → List Record → α → Prop)
    : List String → List Record → Action α → Prop
  | names, saved, .done result => post names saved result
  | names, saved, .call _ request next =>
      Allowed names saved request
      ∧ ∀ reply, Disciplined post names (shown request reply ++ saved) (next reply)
  | names, saved, .sleep _ _ next => ∀ reply, Disciplined post names saved (next reply)
  | names, saved, .now next => ∀ reading, Disciplined post names saved (next reading)
  | names, saved, .fresh next => ∀ name, Disciplined post (name :: names) saved (next name)
  | names, saved, .log _ next => Disciplined post names saved next

/-- A flow in two parts keeps its discipline if both parts do, by induction on the first; what is
allowed to the second depends on the names drawn and the records seen saved by then.
-/
theorem Disciplined.bind {inner : List String → List Record → α → Prop}
    {post : List String → List Record → β → Prop} {names : List String} {saved : List Record}
    {flow : Action α} {f : α → Action β} (keeps : Disciplined inner names saved flow)
    (next : ∀ names saved result, inner names saved result
      → Disciplined post names saved (f result))
    : Disciplined post names saved (flow.bind f) := by
  induction flow generalizing names saved with
  | done result => exact next names saved result keeps
  | call ctx request rest ih =>
      obtain ⟨allowed, later⟩ := keeps
      exact ⟨allowed, fun reply => ih reply (later reply)⟩
  | sleep ctx span rest ih => exact fun reply => ih reply (keeps reply)
  | now rest ih => exact fun reading => ih reading (keeps reading)
  | fresh rest ih => exact fun name => ih name (keeps name)
  | log event rest ih => exact ih keeps

/-- What a disciplined flow comes to may be described more weakly. Witness: the flow is followed by
nothing.
-/
theorem Disciplined.imp {inner post : List String → List Record → α → Prop} {names : List String}
    {saved : List Record} {flow : Action α} (keeps : Disciplined inner names saved flow)
    (implies : ∀ names saved result, inner names saved result → post names saved result)
    : Disciplined post names saved flow := by
  have bound : Disciplined post names saved (flow.bind .done) := keeps.bind implies
  rwa [Flow.bind_done] at bound

/-! Attempts: those that fail or are interrupted leave nothing behind to know of. -/

section Attempts

variable {ε : Type} {names : List String} {saved : List Record}

/-- The outcome of one attempt: as described when it succeeds, and with nothing new otherwise. -/
def Single (names : List String) (saved : List Record)
    (good : List String → List Record → α → Prop) (names' : List String) (saved' : List Record)
    : Except Interrupt (Except ε α) → Prop
  | .ok (.ok value) => good names' saved' value
  | _ => names' = names ∧ saved' = saved

/-- The outcome of a run of attempts: as described when it succeeds. -/
def Settled (names : List String) (saved : List Record)
    (good : List String → List Record → α → Prop) (names' : List String) (saved' : List Record)
    : Except (OperationFailure ε) α → Prop
  | .ok value => good names' saved' value
  | .error _ => names' = names ∧ saved' = saved

variable {good : List String → List Record → α → Prop}

/-- To settle an attempt keeps the discipline if what comes after a passing fault does. -/
theorem settle_disciplined [Fault ε] (task : Task) (attempt : Nat)
    {again : ε → Action (Except (OperationFailure ε) α)}
    (next : ∀ fault, Disciplined (Settled names saved good) names saved (again fault))
    (names' : List String) (saved' : List Record) (result : Except Interrupt (Except ε α))
    (single : Single names saved good names' saved' result)
    : Disciplined (Settled names saved good) names' saved'
        (RetryPlan.settle task attempt again result) := by
  match result with
  | .error kind => exact single
  | .ok (.ok value) =>
      simp only [RetryPlan.settle, RetryPlan.succeed]
      split <;> exact single
  | .ok (.error fault) =>
      obtain ⟨rfl, rfl⟩ := single
      simp only [RetryPlan.settle]
      split
      · exact next fault
      · exact ⟨rfl, rfl⟩

/-- Attempts are as disciplined as a single one, by induction on the attempts left. -/
theorem attemptFrom_disciplined [Fault ε] (plan : RetryPlan) (ctx : Context) (task : Task)
    {op : RetryPlan.Attempt Call Reply ε α}
    (single : Disciplined (Single names saved good) names saved (op ctx)) (left attempt : Nat)
    : Disciplined (Settled names saved good) names saved
        (plan.attemptFrom ctx task op attempt left) := by
  induction left generalizing attempt with
  | zero =>
      refine single.bind (settle_disciplined task attempt ?_)
      exact fun fault => ⟨rfl, rfl⟩
  | succ left ih =>
      refine single.bind (settle_disciplined task attempt ?_)
      intro fault waited
      -- The wait is interrupted, or it leads to the next attempt.
      cases waited with
      | error kind => exact ⟨rfl, rfl⟩
      | ok done => exact ih (attempt + 1)

/-- An operation keeps the discipline if each single attempt does; by induction on the budget that
is left.
-/
theorem repeatAttempts_disciplined [Fault ε] (plan : RetryPlan) (ctx : Context) (task : Task)
    {op : RetryPlan.Attempt Call Reply ε α}
    (single : ∀ ctx, Disciplined (Single names saved good) names saved (op ctx))
    : Disciplined (Settled names saved good) names saved (plan.repeatAttempts ctx task op) := by
  unfold RetryPlan.repeatAttempts
  split
  -- A plan with no more than one attempt hands its outcome on as it is.
  · refine (single .background).bind ?_
    intro names' saved' result outcome
    match result with
    | .error kind => exact outcome
    | .ok (.error fault) => exact outcome
    | .ok (.ok value) => exact outcome
  · exact attemptFrom_disciplined plan ctx task (single ctx) (plan.attempts - 1) 1

end Attempts

/-- Nothing new is known. -/
def Same (names : List String) (saved : List Record) (names' : List String) (saved' : List Record)
    (_ : α) : Prop :=
  names' = names ∧ saved' = saved

variable {names : List String} {saved : List Record}

/-- A single call that shows no saved record leaves names and records as they are. -/
theorem perform_same (ctx : Context) {request : Call} (allowed : Allowed names saved request)
    (unseen : ∀ reply, shown request reply = [])
    : Disciplined (Same names saved) names saved (Flow.perform ctx request) := by
  refine ⟨allowed, fun reply => ?_⟩
  rw [unseen reply, List.nil_append]
  exact ⟨rfl, rfl⟩

/-- So does a call that is tried again and again. -/
theorem repeatAttempts_same {ε : Type} [Fault ε] (plan : RetryPlan) (ctx : Context) (task : Task)
    {op : RetryPlan.Attempt Call Reply ε α}
    (single : ∀ ctx, Disciplined (Same names saved) names saved (op ctx))
    : Disciplined (Same names saved) names saved (plan.repeatAttempts ctx task op) := by
  have keeps : Disciplined (Settled names saved (Same names saved)) names saved
      (plan.repeatAttempts ctx task op) := by
    refine repeatAttempts_disciplined plan ctx task fun ctx => (single ctx).imp ?_
    intro names' saved' result same
    match result with
    | .error kind => exact same
    | .ok (.error fault) => exact same
    | .ok (.ok value) => exact same
  refine keeps.imp ?_
  intro names' saved' result settled
  cases result with
  | error failure => exact settled
  | ok value => exact settled

/-- What may be written into the cache once may be written however often it takes. -/
theorem set_disciplined (ctx : Context) (task : Task) {key value : String} {ttl : Duration}
    (allowed : Allowed names saved (.cacheSet key value ttl))
    : Disciplined (Same names saved) names saved (CacheAside.set ctx task key value ttl) :=
  repeatAttempts_same .cache ctx task fun ctx => perform_same ctx allowed fun _ => rfl

/-- Reading the cache is always allowed. -/
theorem get_disciplined (ctx : Context) (task : Task) (key : String)
    : Disciplined (Same names saved) names saved (CacheAside.get ctx task key) := by
  have asked (ctx : Context)
      : Disciplined (Same names saved) names saved (Flow.perform ctx (Call.cacheGet key)) :=
    perform_same ctx trivial fun _ => rfl
  exact (repeatAttempts_same .cache ctx task asked).bind fun _ _ _ same => same

theorem find_disciplined (ctx : Context) (requestId userId : String)
    : Disciplined (Same names saved) names saved (Repository.find ctx requestId userId) :=
  repeatAttempts_same .store ctx _ fun ctx => perform_same ctx trivial fun _ => rfl

theorem duplicates_disciplined (ctx : Context) (owner : Option String) (fingerprint : String)
    (exclude : Option String)
    : Disciplined (Same names saved) names saved
        (Repository.duplicates ctx owner fingerprint exclude) :=
  repeatAttempts_same .store ctx _ fun ctx => perform_same ctx trivial fun _ => rfl

theorem totals_disciplined (ctx : Context)
    : Disciplined (Same names saved) names saved (Repository.totals ctx) :=
  repeatAttempts_same .store ctx _ fun ctx => perform_same ctx trivial fun _ => rfl

/-- A record that can be saved counts as saved once the store has said so. -/
theorem save_disciplined (ctx : Context) {record : Record} (drawn : record.requestId ∈ names)
    : Disciplined
        (Settled names saved fun names' saved' _ => names' = names ∧ saved' = record :: saved)
        names saved (Repository.save ctx record) := by
  refine repeatAttempts_disciplined .store ctx _ fun ctx => ⟨drawn, ?_⟩
  intro reply
  match reply with
  | .error kind => exact ⟨rfl, rfl⟩
  | .ok (.error fault) => exact ⟨rfl, rfl⟩
  | .ok (.ok ()) => exact ⟨rfl, rfl⟩

/-- What a verification for a user says when it succeeds: the record of a name it has drawn, which
it has seen saved.
-/
def Verified (userId : String) (names : List String) (saved : List Record)
    : Except Verification.StageFailure VerificationOutcome → Prop
  | .ok outcome =>
      outcome.requestId ∈ names
      ∧ outcome.record ∈ saved
      ∧ outcome.record.requestId = outcome.requestId
      ∧ outcome.record.userId = userId
  | .error _ => True

section Verify

open Verification

variable {userId : String}

/-- The snapshot of a record may be cached because the record has been seen saved, under the key of
a name that has been drawn, and for no longer than snapshots live.
-/
theorem cacheResult_disciplined (ctx : Context) (verdict : Verdict) {record : Record}
    (drawn : record.requestId ∈ names) (seen : record ∈ saved) (owned : record.userId = userId)
    : Disciplined (Verified userId) names saved (cacheResult ctx verdict record) := by
  have allowed
      : Allowed names saved (.cacheSet (CacheAside.key record.requestId)
          (Snapshot.ofRecord record).encode CacheAside.snapshotLifetime) :=
    ⟨record.requestId, drawn, rfl, Nat.le_refl _, .inr ⟨record, seen, rfl, rfl⟩⟩
  refine (set_disciplined ctx _ allowed).bind ?_
  rintro _ _ outcome ⟨rfl, rfl⟩
  cases outcome with
  | error failure => trivial
  | ok done => exact ⟨drawn, seen, rfl, owned⟩

/-- A record may be saved under a name that has been drawn, and is cached only if it has been. -/
theorem saveRecord_disciplined (ctx : Context) (verdict : Verdict) {record : Record}
    (drawn : record.requestId ∈ names) (owned : record.userId = userId)
    : Disciplined (Verified userId) names saved (saveRecord ctx verdict record) := by
  refine (save_disciplined ctx drawn).bind ?_
  intro names' saved' outcome settled
  cases outcome with
  | error failure => trivial
  | ok done =>
      obtain ⟨rfl, rfl⟩ := settled
      exact cacheResult_disciplined ctx verdict drawn List.mem_cons_self owned

/-- The record of an image that has been scored bears the name drawn for it. -/
theorem scoreImage_disciplined (ctx : Context) {requestId : String} (image : Bytes)
    (drawn : requestId ∈ names)
    : Disciplined (Verified userId) names saved (scoreImage ctx requestId userId image) := by
  intro started
  have asked
      : Disciplined (Same names saved) names saved
          (Flow.perform ctx (Call.score userId image ctx.deadline)) :=
    perform_same ctx trivial fun _ => rfl
  refine asked.bind ?_
  rintro _ _ reply ⟨rfl, rfl⟩
  match reply with
  | .error kind => trivial
  | .ok (.error fault) => trivial
  | .ok (.ok verdict) =>
      intro finished
      exact saveRecord_disciplined ctx verdict drawn rfl

/-- A verification draws its name before anything else, and marks, saves and caches under that name
only.
-/
theorem verify_disciplined (ctx : Context) (userId : String) (image : Bytes)
    : Disciplined (Verified userId) names saved (verify ctx userId image) := by
  intro requestId
  have drawn : requestId ∈ requestId :: names := List.mem_cons_self
  have allowed
      : Allowed (requestId :: names) saved (.cacheSet (CacheAside.key requestId) CacheAside.marker
          CacheAside.markerLifetime) :=
    ⟨requestId, drawn, rfl, by decide, .inl rfl⟩
  refine (set_disciplined ctx _ allowed).bind ?_
  rintro _ _ outcome ⟨rfl, rfl⟩
  cases outcome with
  | error failure => trivial
  | ok done => exact scoreImage_disciplined ctx image drawn

end Verify

/-- Operations other than verifications only read. -/
theorem result_disciplined (ctx : Context) (userId requestId : String)
    : Disciplined (fun _ _ _ => True) names saved (Verification.result ctx userId requestId) := by
  have found {names : List String} {saved : List Record}
      : Disciplined (fun _ _ _ => True) names saved (Repository.find ctx requestId userId) :=
    (find_disciplined ctx requestId userId).imp fun _ _ _ _ => trivial
  refine (get_disciplined ctx _ _).bind ?_
  intro names' saved' outcome _
  cases outcome with
  | error failure =>
      dsimp only
      split
      · exact found
      · exact found
  | ok cached =>
      dsimp only
      split
      · exact found
      · split
        · trivial
        · exact found

/-- A report only asks the store. -/
theorem duplicateReport_disciplined (scope : DuplicateScope) (ctx : Context)
    (userId requestId : String)
    : Disciplined (fun _ _ _ => True) names saved
        (Verification.duplicateReport scope ctx userId requestId) := by
  refine (find_disciplined ctx requestId userId).bind ?_
  intro names' saved' outcome _
  cases outcome with
  | error failure => trivial
  | ok requested =>
      refine (duplicates_disciplined ctx _ _ _).bind ?_
      intro names' saved' outcome _
      cases outcome with
      | error failure => trivial
      | ok duplicates => trivial

/-- So do the metrics. -/
theorem metrics_disciplined (ctx : Context)
    : Disciplined (fun _ _ _ => True) names saved (Verification.metrics ctx) := by
  refine (totals_disciplined ctx).bind ?_
  intro names' saved' outcome _
  cases outcome with
  | error failure => trivial
  | ok totals => trivial

/-- What the answer of an operation says. -/
def Operation.Delivers : Operation → List String → List Record → Answer → Prop
  | .verify userId _, names, saved, .verified outcome => Verified userId names saved outcome
  | _, _, _, _ => True

/-- Every operation of the service keeps the discipline, by cases on the operation. -/
theorem flow_disciplined (ctx : Context) (operation : Operation)
    : Disciplined operation.Delivers [] [] (operation.flow ctx) := by
  cases operation with
  | verify userId image =>
      exact (verify_disciplined ctx userId image).bind fun _ _ _ verified => verified
  | result userId requestId =>
      exact (result_disciplined ctx userId requestId).bind fun _ _ _ _ => trivial
  | duplicateReport scope userId requestId =>
      exact (duplicateReport_disciplined scope ctx userId requestId).bind fun _ _ _ _ => trivial
  | metrics => exact (metrics_disciplined ctx).bind fun _ _ _ _ => trivial

end ImageVerification.Service
