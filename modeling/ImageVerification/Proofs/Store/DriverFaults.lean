import ImageVerification.InMemory
import ImageVerification.Proofs.Verification.ReadThrough
import ImageVerification.Store.Postgres

/-! What becomes of the faults of a database driver: how often an operation is attempted that fails
with one each time, and which fault surfaces.

The driver's fault is first taken for what it says of the store, and only then for whether it may
be gone at the next attempt. A probe is not among these operations, since it is never repeated.
-/

namespace ImageVerification

open Collaborator ImageVerification.Flow

namespace DatabaseFault

/-- The driver's own test finds a uniqueness rule violated, whatever the code is. -/
def ViolatesUniqueness (fault : DatabaseFault) (detail : String) : Prop :=
  ∃ found, fault = report found ∧ found.uniqueViolation = true ∧ found.message = detail

/-- A violation names one detail only. -/
theorem ViolatesUniqueness.unique {fault : DatabaseFault} {detail other : String}
    (violates : fault.ViolatesUniqueness detail) (violates' : fault.ViolatesUniqueness other)
    : detail = other := by
  obtain ⟨found, rfl, -, rfl⟩ := violates
  obtain ⟨_, ⟨⟩, -, rfl⟩ := violates'
  rfl

/-- Faults that may be gone at the next attempt. -/
inductive Passing : DatabaseFault → Prop where
  | poolTimedOut : Passing poolTimedOut
  | connection {fault : ConnectionFault}
      (stalled :
        fault ∈ [.timedOut, .wouldBlock, .interrupted, .connectionReset, .connectionAborted,
          .brokenPipe, .notConnected, .unexpectedEnd])
      : Passing (connection fault)
  | report {found : DatabaseReport} {code : String} (coded : found.code = some code)
      (other : found.uniqueViolation = false)
      (passing :
        "08".toList <+: code.toList
        ∨ code ∈ ["57P01", "57P02", "57P03", "40001", "40P01", "53300"])
      : Passing (report found)

/-- The codes that pass are those of class 08 and six more by name. -/
theorem isTransientCode_iff {code : String}
    : isTransientCode code = true
      ↔ "08".toList <+: code.toList
        ∨ code ∈ ["57P01", "57P02", "57P03", "40001", "40P01", "53300"] := by
  simp only [isTransientCode, transientCodes, Bool.or_eq_true, List.isPrefixOf_iff_prefix,
    List.contains_iff_mem]
  rfl

end DatabaseFault

/-- The faults of a connection that pass, by name. -/
theorem ConnectionFault.transient_iff {fault : ConnectionFault}
    : fault.transient = true
      ↔ fault ∈ [.timedOut, .wouldBlock, .interrupted, .connectionReset, .connectionAborted,
          .brokenPipe, .notConnected, .unexpectedEnd] := by
  cases fault <;> decide

namespace StoreFault

/-- A missing row and a violated uniqueness rule apart, a driver's fault is handed on. -/
theorem ofDatabase_cases (fault : DatabaseFault)
    : fault = .rowNotFound ∧ ofDatabase fault = .notFound
      ∨ (∃ detail, fault.ViolatesUniqueness detail ∧ ofDatabase fault = .conflict detail)
      ∨ fault ≠ .rowNotFound
        ∧ (∀ detail, ¬ fault.ViolatesUniqueness detail)
        ∧ ofDatabase fault = .database fault := by
  cases fault with
  | rowNotFound => exact .inl ⟨rfl, rfl⟩
  | report found =>
      cases unique : found.uniqueViolation with
      | true => exact .inr (.inl ⟨found.message, ⟨found, rfl, unique, rfl⟩, if_pos unique⟩)
      | false =>
          refine .inr (.inr ⟨nofun, ?_, if_neg (Bool.eq_false_iff.mp unique)⟩)
          rintro detail ⟨_, ⟨⟩, violated, -⟩
          exact absurd (unique.symm.trans violated) nofun
  | _ => exact .inr (.inr ⟨nofun, fun _ ⟨_, same, _⟩ => (nomatch same), rfl⟩)

/-- Whether a fault is passing is asked of what it has been taken for. -/
theorem transient_ofDatabase_iff {fault : DatabaseFault}
    : isTransient (ofDatabase fault) = true ↔ fault.Passing := by
  cases fault with
  | poolTimedOut => exact iff_of_true rfl .poolTimedOut
  | connection fault =>
      refine ConnectionFault.transient_iff.trans ⟨.connection, fun passing => ?_⟩
      cases passing with
      | connection stalled => exact stalled
  | report found =>
      cases unique : found.uniqueViolation with
      | true =>
          -- A violation is not passing, even under a code that otherwise is.
          rw [ofDatabase, if_pos unique]
          refine iff_of_false nofun fun passing => ?_
          cases passing with
          | report coded other => cases unique.symm.trans other
      | false =>
          rw [ofDatabase, if_neg (Bool.eq_false_iff.mp unique)]
          refine (Option.any_eq_true _ _).trans ⟨?_, fun passing => ?_⟩
          · rintro ⟨code, coded, passing⟩
            exact .report coded unique (DatabaseFault.isTransientCode_iff.mp passing)
          · cases passing with
            | report coded _ passing =>
                exact ⟨_, coded, DatabaseFault.isTransientCode_iff.mpr passing⟩
  | _ => exact iff_of_false nofun nofun

/-- What the store makes of a driver's fault. -/
structure StandsFor (surfaced : StoreFault) (fault : DatabaseFault) : Prop where
  conflict : ∀ detail, surfaced = .conflict detail ↔ fault.ViolatesUniqueness detail
  notFound : surfaced = .notFound ↔ fault = .rowNotFound
  otherwise :
    surfaced = .database fault
    ↔ fault ≠ .rowNotFound ∧ ∀ detail, ¬ fault.ViolatesUniqueness detail

/-- A fault of the driver becomes a failure that stands for it, whatever the fault; by cases on what
it is taken for.
-/
theorem ofDatabase_standsFor (fault : DatabaseFault) : (ofDatabase fault).StandsFor fault := by
  rcases ofDatabase_cases fault with
    ⟨rfl, taken⟩ | ⟨detail, violates, taken⟩ | ⟨present, other, taken⟩
  · rw [taken]
    exact ⟨fun _ => iff_of_false nofun nofun, iff_of_true rfl rfl, iff_of_false nofun (·.1 rfl)⟩
  · rw [taken]
    have present : fault ≠ .rowNotFound := by
      rintro rfl
      exact absurd violates nofun
    refine ⟨fun other => ⟨?_, fun violates' => ?_⟩, iff_of_false nofun present,
      iff_of_false nofun fun other => other.2 detail violates⟩
    · rintro ⟨⟩
      exact violates
    · rw [violates.unique violates']
  · rw [taken]
    exact ⟨fun detail => iff_of_false nofun (other detail), iff_of_false nofun present,
      iff_of_true rfl ⟨present, other⟩⟩

end StoreFault

/-- A call being answered. -/
def Exchange.answering {Call : Type} {Reply : Call → Type} {σ : Type} (request : Call)
    (reply : Reply request) (before after : World Call σ)
    : Exchange Call Reply σ :=
  ⟨request, some (.ok reply), before, after⟩

namespace Flow

variable {Call : Type} {Reply : Call → Type} {σ α : Type} {env : Environment Call Reply σ}
  {trace : List (Exchange Call Reply σ)}

/-- Every exchange of a linked trace occurs in its environment; by induction on the trace. -/
theorem Linked.occurs {first last : σ} (linked : Linked env first trace last)
    : ∀ exchange ∈ trace, Occurs env exchange := by
  induction trace generalizing first with
  | nil => nofun
  | cons exchange rest ih =>
      obtain ⟨-, occurs, later⟩ := linked
      exact List.forall_mem_cons.mpr ⟨occurs, ih later⟩

/-- What a call is answered with is what came of its effect. -/
theorem Goes.carriedOut {limit : Option Instant} {flow : Flow Call Reply α}
    {world after : World Call σ} {result : Option α} {request : Call} {reply : Reply request}
    {before later : World Call σ} (goes : Goes env limit flow world trace result after)
    (answered : Exchange.answering request reply before later ∈ trace)
    : ∃ now state instant, (env.carryOut request now state instant).1 = reply := by
  obtain ⟨ctx, begun⟩ := goes.conducted.linked.occurs _ answered
  obtain ⟨instant, effect⟩ := begun.carried.of_answer
  exact ⟨_, _, instant, congrArg Prod.fst effect⟩

/-- Under a context that is free to the end, a call that is answered some time shows its answer. -/
theorem perform_shows {ctx : Context} {request : Call} (answers : env.Answers request)
    (world after : World Call σ) (trace : List (Exchange Call Reply σ))
    (reply : Option (Except Interrupt (Reply request)))
    (goes : Goes env none (perform ctx request) world trace reply after)
    (allowed : ctx.allows after.clock = true)
    : ∃ value,
        reply = some (.ok value) ∧ trace = [Exchange.answering request value world after] := by
  obtain ⟨value, rfl, rfl⟩ := goes.perform_answered answers allowed
  exact ⟨value, rfl, rfl⟩

end Flow

section Attempts

variable {σ ε α : Type} {env : Environment Call Reply σ} {ctx : Context}
  {world after : World Call σ} {trace : List (Exchange Call Reply σ)} {task : Task}
  [Fault ε] {plan : RetryPlan} {result : Option (Except (OperationFailure ε) α)}
  {exchange : Except ε α → World Call σ → World Call σ → Exchange Call Reply σ}

/-- Attempts that all fail in the same way: as many as the plan allows if that is in passing, and
otherwise a single one.
-/
theorem Persists.of_always {most : Nat} {fault : ε}
    (persists : Persists task exchange most trace result after)
    (always : ∀ outcome before after, exchange outcome before after ∈ trace
      → outcome = .error fault)
    : result = some (.error (.failed task.operation task.correlationId fault))
      ∧ trace.length = if isTransient fault then most else 1 := by
  cases persists with
  | @ended failures outcome before finished events attempted =>
      obtain rfl := always outcome before finished (List.mem_append_right _ (.head _))
      refine ⟨rfl, ?_⟩
      rw [List.length_append, List.length_singleton]
      split
      · next passing => exact attempted.final ⟨fault, rfl, passing⟩
      · next lasting =>
          -- A failure before the last would be the same fault, and passing.
          suffices failures = [] by rw [this]; rfl
          refine List.eq_nil_iff_forall_not_mem.mpr fun failure member => ?_
          obtain ⟨own, before, after, rfl, passing⟩ := attempted.passing failure member
          cases always (.error own) before after (List.mem_append_left _ member)
          exact lasting passing

/-- Every attempt shows as its exchange. -/
theorem Persists.shown {most : Nat} (persists : Persists task exchange most trace result after)
    : ∀ attempt ∈ trace, ∃ outcome before finished, attempt = exchange outcome before finished := by
  cases persists with
  | ended attempted =>
      intro attempt member
      rcases List.mem_append.mp member with member | member
      · obtain ⟨fault, before, finished, rfl, -⟩ := attempted.passing attempt member
        exact ⟨.error fault, before, finished, rfl⟩
      · exact ⟨_, _, _, List.mem_singleton.mp member⟩

end Attempts

namespace Postgres

/-- A driver that answers every statement with the same fault. -/
def failing (fault : DatabaseFault) : Statement → Id Answer := fun _ => .error fault

end Postgres

namespace Repository

open Postgres

/-- The operations that are repeated: what they are about, the call that each attempt makes, and how
a database whose driver fails replies to it.
-/
inductive Attempts (fault : DatabaseFault)
    : {α : Type} → (Context → Action (Outcome α)) → Task → (request : Call) → Reply request → Prop
    where
  | prepare
      : Attempts fault prepare ⟨"repository.ensure_schema", ""⟩ .storePrepare
          (Postgres.prepare (failing fault))
  | save (record : Record)
      : Attempts fault (save · record) ⟨"repository.save_log", record.requestId⟩
          (.storeSave record) (Postgres.save (failing fault) record)
  | find (requestId userId : String)
      : Attempts fault (find · requestId userId)
          ⟨"repository.find_by_request_and_user", requestId⟩ (.storeFind requestId userId)
          (Postgres.find (failing fault) requestId userId)
  | duplicates (owner : Option String) (fingerprint : String) (exclude : Option String)
      : Attempts fault (duplicates · owner fingerprint exclude)
          ⟨"repository.find_duplicates_by_hash", exclude.getD ""⟩
          (.storeDuplicates owner fingerprint exclude)
          (Postgres.duplicates (failing fault) owner fingerprint exclude)
  | totals
      : Attempts fault totals ⟨"repository.aggregate_metrics", ""⟩ .storeTotals
          (Postgres.totals (failing fault))

variable {σ α : Type} {fault : DatabaseFault} {env : Environment Call Reply σ}
  {flow : Context → Action (Outcome α)} {task : Task} {request : Call} {reply : Reply request}

/-- What comes of an operation whose attempts all fail with a driver's fault: it is attempted three
times if the fault is passing and otherwise once, and what the store makes of the fault surfaces.
-/
structure Surfaces (fault : DatabaseFault) (task : Task) (request : Call)
    (attempts : List (Exchange Call Reply σ)) (result : Option (Outcome α))
    : Prop where
  asked : ∀ attempt ∈ attempts, attempt.request = request
  thrice : attempts.length = 3 ↔ fault.Passing
  once : attempts.length = 1 ↔ ¬ fault.Passing
  told :
    ∃ surfaced : StoreFault,
      result = some (.error (.failed task.operation task.correlationId surfaced))
      ∧ surfaced.StandsFor fault

/-- Repeated attempts of which each that is answered fails with the fault. -/
theorem repeatAttempts_surfaces {ctx : Context} {world : World Call σ}
    {op : RetryPlan.Attempt Call Reply StoreFault α}
    (exchange : Except StoreFault α → World Call σ → World Call σ → Exchange Call Reply σ)
    (shows : Shows env ctx op exchange)
    (about : ∀ outcome before after, (exchange outcome before after).request = request)
    (always : ∀ outcome before after,
      exchange outcome before after
        ∈ (RetryPlan.store.repeatAttempts ctx task op).exchanges env none world
      → outcome = .error (.ofDatabase fault))
    (uninterrupted :
      ctx.allows ((RetryPlan.store.repeatAttempts ctx task op).run env none world).2.clock = true)
    : Surfaces fault task request
        ((RetryPlan.store.repeatAttempts ctx task op).exchanges env none world)
        ((RetryPlan.store.repeatAttempts ctx task op).run env none world).1 := by
  have several : 1 < RetryPlan.store.attempts := by decide
  have persists := repeatAttempts_persists shows several (goes_run env none _ world) uninterrupted
  obtain ⟨told, many⟩ := persists.of_always always
  have passing : isTransient (StoreFault.ofDatabase fault) = true ↔ fault.Passing :=
    StoreFault.transient_ofDatabase_iff
  refine ⟨?_, ?_, ?_, _, told, StoreFault.ofDatabase_standsFor fault⟩
  · intro attempt member
    obtain ⟨outcome, before, after, rfl⟩ := persists.shown attempt member
    exact about outcome before after
  · rw [many, ← passing]
    split <;> simp [*, RetryPlan.store]
  · rw [many, ← passing]
    split <;> simp [*, RetryPlan.store]

/-- Whatever fault of a database driver comes of every attempt at an operation, its conversion and
the decision to repeat the attempt agree on what it is.
-/
theorem driver_fault_surfaces (attempts : Attempts fault flow task request reply)
    (ctx : Context) (world : World Call σ) (answers : env.Answers request)
    (always : ∀ told before after,
      Exchange.answering request told before after ∈ (flow ctx).exchanges env none world
      → told = reply)
    (uninterrupted : ctx.allows ((flow ctx).run env none world).2.clock = true)
    : Surfaces fault task request ((flow ctx).exchanges env none world)
        ((flow ctx).run env none world).1 := by
  cases attempts with
  | prepare =>
      exact repeatAttempts_surfaces
        (fun outcome before after => ⟨.storePrepare, some (.ok outcome), before, after⟩)
        (perform_shows answers) (fun _ _ _ => rfl) always uninterrupted
  | save record =>
      exact repeatAttempts_surfaces
        (fun outcome before after => ⟨.storeSave record, some (.ok outcome), before, after⟩)
        (perform_shows answers) (fun _ _ _ => rfl) always uninterrupted
  | find requestId userId =>
      exact repeatAttempts_surfaces
        (fun outcome before after =>
          ⟨.storeFind requestId userId, some (.ok outcome), before, after⟩)
        (perform_shows answers) (fun _ _ _ => rfl) always uninterrupted
  | duplicates owner fingerprint exclude =>
      exact repeatAttempts_surfaces
        (fun outcome before after =>
          ⟨.storeDuplicates owner fingerprint exclude, some (.ok outcome), before, after⟩)
        (perform_shows answers) (fun _ _ _ => rfl) always uninterrupted
  | totals =>
      exact repeatAttempts_surfaces
        (fun outcome before after => ⟨.storeTotals, some (.ok outcome), before, after⟩)
        (perform_shows answers) (fun _ _ _ => rfl) always uninterrupted

def deadlock : DatabaseFault := .report ⟨some "40P01", "deadlock detected", false⟩

/-- A database that is in a deadlock whenever it is asked for a record. -/
def deadlocked : Environment Call Reply InMemory :=
  {
    accept := fun call _ state =>
      match call with
      | .storeFind requestId userId =>
          let answer := Postgres.find (failing deadlock) requestId userId
          (⟨some 5, fun _ state => (answer, state), some 1⟩, state)
      | other =>
          let verdict := Except.error (.transport "refused")
          (⟨some 0, fun now state => InMemory.answer verdict now state other, some 0⟩, state)
    wall := fun _ => .epoch
    name := fun _ => ""
  }

/-- The record is asked for three times. -/
theorem deadlock_surfaces
    : ((find .background "r" "alice").run deadlocked none (.start .empty)).2.calls.map
          CallRecord.instant
        = [0, 100000006, 300000012]
      ∧ deadlocked.Answers (.storeFind "r" "alice")
      ∧ Surfaces deadlock ⟨"repository.find_by_request_and_user", "r"⟩ (.storeFind "r" "alice")
          ((find .background "r" "alice").exchanges deadlocked none (.start .empty))
          ((find .background "r" "alice").run deadlocked none (.start .empty)).1 := by
  have answers : deadlocked.Answers (.storeFind "r" "alice") := fun _ _ => ⟨5, 1, rfl, rfl⟩
  refine ⟨by decide +kernel, answers, ?_⟩
  refine driver_fault_surfaces (.find "r" "alice") .background _ answers ?_ rfl
  intro told before after answered
  obtain ⟨_, _, _, replied⟩ := (goes_run deadlocked none _ _).carriedOut answered
  exact replied.symm

end Repository

end ImageVerification
