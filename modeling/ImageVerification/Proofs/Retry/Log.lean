import ImageVerification.Proofs.Flow.Steps
import ImageVerification.Proofs.Retry.Attempts

/-! What is logged of attempts: a warning before each wait, and at the end one error or, after a
retry, the news of the success.
-/

namespace ImageVerification.RetryPlan

open ImageVerification.Flow

variable {Call : Type} {Reply : Call → Type} {σ ε α : Type}

section Entries

/-- The fields of an entry about an attempt; a request without an id is not named. -/
def entryFields (task : Task) (number : Nat) (details : List (String × FieldValue))
    : List (String × FieldValue) :=
  [("operation", .text task.operation)]
    ++ (if task.correlationId = "" then [] else [("request_id", .text task.correlationId)])
    ++ [("attempt", .natural number)]
    ++ details

variable [Fault ε]

/-- An attempt has failed in passing, and there will be another one after the wait. -/
def warning (plan : RetryPlan) (task : Task) (number : Nat) (fault : ε) : Event :=
  ⟨.warn, "transient error encountered",
    entryFields task number
      [("backoff_ms", .natural (plan.waitBefore (number - 1)).millis),
       ("error", .shown (message fault))]⟩

/-- A fault is repeated while the plan allows another attempt. -/
def IsRepeated (plan : RetryPlan) (number : Nat) (fault : ε) : Prop :=
  isTransient fault = true ∧ number < plan.attempts

instance (plan : RetryPlan) (number : Nat) (fault : ε) : Decidable (plan.IsRepeated number fault) :=
  inferInstanceAs (Decidable (_ ∧ _))

/-- The warnings about attempts with these outcomes, the first of which has this number. -/
def warnings (plan : RetryPlan) (task : Task)
    : Nat → List (Option (Except Interrupt (Except ε α))) → List Event
  | _, [] => []
  | number, some (.ok (.error fault)) :: later =>
      (if plan.IsRepeated number fault then [plan.warning task number fault] else [])
        ++ plan.warnings task (number + 1) later
  | number, _ :: later => plan.warnings task (number + 1) later

/-- What is logged last, when the attempt with this number has ended the run. -/
def closing (task : Task) (number : Nat) (cutWait : Bool)
    : Option (Except (OperationFailure ε) α) → List Event
  | none => []
  | some (.ok _) =>
      if 1 < number then [⟨.info, "operation succeeded after retry", entryFields task number []⟩]
      else []
  | some (.error ⟨_, _, .failed fault⟩) =>
      [⟨.error, "operation failed",
        entryFields task number
          [("transient", .bool (isTransient fault)), ("error", .shown (message fault))]⟩]
  | some (.error ⟨_, _, .interrupted kind⟩) =>
      [⟨.error, if cutWait then "operation aborted while waiting to retry" else "operation failed",
        entryFields task number [("error", .shown kind.text)]⟩]

/-- The fields of an event are those of its task with the details behind them, a task without a name
leaving its own out.
-/
theorem fields_append (task : Task) (number : Nat) (details : List (String × FieldValue))
    : task.fields number ++ details = entryFields task number details := by
  unfold entryFields Task.fields Event.requestField
  by_cases unnamed : task.correlationId = ""
  · simp [unnamed]
  · simp [unnamed, String.isEmpty_iff]

/-- A wait that fits into a word is logged as it is. -/
theorem transientEvent_eq {plan : RetryPlan} (short : plan.longestWait.millis < Word.limit64)
    (task : Task) (number : Nat) (fault : ε)
    : task.transientEvent number (plan.waitBefore (number - 1)) fault
      = plan.warning task number fault := by
  have fits : (plan.waitBefore (number - 1)).millis < Word.limit64 :=
    Nat.lt_of_le_of_lt (Nat.div_le_div_right (plan.waitBefore_le_longestWait _)) short
  rw [Task.transientEvent, Nat.mod_eq_of_lt fits, fields_append]
  rfl

end Entries

section Courses

variable [Fault ε] {plan : RetryPlan} {task : Task} {number : Nat}
  {op : Flow Call Reply (Except Interrupt (Except ε α))} {steps first rest : List (Step Call Reply)}
  {events : List Event} {result : Option (Except (OperationFailure ε) α)}

/-- How attempts proceed from one of them on: the ways in which it can be the last one, and the way
to the next.
-/
inductive Proceeds (plan : RetryPlan) (task : Task)
    (op : Flow Call Reply (Except Interrupt (Except ε α)))
    : Nat → List (Step Call Reply) → List Event → Option (Except (OperationFailure ε) α) → Prop
    where
  | unanswered {number : Nat} {steps : List (Step Call Reply)} (tried : Path op steps [] none)
      : Proceeds plan task op number steps [] none
  | interrupted {number : Nat} {steps : List (Step Call Reply)} {kind : Interrupt}
      {result : Option (Except (OperationFailure ε) α)}
      (tried : Path op steps [] (some (.error kind)))
      (reported : result = some (.error (.interrupted task.operation task.correlationId kind)))
      : Proceeds plan task op number steps (closing task number false result) result
  | settled {number : Nat} {steps : List (Step Call Reply)} {outcome : Except ε α}
      {result : Option (Except (OperationFailure ε) α)}
      (tried : Path op steps [] (some (.ok outcome)))
      (final : ∀ fault, outcome = .error fault → ¬ plan.IsRepeated number fault)
      (reported : result = some (tagged task outcome))
      : Proceeds plan task op number steps (closing task number false result) result
  | waiting {number : Nat} {steps : List (Step Call Reply)} {fault : ε} {span : Duration}
      (tried : Path op steps [] (some (.ok (.error fault))))
      (repeated : plan.IsRepeated number fault)
      : Proceeds plan task op number (steps ++ [.waited span none]) [plan.warning task number fault]
          none
  | aborted {number : Nat} {steps : List (Step Call Reply)} {fault : ε} {span : Duration}
      {kind : Interrupt} {result : Option (Except (OperationFailure ε) α)}
      (tried : Path op steps [] (some (.ok (.error fault))))
      (repeated : plan.IsRepeated number fault)
      (reported : result = some (.error (.interrupted task.operation task.correlationId kind)))
      : Proceeds plan task op number (steps ++ [.waited span (some (.error kind))])
          (plan.warning task number fault :: closing task number true result) result
  | again {number : Nat} {steps later : List (Step Call Reply)} {fault : ε} {span : Duration}
      {events : List Event} {result : Option (Except (OperationFailure ε) α)}
      (tried : Path op steps [] (some (.ok (.error fault))))
      (repeated : plan.IsRepeated number fault)
      (rest : Proceeds plan task op (number + 1) later events result)
      : Proceeds plan task op number (steps ++ .waited span (some (.ok ())) :: later)
          (plan.warning task number fault :: events) result

/-- An attempt whose failure is final closes the operation with the failure reported. -/
theorem fail_proceeds {fault : ε} (tried : Path op first [] (some (.ok (.error fault))))
    (final : ¬ plan.IsRepeated number fault)
    (path : Path (fail task number fault) rest events result)
    : Proceeds plan task op number (first ++ rest) events result := by
  obtain ⟨rfl, rfl, rfl⟩ := path.note_done_eq
  rw [List.append_nil, Task.failedEvent, fields_append]
  refine .settled tried ?_ rfl
  rintro _ ⟨⟩
  exact final

/-- An attempt that logs nothing itself ends the run, or a fault in passing leads on. -/
theorem attempt_proceeds {again : ε → Flow Call Reply (Except (OperationFailure ε) α)}
    (silent : ∀ {steps events outcome}, Path op steps events outcome → events = [])
    (path : Path (op.bind (settle task number again)) steps events result)
    (next : ∀ {first rest events fault},
      Path op first [] (some (.ok (.error fault)))
      → isTransient fault = true
      → Path (again fault) rest events result
      → Proceeds plan task op number (first ++ rest) events result)
    : Proceeds plan task op number steps events result := by
  -- A path through the attempt and what settles it is cut at the end of the attempt.
  cases path.of_bind with
  | cut tried =>
      obtain rfl := silent tried
      exact .unanswered tried
  | @onward value first rest _ later _ tried settles =>
      obtain rfl := silent tried
      rw [List.nil_append]
      match value with
      | .error kind =>
          obtain ⟨rfl, rfl, rfl⟩ := settles.note_done_eq
          rw [List.append_nil, Task.interruptedEvent, fields_append]
          exact .interrupted tried rfl
      | .ok (.ok value) =>
          have settled
              : Proceeds plan task op number first
                  (closing task number false
                    (some (.ok value) : Option (Except (OperationFailure ε) α)))
                  (some (.ok value)) :=
            .settled tried (by simp) rfl
          -- A value is worth a line of the log only if it took more than one attempt.
          simp only [settle, succeed] at settles
          split at settles
          · next retried =>
              obtain ⟨rfl, rfl, rfl⟩ := settles.note_done_eq
              rw [closing, if_pos retried, ← fields_append, List.append_nil] at settled
              rwa [List.append_nil]
          · next atOnce =>
              obtain ⟨rfl, rfl, rfl⟩ := settles.done_eq
              rw [closing, if_neg atOnce] at settled
              rwa [List.append_nil]
      | .ok (.error fault) =>
          simp only [settle] at settles
          split at settles
          · next passing => exact next tried passing settles
          · next lasting =>
              exact fail_proceeds tried (fun repeated => lasting repeated.1) settles

/-- After a wait the next attempt is made. -/
theorem waitThen_proceeds {next : Flow Call Reply (Except (OperationFailure ε) α)} {ctx : Context}
    {fault : ε} (short : plan.longestWait.millis < Word.limit64)
    (tried : Path op first [] (some (.ok (.error fault))))
    (repeated : plan.IsRepeated number fault)
    (path : Path (plan.waitThen ctx task number next fault) rest events result)
    (onward : ∀ {steps events},
      Path next steps events result → Proceeds plan task op (number + 1) steps events result)
    : Proceeds plan task op number (first ++ rest) events result := by
  obtain ⟨later, rfl, waits⟩ := path.log_eq
  rw [transientEvent_eq short]
  have waits : Path ((pause ctx (plan.waitBefore (number - 1))).bind _) rest later result := waits
  cases waits.of_bind with
  | cut wait =>
      obtain ⟨rfl, rfl⟩ := wait.pause_eq
      exact .waiting tried repeated
  | @onward reply _ _ _ _ _ wait after =>
      obtain ⟨rfl, rfl⟩ := wait.pause_eq
      match reply with
      | .ok () => exact .again tried repeated (onward after)
      | .error kind =>
          obtain ⟨rfl, rfl, rfl⟩ := after.note_done_eq
          rw [Task.abortedEvent, fields_append]
          exact .aborted tried repeated rfl

/-- Attempts that log nothing themselves, by induction on the attempts left. -/
theorem attemptFrom_proceeds {op : Attempt Call Reply ε α} {ctx : Context} {left : Nat}
    (silent : ∀ {steps events outcome}, Path (op ctx) steps events outcome → events = [])
    (short : plan.longestWait.millis < Word.limit64) (counted : number + left = plan.attempts)
    (path : Path (plan.attemptFrom ctx task op number left) steps events result)
    : Proceeds plan task (op ctx) number steps events result := by
  induction left generalizing number steps events result with
  | zero =>
      refine attempt_proceeds silent path fun tried passing fails => ?_
      have last : ¬ number < plan.attempts := by omega
      exact fail_proceeds tried (fun repeated => last repeated.2) fails
  | succ left ih =>
      refine attempt_proceeds silent path fun tried passing waits => ?_
      have more : number < plan.attempts := by omega
      exact waitThen_proceeds short tried ⟨passing, more⟩ waits fun rest => ih (by omega) rest

/-- An operation that logs nothing in between goes as attempts do: warnings for what is tried again,
and one event at the end.
-/
theorem repeatAttempts_proceeds {op : Attempt Call Reply ε α} {ctx : Context}
    (silent : ∀ {steps events outcome}, Path (op ctx) steps events outcome → events = [])
    (short : plan.longestWait.millis < Word.limit64) (several : 1 < plan.attempts)
    (path : Path (plan.repeatAttempts ctx task op) steps events result)
    : Proceeds plan task (op ctx) 1 steps events result := by
  rw [repeatAttempts, if_neg (Nat.not_le_of_lt several)] at path
  exact attemptFrom_proceeds silent short (Nat.add_sub_cancel' (Nat.le_of_lt several)) path

/-- A plan with no more than one attempt logs nothing. -/
theorem repeatAttempts_silent {op : Attempt Call Reply ε α} {ctx : Context}
    (silent : ∀ {ctx steps events outcome}, Path (op ctx) steps events outcome → events = [])
    (single : plan.attempts ≤ 1)
    (path : Path (plan.repeatAttempts ctx task op) steps events result)
    : events = [] := by
  rw [repeatAttempts, if_pos single] at path
  cases path.of_bind with
  | cut tried => exact silent tried
  | @onward value _ _ _ _ _ tried hands =>
      obtain rfl := silent tried
      match value with
      | .error kind => exact hands.done_eq.2.1
      | .ok (.error fault) => exact hands.done_eq.2.1
      | .ok (.ok value) => exact hands.done_eq.2.1

/-- The messages of what is logged of attempts. -/
def attemptMessages : List String :=
  ["transient error encountered", "operation failed", "operation aborted while waiting to retry",
   "operation succeeded after retry"]

theorem message_closing {event : Event} {cutWait : Bool}
    (member : event ∈ closing task number cutWait result)
    : event.message ∈ attemptMessages := by
  match result with
  | none => cases member
  | some (.ok value) =>
      simp only [closing] at member
      split at member
      · simp [List.mem_singleton.mp member, attemptMessages]
      · cases member
  | some (.error ⟨_, _, .failed fault⟩) =>
      simp [List.mem_singleton.mp member, attemptMessages]
  | some (.error ⟨_, _, .interrupted kind⟩) =>
      rw [List.mem_singleton.mp member]
      cases cutWait <;> simp [attemptMessages]

/-- An operation that gives its value closes without an error. -/
theorem level_closing_ok {event : Event} {cutWait : Bool} {value : α}
    (member : event ∈ closing task number cutWait
      (some (.ok value) : Option (Except (OperationFailure ε) α)))
    : event.level ≠ .error := by
  simp only [closing] at member
  split at member
  · simp [List.mem_singleton.mp member]
  · cases member

/-- Every event of an operation carries one of the messages of attempts; by induction on how it
proceeds.
-/
theorem Proceeds.message_mem (proceeds : Proceeds plan task op number steps events result)
    : ∀ event ∈ events, event.message ∈ attemptMessages := by
  have warned (number : Nat) (fault : ε)
      : (plan.warning task number fault).message ∈ attemptMessages :=
    List.mem_cons_self
  induction proceeds with
  | unanswered tried => exact nofun
  | interrupted tried reported => exact fun _ => message_closing
  | settled tried final reported => exact fun _ => message_closing
  | waiting tried repeated => exact List.forall_mem_singleton.mpr (warned _ _)
  | aborted tried repeated reported =>
      exact List.forall_mem_cons.mpr ⟨warned _ _, fun _ => message_closing⟩
  | again tried repeated rest ih => exact List.forall_mem_cons.mpr ⟨warned _ _, ih⟩

/-- Once an attempt that succeeds takes a step, the run ends with it and no error is logged. -/
theorem Proceeds.of_success {step : Step Call Reply} {value : α}
    (proceeds : Proceeds plan task op number steps events result)
    (succeeds : ∀ {steps outcome},
      Path op steps [] outcome → step ∈ steps → outcome = some (.ok (.ok value)))
    (call : ∀ span reply, step ≠ .waited span reply) (member : step ∈ steps)
    : result = some (.ok value) ∧ ∀ event ∈ events, event.level ≠ .error := by
  have failed {steps later : List (Step Call Reply)} {fault : ε} {span : Duration}
      {reply : Option (Except Interrupt Unit)}
      (tried : Path op steps [] (some (.ok (.error fault))))
      (member : step ∈ steps ++ .waited span reply :: later)
      : step ∈ later := by
    rcases List.mem_append.mp member with member | member
    · cases succeeds tried member
    · exact (List.mem_cons.mp member).resolve_left (call span reply)
  induction proceeds with
  | unanswered tried => cases succeeds tried member
  | interrupted tried reported => cases succeeds tried member
  | settled tried final reported =>
      cases succeeds tried member
      subst reported
      exact ⟨rfl, fun _ => level_closing_ok⟩
  | waiting tried repeated => cases failed tried member
  | aborted tried repeated reported => cases failed tried member
  | again tried repeated rest ih =>
      obtain ⟨ends, harmless⟩ := ih (failed tried member)
      exact ⟨ends, List.forall_mem_cons.mpr ⟨by simp [warning], harmless⟩⟩

end Courses

section Runs

variable [Fault ε] {plan : RetryPlan} {task : Task} {number : Nat} {ctx : Context}
  {steps : List (Step Unit fun _ => Except ε α)} {events : List Event}
  {result : Option (Except (OperationFailure ε) α)}

/-- The attempts among steps: how each of them has ended, if it has. -/
def attemptsOf (steps : List (Step Unit fun _ => Except ε α))
    : List (Option (Except Interrupt (Except ε α))) :=
  steps.filterMap fun step =>
    match step with
    | .called _ outcome => some outcome
    | .waited _ _ => none

/-- Whether the last step is a wait that an interruption has ended. -/
def cutsWait (steps : List (Step Call Reply)) : Bool :=
  match steps.getLast? with
  | some (.waited _ (some (.error _))) => true
  | _ => false

theorem cutsWait_again {request : Call} {reply : Option (Except Interrupt (Reply request))}
    {span : Duration} (later : List (Step Call Reply))
    : cutsWait (.called request reply :: .waited span (some (.ok ())) :: later)
      = cutsWait later := by
  cases later with
  | nil => rfl
  | cons step later => rfl

/-- The log of attempts, from how they proceed. The numbers are those of the attempts because each
way to the next one passes one attempt and one warning.
-/
theorem Proceeds.log (proceeds : Proceeds plan task (scriptedOp ctx) number steps events result)
    : events
      = plan.warnings task number (attemptsOf steps)
        ++ closing task (number + (attemptsOf steps).length - 1) (cutsWait steps) result := by
  induction proceeds with
  | unanswered tried =>
      obtain ⟨rfl, -⟩ := tried.perform_eq
      rfl
  | interrupted tried reported =>
      obtain ⟨rfl, -⟩ := tried.perform_eq
      rfl
  | @settled number _ outcome _ tried final reported =>
      obtain ⟨rfl, -⟩ := tried.perform_eq
      cases outcome with
      | ok value => rfl
      | error fault =>
          simp only [attemptsOf, List.filterMap_cons, List.filterMap_nil, warnings,
            if_neg (final fault rfl)]
          rfl
  | waiting tried repeated =>
      obtain ⟨rfl, -⟩ := tried.perform_eq
      simp only [attemptsOf, List.singleton_append, List.filterMap_cons, List.filterMap_nil,
        warnings, if_pos repeated]
      rfl
  | aborted tried repeated reported =>
      obtain ⟨rfl, -⟩ := tried.perform_eq
      simp only [attemptsOf, List.singleton_append, List.filterMap_cons, List.filterMap_nil,
        warnings, if_pos repeated]
      rfl
  | @again number _ later fault span events _ tried repeated rest ih =>
      obtain ⟨rfl, -⟩ := tried.perform_eq
      have oneMore
          : attemptsOf (.called () (some (.ok (.error fault))) :: .waited span (some (.ok ()))
              :: later)
            = some (.ok (.error fault)) :: attemptsOf later :=
        rfl
      -- The numbers are counted from this attempt here and from the next one there.
      have sameNumber
          : number + ((attemptsOf later).length + 1) - 1
            = number + 1 + (attemptsOf later).length - 1 := by
        omega
      rw [List.singleton_append, cutsWait_again, oneMore, warnings, if_pos repeated,
        List.length_cons, sameNumber, List.singleton_append, List.cons_append, ← ih]

/-- What attempts log. Where the plan allows several, that is one warning for each attempt that is
repeated, then what closes the run; otherwise it is nothing.
-/
structure LogsAttempts (plan : RetryPlan) (task : Task) (world : World Unit σ)
    (steps : List (Step Unit fun _ => Except ε α))
    (result : Option (Except (OperationFailure ε) α)) (after : World Unit σ)
    : Prop where
  several :
    1 < plan.attempts
    → plan.longestWait.millis < Word.limit64
    → after.events
      = world.events
        ++ (plan.warnings task 1 (attemptsOf steps)
          ++ closing task (attemptsOf steps).length (cutsWait steps) result)
  single : plan.attempts ≤ 1 → after.events = world.events

/-- The whole log of an operation tells its run: the steps taken, in order, and the outcome at the
end. Witness: the path of the run, opened by `repeatAttempts_proceeds`.
-/
theorem repeatAttempts_log (plan : RetryPlan) (task : Task)
    (env : Environment Unit (fun _ => Except ε α) σ) (limit : Option Instant) (ctx : Context)
    (world : World Unit σ)
    : let attempts := plan.repeatAttempts ctx task scriptedOp
      plan.LogsAttempts task world (attempts.steps env limit world)
        (attempts.run env limit world).1 (attempts.run env limit world).2 := by
  obtain ⟨events, logged, path⟩ :=
    path_run env limit (plan.repeatAttempts ctx task scriptedOp) world
  have silent {ctx : Context} {steps : List (Step Unit fun _ => Except ε α)} {events : List Event}
      {outcome : Option (Except Interrupt (Except ε α))}
      (path : Path (scriptedOp ctx) steps events outcome)
      : events = [] :=
    path.perform_eq.2
  refine ⟨fun several short => ?_, fun single => ?_⟩
  · have log := (repeatAttempts_proceeds silent short several path).log
    rw [Nat.add_sub_cancel_left] at log
    rw [logged, log]
  · rw [logged, repeatAttempts_silent silent single path, List.append_nil]

end Runs

end ImageVerification.RetryPlan
