import ImageVerification.Proofs.Flow.Running
import ImageVerification.Retry

/-! What a flow ends in, whatever is replied to it and whenever it is interrupted, together with the
last call that it has made.
-/

namespace ImageVerification

variable {Call : Type} {Reply : Call → Type} {σ α β ε : Type}

namespace Flow

/-- However its calls and waits end, a flow that has made a last call so far ends in a result as
described.
-/
def EndsIn (post : Option Call → α → Prop) : Option Call → Flow Call Reply α → Prop
  | last, done result => post last result
  | _, call _ request next => ∀ reply, EndsIn post (some request) (next reply)
  | last, sleep _ _ next => ∀ reply, EndsIn post last (next reply)
  | last, now next => ∀ reading, EndsIn post last (next reading)
  | last, fresh next => ∀ name, EndsIn post last (next name)
  | last, log _ next => EndsIn post last next

/-- What a composed flow ends in follows from what its first part ends in and what is made of that,
by induction on the first part.
-/
theorem EndsIn.bind {inner : Option Call → α → Prop} {post : Option Call → β → Prop}
    {last : Option Call} {flow : Flow Call Reply α} {f : α → Flow Call Reply β}
    (ends : flow.EndsIn inner last)
    (next : ∀ last result, inner last result → (f result).EndsIn post last)
    : (flow.bind f).EndsIn post last := by
  induction flow generalizing last with
  | done result => exact next last result ends
  | call ctx request rest ih => exact fun reply => ih reply (ends reply)
  | sleep ctx span rest ih => exact fun reply => ih reply (ends reply)
  | now rest ih => exact fun reading => ih reading (ends reading)
  | fresh rest ih => exact fun name => ih name (ends name)
  | log event rest ih => exact ih ends

/-- Of every flow it can be said that it ends in something. -/
theorem endsIn_trivial (last : Option Call) (flow : Flow Call Reply α)
    : flow.EndsIn (fun _ _ => True) last := by
  induction flow generalizing last with
  | done result => trivial
  | call ctx request rest ih => exact fun reply => ih reply (some request)
  | sleep ctx span rest ih => exact fun reply => ih reply last
  | now rest ih => exact fun reading => ih reading last
  | fresh rest ih => exact fun name => ih name last
  | log event rest ih => exact ih last

/-- What a flow ends in may be described more weakly. Witness: the flow is followed by nothing. -/
theorem EndsIn.imp {inner post : Option Call → α → Prop} {last : Option Call}
    {flow : Flow Call Reply α} (ends : flow.EndsIn inner last)
    (implies : ∀ last result, inner last result → post last result)
    : flow.EndsIn post last := by
  have bound : (flow.bind done).EndsIn post last := ends.bind implies
  rwa [bind_done] at bound

/-- What follows a flow is all that matters where it ends the same way in every case. -/
theorem endsIn_bind {post : Option Call → β → Prop} {last : Option Call}
    {flow : Flow Call Reply α} {f : α → Flow Call Reply β}
    (next : ∀ last result, (f result).EndsIn post last)
    : (flow.bind f).EndsIn post last :=
  (endsIn_trivial last flow).bind fun last result _ => next last result

/-- The last call that a run has made, or else an earlier one. -/
def lastCall (made : List (CallRecord Call)) (earlier : Option Call) : Option Call :=
  (made.getLast?.map CallRecord.request).or earlier

@[simp]
theorem lastCall_nil (earlier : Option Call) : lastCall [] earlier = earlier := rfl

theorem lastCall_cons (call : CallRecord Call) (made : List (CallRecord Call))
    (earlier : Option Call)
    : lastCall (call :: made) earlier = lastCall made (some call.request) := by
  unfold lastCall
  rw [List.getLast?_cons]
  cases made.getLast? <;> rfl

/-- If there was no call earlier, the last call is the last of those made. -/
theorem lastCall_eq_some {made : List (CallRecord Call)} {request : Call}
    (last : lastCall made none = some request)
    : ∃ call, made.getLast? = some call ∧ call.request = request := by
  rw [lastCall, Option.or_none] at last
  exact Option.map_eq_some_iff.mp last

/-- Every call is recorded, also one that is not begun. -/
theorem recorded_runCall (env : Environment Call Reply σ) (limit : Option Instant) (ctx : Context)
    (request : Call) (world : World Call σ)
    : ∃ call,
        call.request = request
        ∧ (runCall env limit ctx request world).2.calls = world.calls ++ [call] := by
  unfold runCall
  split
  · exact ⟨_, rfl, rfl⟩
  · refine ⟨⟨world.clock, request, true⟩, rfl, ?_⟩
    dsimp only
    split
    · split <;> rfl
    · rfl
    · rfl

/-- A run that has a result ends as its flow does. By induction on the flow: each call becomes the
last one that was made.
-/
theorem EndsIn.run {post : Option Call → α → Prop} {last : Option Call}
    {flow : Flow Call Reply α} (ends : flow.EndsIn post last) {env : Environment Call Reply σ}
    {limit : Option Instant} {world after : World Call σ} {result : α}
    (ran : run env limit flow world = (some result, after))
    : ∃ made, after.calls = world.calls ++ made ∧ post (lastCall made last) result := by
  induction flow generalizing last world with
  | done value =>
      cases ran
      exact ⟨[], (List.append_nil _).symm, by rwa [lastCall_nil]⟩
  | call ctx request next ih =>
      -- The call is on record whether or not anything comes of it.
      obtain ⟨call, rfl, grown⟩ := recorded_runCall env limit ctx request world
      simp only [Flow.run] at ran
      rcases called : runCall env limit ctx call.request world with ⟨_ | reply, middle⟩
      · rw [called] at ran
        cases ran
      · rw [called] at ran grown
        obtain ⟨made, more, told⟩ := ih reply (ends reply) ran
        refine ⟨call :: made, ?_, ?_⟩
        · rw [more, grown, List.append_assoc, List.singleton_append]
        · rwa [lastCall_cons]
  | sleep ctx span next ih =>
      simp only [Flow.run] at ran
      split at ran
      · next reply clock _ =>
          have later := ih reply (ends reply) ran
          exact later
      · cases ran
  | now next ih => exact ih _ (ends _) ran
  | fresh next ih =>
      have later := ih _ (ends _) ran
      exact later
  | log event next ih =>
      have later := ih ends ran
      exact later

end Flow

namespace RetryPlan

open ImageVerification.Flow

/-- An operation that has made a call last; if it fails, it does so under its own name. -/
def Concludes (task : Task) (request : Call) (last : Option Call)
    (result : Except (OperationFailure ε) α)
    : Prop :=
  last = some request ∧ ∀ failure, result = .error failure → failure.operation = task.operation

theorem concludes_ok {task : Task} {request : Call} (value : α)
    : Concludes task request (some request) (.ok value : Except (OperationFailure ε) α) :=
  ⟨rfl, nofun⟩

/-- An operation that fails under its own name concludes. -/
theorem concludes_error {task : Task} {request : Call} {failure : OperationFailure ε}
    (own : failure.operation = task.operation)
    : Concludes task request (some request) (.error failure : Except (OperationFailure ε) α) := by
  refine ⟨rfl, ?_⟩
  rintro _ ⟨⟩
  exact own

variable [Fault ε]

/-- However an attempt comes out, the operation concludes with it, or leaves that to its next
attempt.
-/
theorem settle_endsIn {task : Task} {attempt : Nat}
    {again : ε → Flow Call Reply (Except (OperationFailure ε) α)} {request : Call}
    (next : ∀ fault, (again fault).EndsIn (Concludes task request) (some request))
    (result : Except Interrupt (Except ε α))
    : (settle task attempt again result).EndsIn (Concludes task request) (some request) := by
  match result with
  | .error kind => exact concludes_error rfl
  | .ok (.ok value) =>
      simp only [settle, succeed]
      split <;> exact concludes_ok value
  | .ok (.error fault) =>
      simp only [settle]
      split
      · exact next fault
      · exact concludes_error rfl

/-- Attempts that all make the same call have made it last. By induction on the attempts left: a
wait between two attempts makes no call.
-/
theorem attemptFrom_endsIn (plan : RetryPlan) (ctx : Context) (task : Task)
    {op : Attempt Call Reply ε α} {request : Call}
    (single : ∀ last, (op ctx).EndsIn (fun last _ => last = some request) last)
    (left attempt : Nat) (last : Option Call)
    : (plan.attemptFrom ctx task op attempt left).EndsIn (Concludes task request) last := by
  induction left generalizing attempt last with
  | zero =>
      refine (single last).bind ?_
      rintro _ result rfl
      refine settle_endsIn (fun fault => ?_) result
      exact concludes_error rfl
  | succ left ih =>
      refine (single last).bind ?_
      rintro _ result rfl
      refine settle_endsIn ?_ result
      intro fault waited
      cases waited with
      | error kind => exact concludes_error rfl
      | ok done => exact ih (attempt + 1) (some request)

/-- Whatever comes of its attempts, an operation concludes with a call of its own and, if it fails,
under its own name; by induction on the budget that is left.
-/
theorem repeatAttempts_endsIn (plan : RetryPlan) (ctx : Context) (task : Task)
    {op : Attempt Call Reply ε α} {request : Call}
    (single : ∀ ctx last, (op ctx).EndsIn (fun last _ => last = some request) last)
    (last : Option Call)
    : (plan.repeatAttempts ctx task op).EndsIn (Concludes task request) last := by
  unfold repeatAttempts
  split
  · refine (single .background last).bind ?_
    rintro _ result rfl
    match result with
    | .error kind => exact concludes_error rfl
    | .ok (.error fault) => exact concludes_error rfl
    | .ok (.ok value) => exact concludes_ok value
  · exact plan.attemptFrom_endsIn ctx task (single ctx) (plan.attempts - 1) 1 last

end RetryPlan

end ImageVerification
