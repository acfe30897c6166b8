import ImageVerification.Proofs.Flow.Running
import ImageVerification.Retry

/-! What a flow may ask of its collaborators, whatever they answer and whenever it is interrupted.
-/

namespace ImageVerification

variable {Call : Type} {Reply : Call → Type} {α β ε : Type} {allowed : Call → Prop}
  {drawn : String → Prop}

/-- However its calls and waits end, the flow only makes calls that are allowed, as long as the
names that it draws are as described.
-/
def Flow.Asks (allowed : Call → Prop) (drawn : String → Prop) : Flow Call Reply α → Prop
  | done _ => True
  | call _ request next => allowed request ∧ ∀ reply, Asks allowed drawn (next reply)
  | sleep _ _ next => ∀ reply, Asks allowed drawn (next reply)
  | now next => ∀ reading, Asks allowed drawn (next reading)
  | fresh next => ∀ name, drawn name → Asks allowed drawn (next name)
  | log _ next => Asks allowed drawn next

/-- What is asked for in a composed flow is asked for in one of its parts, by induction on the
first.
-/
theorem Flow.Asks.bind {flow : Flow Call Reply α} {f : α → Flow Call Reply β}
    (asks : flow.Asks allowed drawn) (next : ∀ result, (f result).Asks allowed drawn)
    : (flow.bind f).Asks allowed drawn := by
  induction flow with
  | done result => exact next result
  | call ctx request rest ih => exact ⟨asks.1, fun reply => ih reply (asks.2 reply)⟩
  | sleep ctx span rest ih => exact fun reply => ih reply (asks reply)
  | now rest ih => exact fun reading => ih reading (asks reading)
  | fresh rest ih => exact fun name given => ih name (asks name given)
  | log event rest ih => exact ih asks

/-- Where everything is allowed, every flow asks for what is allowed. -/
theorem Flow.asks_of_forall (all : ∀ request, allowed request) (flow : Flow Call Reply α)
    : flow.Asks allowed drawn := by
  induction flow with
  | done result => trivial
  | call ctx request rest ih => exact ⟨all request, ih⟩
  | sleep ctx span rest ih => exact ih
  | now rest ih => exact ih
  | fresh rest ih => exact fun name _ => ih name
  | log event rest ih => exact ih

theorem Flow.perform_asks (ctx : Context) {request : Call} (fine : allowed request)
    : (perform ctx request : Flow Call Reply _).Asks allowed drawn :=
  ⟨fine, fun _ => trivial⟩

namespace RetryPlan

variable [Fault ε]

/-- To settle an attempt nothing is asked for, except by what comes after a passing fault. -/
theorem settle_asks (task : Task) (attempt : Nat)
    {again : ε → Flow Call Reply (Except (OperationFailure ε) α)}
    (next : ∀ fault, (again fault).Asks allowed drawn) (result : Except Interrupt (Except ε α))
    : (settle task attempt again result).Asks allowed drawn := by
  match result with
  | .error kind => trivial
  | .ok (.ok value) =>
      simp only [settle, succeed]
      split <;> trivial
  | .ok (.error fault) =>
      simp only [settle]
      split
      · exact next fault
      · trivial

/-- Attempts ask for no more than a single one does, by induction on the attempts left. -/
theorem attemptFrom_asks (plan : RetryPlan) (ctx : Context) (task : Task)
    {op : Attempt Call Reply ε α} (single : (op ctx).Asks allowed drawn) (left attempt : Nat)
    : (plan.attemptFrom ctx task op attempt left).Asks allowed drawn := by
  induction left generalizing attempt with
  | zero => exact single.bind (settle_asks task attempt fun _ => trivial)
  | succ left ih =>
      refine single.bind (settle_asks task attempt ?_)
      intro fault waited
      -- The wait is interrupted, or it leads to the next attempt.
      cases waited with
      | error kind => trivial
      | ok done => exact ih (attempt + 1)

/-- All attempts of an operation ask for the same. Witness: the attempts by induction on the budget,
between which there are only waits and lines of the log.
-/
theorem repeatAttempts_asks (plan : RetryPlan) (ctx : Context) (task : Task)
    {op : Attempt Call Reply ε α} (single : ∀ ctx, (op ctx).Asks allowed drawn)
    : (plan.repeatAttempts ctx task op).Asks allowed drawn := by
  unfold repeatAttempts
  split
  · refine (single .background).bind ?_
    intro result
    match result with
    | .error kind => trivial
    | .ok (.error fault) => trivial
    | .ok (.ok value) => trivial
  · exact attemptFrom_asks plan ctx task (single ctx) (plan.attempts - 1) 1

end RetryPlan

end ImageVerification
