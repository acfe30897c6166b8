import ImageVerification.Proofs.Api.Handlers

/-! What clients learn of failures: the operation and the class of what went wrong, and nothing of
what the collaborators have said.
-/

namespace ImageVerification

open Http Collaborator

namespace OperationFailure

variable {ε : Type}

/-- The deadline has passed before the operation was over. -/
def Overdue (failure : OperationFailure ε) : Prop :=
  failure.interruption? = some .deadlineExceeded

/-- The store holds a record already that the new one would repeat. -/
def Conflicts (failure : OperationFailure StageFault) : Prop :=
  ∃ detail, failure.fault? = some (.store (.conflict detail))

/-- The scorer could not be reached, or has said that it may be able to answer later. -/
inductive Unserved (failure : OperationFailure StageFault) : Prop where
  | unreachable {detail : String} (why : failure.fault? = some (.scorer (.transport detail)))
  | putOff {code : GrpcCode} {message : String}
      (why : failure.fault? = some (.scorer (.status ⟨code, message⟩)))
      (passing : code ∈ [.unavailable, .deadlineExceeded, .resourceExhausted])

/-- No record has been found. -/
def Missing (failure : OperationFailure StoreFault) : Prop := failure.fault? = some .notFound

/-- Failures of one operation, which has been interrupted in the same way or not at all. -/
structure Alike (failure other : OperationFailure ε) : Prop where
  operation : failure.operation = other.operation
  interruption : failure.interruption? = other.interruption?

/-- Failures of one class of a stage. -/
structure AlikeInStage (failure other : OperationFailure StageFault) : Prop
    extends Alike failure other where
  conflicts : failure.Conflicts ↔ other.Conflicts
  unserved : failure.Unserved ↔ other.Unserved

/-- Failures of one class of the store. -/
structure AlikeInStore (failure other : OperationFailure StoreFault) : Prop
    extends Alike failure other where
  missing : failure.Missing ↔ other.Missing

/-- A failure that was cut short names no fault. -/
theorem fault?_eq_none {failure : OperationFailure ε} {kind : Interrupt}
    (cut : failure.interruption? = some kind)
    : failure.fault? = none := by
  obtain ⟨operation, correlationId, cause⟩ := failure
  cases cause with
  | failed fault => cases cut
  | interrupted kind => rfl

/-- The scorer does not serve a request exactly if its fault passes: a transport fault, or one of
the statuses that are tried again.
-/
theorem unserved_iff {failure : OperationFailure StageFault} {fault : ScorerFault}
    (failed : failure.fault? = some (.scorer fault))
    : failure.Unserved ↔ fault.transient = true := by
  constructor
  · rintro (why | ⟨why, passing⟩)
    · cases failed.symm.trans why
      rfl
    · cases failed.symm.trans why
      simpa [ScorerFault.transient, GrpcStatus.transient, or_assoc] using passing
  · intro transient
    match fault with
    | .transport detail => exact .unreachable failed
    | .invalidResponse detail => cases transient
    | .status ⟨code, message⟩ =>
        refine .putOff failed ?_
        simpa [ScorerFault.transient, GrpcStatus.transient, or_assoc] using transient

/-- A scorer that does not serve is not a store that refuses. -/
theorem Conflicts.served {failure : OperationFailure StageFault} (conflicts : failure.Conflicts)
    : ¬ failure.Unserved := by
  obtain ⟨detail, failed⟩ := conflicts
  rintro (why | ⟨why, -⟩)
  · cases failed.symm.trans why
  · cases failed.symm.trans why

end OperationFailure

namespace Rejection

open Classical in
/-- How a client is told of the failure of a stage, by its class. -/
noncomputable def ofStageClass (failure : OperationFailure StageFault) : Rejection :=
  match failure.interruption? with
  | some kind => ofInterrupt failure.operation kind
  | none =>
      if failure.Conflicts then conflict "This image has already been verified for this user"
      else if failure.Unserved then unavailable "Image processor unavailable"
      else internal ("Verification failed at " ++ failure.operation)

open Classical in
/-- How a client is told of a failure of the store, by its class. -/
noncomputable def ofStoreClass (failure : OperationFailure StoreFault) : Rejection :=
  match failure.interruption? with
  | some kind => ofInterrupt failure.operation kind
  | none =>
      if failure.Missing then notFound "result not found"
      else internal "A database error occurred"

/-- What a failed verification is answered depends on its class alone, by cases on its cause. -/
theorem ofStage_eq (failure : OperationFailure StageFault)
    : (ofStage failure).1 = ofStageClass failure := by
  obtain ⟨operation, correlationId, cause⟩ := failure
  match cause with
  | .interrupted kind => rfl
  | .failed (.store (.conflict detail)) => exact (if_pos ⟨detail, rfl⟩).symm
  | .failed (.scorer fault) =>
      have unserved_iff :=
        @OperationFailure.unserved_iff ⟨operation, correlationId, .failed (.scorer fault)⟩ fault rfl
      refine Eq.trans ?_ (if_neg nofun).symm
      simp only [ofStage, unserved_iff]
      split <;> rfl
  | .failed (.cache _) | .failed (.encoding _) | .failed (.store .notFound)
  | .failed (.store (.database _)) | .failed (.store (.unavailable _)) =>
      exact ((if_neg nofun).trans (if_neg nofun)).symm

/-- So does what a failed lookup is answered. -/
theorem ofStore_eq (failure : OperationFailure StoreFault)
    : (ofStore failure).1 = ofStoreClass failure := by
  obtain ⟨operation, correlationId, cause⟩ := failure
  match cause with
  | .interrupted kind => rfl
  | .failed .notFound => exact (if_pos rfl).symm
  | .failed (.conflict _) | .failed (.database _) | .failed (.unavailable _) =>
      exact (if_neg nofun).symm

/-- Failures of a verification that are alike belong to the same class. -/
theorem ofStageClass_congr {failure other : OperationFailure StageFault}
    (alike : failure.AlikeInStage other)
    : ofStageClass failure = ofStageClass other := by
  rw [ofStageClass, ofStageClass, alike.operation, alike.interruption, propext alike.conflicts,
    propext alike.unserved]

/-- So do failures of a lookup that are alike. -/
theorem ofStoreClass_congr {failure other : OperationFailure StoreFault}
    (alike : failure.AlikeInStore other)
    : ofStoreClass failure = ofStoreClass other := by
  rw [ofStoreClass, ofStoreClass, alike.operation, alike.interruption, propext alike.missing]

theorem ofInterrupt_status (operation : String) (kind : Interrupt)
    : (ofInterrupt operation kind).status = if kind = .deadlineExceeded then 408 else 500 := by
  cases kind <;> rfl

/-- The status of a rejection tells the class of the failure. -/
theorem ofStageClass_status (failure : OperationFailure StageFault)
    : ((ofStageClass failure).status = 408 ↔ failure.Overdue)
      ∧ ((ofStageClass failure).status = 409 ↔ failure.Conflicts)
      ∧ ((ofStageClass failure).status = 503 ↔ failure.Unserved)
      ∧ ((ofStageClass failure).status = 500
        ↔ ¬ failure.Overdue ∧ ¬ failure.Conflicts ∧ ¬ failure.Unserved) := by
  unfold ofStageClass
  split
  · next kind cut =>
      have unfailed := OperationFailure.fault?_eq_none cut
      have free : ¬ failure.Conflicts := by simp [OperationFailure.Conflicts, unfailed]
      have served : ¬ failure.Unserved := by rintro (why | ⟨why, -⟩) <;> simp [unfailed] at why
      rw [ofInterrupt_status]
      cases kind <;> simp [OperationFailure.Overdue, cut, free, served]
  · next uncut =>
      have inTime : ¬ failure.Overdue := by simp [OperationFailure.Overdue, uncut]
      split
      · next conflicts => simp [status, inTime, conflicts, conflicts.served]
      · split <;> simp [status, *]

/-- The statuses of failed lookups tell apart what was missing, what took too long, and all else.
Witness: a failure that was cut short is not a missing record.
-/
theorem ofStoreClass_status (failure : OperationFailure StoreFault)
    : ((ofStoreClass failure).status = 404 ↔ failure.Missing)
      ∧ ((ofStoreClass failure).status = 408 ↔ failure.Overdue)
      ∧ ((ofStoreClass failure).status = 500 ↔ ¬ failure.Missing ∧ ¬ failure.Overdue) := by
  unfold ofStoreClass
  split
  · next kind cut =>
      have found : ¬ failure.Missing := by
        simp [OperationFailure.Missing, OperationFailure.fault?_eq_none cut]
      rw [ofInterrupt_status]
      cases kind <;> simp [OperationFailure.Overdue, cut, found]
  · next uncut =>
      have inTime : ¬ failure.Overdue := by simp [OperationFailure.Overdue, uncut]
      split <;> simp [status, *]

end Rejection

namespace Api

/-- Whatever it is run among, an action answers with a response. -/
def Answers (action : Action Response) (response : Response) : Prop :=
  ∀ {σ : Type} (env : Environment Call Reply σ) (limit : Option Instant) (world : World Call σ),
    (action.run env limit world).1 = some response

/-- To explain a rejection is to answer its status and its body, whatever the environment does. -/
theorem answers_explain (explained : Rejection.Explained)
    : Answers (explain explained) (.json explained.1.status explained.1.body) := by
  intro σ env limit world
  rw [(quiet_explain explained).run env limit world rfl]

/-- Clients are told of failures by their class. The status of the response to the failure of a
verification or of a lookup says of which class it is, and the whole response is the same for every
other failure of the class, whatever its texts, codes and correlation ids are.
-/
theorem failures_answered_by_class
    : (∀ failure : OperationFailure StageFault,
        ∃ response,
          Answers (explain (Rejection.ofStage failure)) response
          ∧ (response.status = 408 ↔ failure.Overdue)
          ∧ (response.status = 409 ↔ failure.Conflicts)
          ∧ (response.status = 503 ↔ failure.Unserved)
          ∧ (response.status = 500
            ↔ ¬ failure.Overdue ∧ ¬ failure.Conflicts ∧ ¬ failure.Unserved)
          ∧ ∀ other,
              failure.AlikeInStage other
              → Answers (explain (Rejection.ofStage other)) response)
      ∧ ∀ failure : OperationFailure StoreFault,
          ∃ response,
            Answers (explain (Rejection.ofStore failure)) response
            ∧ (response.status = 404 ↔ failure.Missing)
            ∧ (response.status = 408 ↔ failure.Overdue)
            ∧ (response.status = 500 ↔ ¬ failure.Missing ∧ ¬ failure.Overdue)
            ∧ ∀ other,
                failure.AlikeInStore other
                → Answers (explain (Rejection.ofStore other)) response := by
  constructor
  · intro failure
    obtain ⟨overdue, conflicts, unserved, otherwise⟩ := Rejection.ofStageClass_status failure
    rw [← Rejection.ofStage_eq] at overdue conflicts unserved otherwise
    refine ⟨_, answers_explain _, overdue, conflicts, unserved, otherwise, fun other alike => ?_⟩
    rw [Rejection.ofStage_eq, Rejection.ofStageClass_congr alike, ← Rejection.ofStage_eq]
    exact answers_explain _
  · intro failure
    obtain ⟨missing, overdue, otherwise⟩ := Rejection.ofStoreClass_status failure
    rw [← Rejection.ofStore_eq] at missing overdue otherwise
    refine ⟨_, answers_explain _, missing, overdue, otherwise, fun other alike => ?_⟩
    rw [Rejection.ofStore_eq, Rejection.ofStoreClass_congr alike, ← Rejection.ofStore_eq]
    exact answers_explain _

/-- A record that the database could not save. -/
def unsavedRecord : OperationFailure StageFault :=
  .failed "save_log" "alices-request"
    (.store (.database (.report ⟨some "42P01", "relation verification_logs is missing", false⟩)))

/-- Another one, which did not come as far as the database. -/
def unsentRecord : OperationFailure StageFault :=
  .failed "save_log" "bobs-request" (.store (.unavailable "no route to 10.0.0.7"))

/-- A record that the store did not take and one that it never heard of get the same response, which
is an internal error.
-/
theorem unsavedRecord_answered_as_unsentRecord
    : unsavedRecord.AlikeInStage unsentRecord
      ∧ ∃ response,
          Answers (explain (Rejection.ofStage unsavedRecord)) response
          ∧ Answers (explain (Rejection.ofStage unsentRecord)) response
          ∧ response.status = 500 := by
  have served : ¬ unsavedRecord.Unserved := by rintro (⟨⟨⟩⟩ | ⟨⟨⟩, -⟩)
  have alike : unsavedRecord.AlikeInStage unsentRecord := by
    refine ⟨⟨rfl, rfl⟩, iff_of_false nofun nofun, iff_of_false served ?_⟩
    rintro (⟨⟨⟩⟩ | ⟨⟨⟩, -⟩)
  obtain ⟨response, answers, -, -, -, otherwise, same⟩ := failures_answered_by_class.1 unsavedRecord
  exact ⟨alike, response, answers, same _ alike, otherwise.mpr ⟨nofun, nofun, served⟩⟩

end Api

end ImageVerification
