import ImageVerification.Proofs.Service.Disclosure
import ImageVerification.Proofs.Verification.Saves

/-! What verifications leave in a store that is a ledger: which of them add a record, and what the
totals over their records say about them.
-/

namespace ImageVerification

open Collaborator ImageVerification.Flow Verification

variable {σ : Type} {env : Environment Call Reply σ} {ledger : σ → Ledger}

/-- A store that is a ledger. A save is answered by the ledger in the instant in which it takes
effect, unless it fails and has no effect; the totals are told at once.
-/
structure KeepsLedger (env : Environment Call Reply σ) (ledger : σ → Ledger) : Prop
    extends ChangedBySaves env ledger where
  prompt : ∀ record now state, (env.accept (.storeSave record) now state).1.after = some 0
  saves :
    ∀ record now state instant,
      let (reply, after) := env.carryOut (.storeSave record) now state instant
      (reply, ledger after) = (ledger state).save record
      ∨ (∃ fault, reply = .error fault) ∧ ledger after = ledger state
  totalsAtOnce :
    ∀ now state,
      (env.accept .storeTotals now state).1.before = some 0
      ∧ (env.accept .storeTotals now state).1.after = some 0
  totals :
    ∀ now state instant,
      (env.carryOut .storeTotals now state instant).1 = .ok (ledger state).totals

/-- A save that is carried out adds its record and is answered so, or it changes nothing. -/
theorem KeepsLedger.carryOut_cases (keeps : KeepsLedger env ledger) (record : Record)
    (now instant : Instant) (state : σ)
    : (env.carryOut (.storeSave record) now state instant).1 = .ok ()
        ∧ ledger (env.carryOut (.storeSave record) now state instant).2
          = ⟨(ledger state).records ++ [record]⟩
      ∨ (∃ fault, (env.carryOut (.storeSave record) now state instant).1 = .error fault)
        ∧ ledger (env.carryOut (.storeSave record) now state instant).2 = ledger state := by
  rcases keeps.saves record now state instant with answered | failed
  · rcases (ledger state).save_cases record with ⟨fault, turnedAway⟩ | ⟨taken, -⟩
    · rw [turnedAway] at answered
      obtain ⟨replied, same⟩ := Prod.mk.inj answered
      exact .inr ⟨⟨fault, replied⟩, same⟩
    · rw [taken] at answered
      obtain ⟨replied, added⟩ := Prod.mk.inj answered
      exact .inl ⟨replied, added⟩
  · exact .inr failed

/-- A save that does not succeed changes nothing: what has taken effect is not left unanswered. -/
theorem KeepsLedger.unsuccessful (keeps : KeepsLedger env ledger) {record : Record}
    {exchange : Exchange Call Reply σ} (occurs : Occurs env exchange)
    (asked : exchange.request = .storeSave record) (unsuccessful : exchange.ending ≠ .succeeded)
    : ledger exchange.after.state = ledger exchange.before.state := by
  obtain ⟨ctx, begun⟩ := occurs
  rcases exchange with ⟨request, reply, before, after⟩
  obtain rfl : request = .storeSave record := asked
  rw [Exchange.ending_storeSave] at unsuccessful
  have carried
      : Carried env (.storeSave record) before.clock before.state reply after.state :=
    begun.carried
  generalize after.state = left at carried ⊢
  cases carried with
  | accepted unanswered => exact keeps.accept _ _ _
  | answered instant =>
      rcases keeps.carryOut_cases record before.clock instant before.state with
        ⟨replied, -⟩ | ⟨-, same⟩
      · rw [replied] at unsuccessful
        exact absurd rfl unsuccessful
      · exact same
  -- An effect without an answer would have to be answered later than it takes place.
  | unheard instant unanswered late => exact absurd (keeps.prompt record _ _) late

/-- A save that is answered as successful has added its record at the end. -/
theorem KeepsLedger.successful (keeps : KeepsLedger env ledger) {record : Record}
    {exchange : Exchange Call Reply σ} (occurs : Occurs env exchange)
    (asked : exchange.request = .storeSave record) (succeeded : exchange.ending = .succeeded)
    : ledger exchange.after.state = ⟨(ledger exchange.before.state).records ++ [record]⟩ := by
  obtain ⟨instant, took⟩ := occurs.save_succeeded asked succeeded
  have saved := keeps.carryOut_cases record exchange.before.clock instant exchange.before.state
  rw [took] at saved
  rcases saved with ⟨-, added⟩ | ⟨⟨fault, ⟨⟩⟩, -⟩
  exact added

/-- Saves that are all unsuccessful leave the ledger as it is, however many they are. -/
theorem KeepsLedger.linked_unsuccessful (keeps : KeepsLedger env ledger) {record : Record}
    {first last : σ} {trace : List (Exchange Call Reply σ)} (linked : Linked env first trace last)
    (asked : ∀ exchange ∈ trace, exchange.request = .storeSave record)
    (unsuccessful : ∀ exchange ∈ trace, exchange.ending ≠ .succeeded)
    : ledger last = ledger first := by
  refine linked.keeps ledger ?_
  intro exchange member occurs
  exact keeps.unsuccessful occurs (asked exchange member) (unsuccessful exchange member)

theorem Totals.count_ofRecords (records : List Record)
    : (Totals.ofRecords records).count = records.length := by
  cases records with
  | nil => rfl
  | cons record rest => rfl

theorem Totals.successes_ofRecords (records : List Record)
    : (Totals.ofRecords records).successes = records.countP (·.success) := by
  cases records with
  | nil => rfl
  | cons record rest => rfl

namespace Verification

/-- Whether a verification reports that its record is stored, if not that its snapshot is cached. -/
def isStored : Except StageFailure VerificationOutcome → Bool
  | .ok _ => true
  | .error failure => failure.operation == "cache.set.result"

/-- The request that a verification reports on. -/
def requestIdOf : Except StageFailure VerificationOutcome → String
  | .ok outcome => outcome.requestId
  | .error failure => failure.correlationId

/-- A verification reports that its record is stored and the ledger is longer by one, with the
success that the scorer has reported, or it reports something else and the ledger is as it was.
-/
inductive Appends (result : Except StageFailure VerificationOutcome) (success : Bool)
    (before : Ledger)
    : Ledger → Prop where
  | stored {record : Record} (reported : isStored result = true)
      (named : record.requestId = requestIdOf result) (told : record.success = success)
      : Appends result success before ⟨before.records ++ [record]⟩
  | kept (unreported : isStored result = false) : Appends result success before before

variable {ctx : Context} {limit : Option Instant} {userId : String} {image : Bytes}
  {trace : List (Exchange Call Reply σ)} {result : Except StageFailure VerificationOutcome}

/-- A record is in the ledger from its last save on, whatever becomes of its snapshot. -/
theorem SaveStages.appends (keeps : KeepsLedger env ledger) {now : Instant} {verdict : Verdict}
    {record : Record} {first last : σ}
    (stages : SaveStages ctx verdict record now trace (some result))
    (linked : Linked env first trace last)
    : Appends result record.success (ledger first) (ledger last) := by
  cases stages with
  | stopped repeats notPassed reports =>
      have same := keeps.linked_unsuccessful linked repeats.asked (repeats.unsuccessful notPassed)
      rw [same]
      rcases stopped_cases repeats notPassed reports with unreported | ⟨failure, own, tagged, -, -⟩
      · cases unreported
      · cases own
        exact .kept (by simp [isStored, tagged])
  | passed passing few asked succeeded later =>
      -- Failed saves, the one that succeeds, and calls of the cache: only the second part counts.
      obtain ⟨middle, saving, caching⟩ := linked.split
      obtain ⟨before, failing, rfl, occurs, rfl⟩ := saving.split
      have turnedAway := keeps.linked_unsuccessful failing
        (fun exchange member => (passing exchange member).1) passing.unsuccessful
      have added := keeps.successful occurs asked succeeded
      have cached := keeps.linked caching
        (noSaves_of_asked (CacheStage.asked later) (by simp [snapshotCall]))
      rw [cached, added, turnedAway]
      cases later with
      | stopped repeats notPassed reports =>
          rcases stopped_cases repeats notPassed reports with
            unreported | ⟨failure, own, tagged, named, -⟩
          · cases unreported
          · cases own
            exact .stored (by simp [isStored, tagged]) named.symm rfl
      | passed passing few asked succeeded finished =>
          cases finished.2
          exact .stored rfl rfl rfl

/-- The verdict that an exchange has brought. -/
def verdict? : Exchange Call Reply σ → Option Verdict
  | ⟨.score .., some (.ok (.ok verdict)), _, _⟩ => some verdict
  | _ => none

/-- Whether the scorer has reported success. -/
def isPraised (trace : List (Exchange Call Reply σ)) : Bool :=
  trace.any fun exchange => (verdict? exchange).any (·.success)

/-- A run in which nothing was scored has no praise to report. -/
theorem not_isPraised {trace : List (Exchange Call Reply σ)}
    (unscored : ∀ exchange ∈ trace, ∀ userId image deadline,
      exchange.request ≠ .score userId image deadline)
    : isPraised trace = false := by
  refine List.any_eq_false.mpr ?_
  intro exchange member
  have noVerdict : verdict? exchange = none := by
    unfold verdict?
    split
    · exact absurd rfl (unscored _ member _ _ _)
    · rfl
  simp [noVerdict]

/-- The record of a verification tells of the one verdict among its exchanges. -/
theorem isPraised_of_tells {record : Record} {verdict : Verdict} {requestId : String}
    {now : Instant} {lead rest : List (Exchange Call Reply σ)} {scored : Exchange Call Reply σ}
    {deadline : Option Instant} {reported : Option (Except StageFailure VerificationOutcome)}
    (marks : ∀ exchange ∈ lead, exchange.request = markCall requestId)
    (tells : Tells scored userId image deadline verdict)
    (saves : SaveStages ctx verdict record now rest reported)
    : isPraised (lead ++ [scored] ++ rest) = verdict.success := by
  have before : isPraised lead = false := by
    apply not_isPraised
    intro exchange member
    simp [marks exchange member, markCall]
  have later : isPraised rest = false := by
    apply not_isPraised
    intro exchange member
    rcases saves.asked exchange member with asked | asked
    · simp [asked]
    · simp [asked, snapshotCall]
  have told : verdict? scored = some verdict := by
    rw [show scored = _ from tells]
    rfl
  unfold isPraised at before later ⊢
  simp [before, later, told]

/-- The effect of a verification on the ledger is what it reports. -/
theorem verify_appends {world after : World Call σ} (keeps : KeepsLedger env ledger)
    (goes : Goes env limit (verify ctx userId image) world trace (some result) after)
    : Appends result (isPraised trace) (ledger world.state) (ledger after.state) := by
  have linked := goes.conducted.linked
  rcases (verify_staged goes).cases with
    ⟨noSaves, givesUp⟩ | ⟨lead, scored, verdict, rest, rfl, marks, tells, saves⟩
  · obtain ⟨failure, rfl, early, -⟩ := givesUp result rfl
    rw [keeps.linked linked noSaves]
    exact .kept (by simp [isStored, early])
  · obtain ⟨middle, scoring, saving⟩ := linked.split
    have noSaves := noSaves_before marks tells
    rw [isPraised_of_tells marks tells saves, ← keeps.linked scoring noSaves]
    exact saves.appends keeps saving

/-- A verification that has come to its end. -/
structure Episode (σ : Type) where
  ctx : Context
  userId : String
  image : Bytes
  trace : List (Exchange Call Reply σ)
  result : Except StageFailure VerificationOutcome

/-- Verifications one after the other, from an empty ledger on. In between, anything may happen that
leaves the ledger as it is.
-/
inductive History (env : Environment Call Reply σ) (ledger : σ → Ledger)
    : List (Episode σ) → World Call σ → Prop where
  | start {world : World Call σ} (empty : ledger world.state = .empty) : History env ledger [] world
  | meanwhile {episodes : List (Episode σ)} {world after : World Call σ}
      (history : History env ledger episodes world)
      (same : ledger after.state = ledger world.state)
      : History env ledger episodes after
  | verified {episodes : List (Episode σ)} {episode : Episode σ} {world after : World Call σ}
      (history : History env ledger episodes world)
      (goes : Goes env none (verify episode.ctx episode.userId episode.image) world episode.trace
        (some episode.result) after)
      : History env ledger (episodes ++ [episode]) after

/-- A history goes on with the run of any verification that comes to its end. -/
theorem History.next {episodes : List (Episode σ)} {world : World Call σ}
    (history : History env ledger episodes world)
    (ended : ((verify ctx userId image).run env none world).1 = some result)
    : History env ledger
        (episodes
          ++ [⟨ctx, userId, image, (verify ctx userId image).exchanges env none world, result⟩])
        ((verify ctx userId image).run env none world).2 :=
  .verified history ⟨rfl, Prod.ext ended rfl⟩

/-- The ledger holds one record for each verification that reports so, in their order. -/
theorem History.records {episodes : List (Episode σ)} {world : World Call σ}
    (keeps : KeepsLedger env ledger) (history : History env ledger episodes world)
    : (ledger world.state).records.map (fun record => (record.requestId, record.success))
      = (episodes.filter (isStored ·.result)).map fun episode =>
          (requestIdOf episode.result, isPraised episode.trace) := by
  induction history with
  | start empty => simp [empty, Ledger.empty]
  | meanwhile history same ih => rw [same, ih]
  | @verified episodes episode world after history goes ih =>
      have appends := verify_appends keeps goes
      generalize ledger after.state = later at appends ⊢
      rw [List.filter_append, List.map_append, ← ih]
      cases appends with
      | stored reported named told => simp [reported, named, told]
      | kept unreported => simp [unreported]

/-- The totals over a history count the verifications that report their record to be stored, and
those among them whose scorer has reported success.
-/
theorem History.totals {episodes : List (Episode σ)} {world : World Call σ}
    (keeps : KeepsLedger env ledger) (history : History env ledger episodes world)
    : (ledger world.state).totals.count = episodes.countP (isStored ·.result)
      ∧ (ledger world.state).totals.successes
        = episodes.countP fun episode => isStored episode.result && isPraised episode.trace := by
  have aligned := history.records keeps
  unfold Ledger.totals
  rw [Totals.count_ofRecords, Totals.successes_ofRecords]
  constructor
  · have lengths := congrArg List.length aligned
    rw [List.length_map, List.length_map, ← List.countP_eq_length_filter] at lengths
    exact_mod_cast lengths
  · have successes := congrArg (List.countP (·.2)) aligned
    simp only [List.countP_map, List.countP_filter, Function.comp_def] at successes
    simp only [Bool.and_comm, successes]

/-- The store is asked for its totals once, and they are summed up at once. -/
theorem run_metrics {world : World Call σ} (keeps : KeepsLedger env ledger)
    (free : ctx.interruption world.clock = none)
    : ∃ after,
        (metrics ctx).run env none world
        = (some (.ok (ledger world.state).totals.summary), after) := by
  let ask : RetryPlan.Attempt Call Reply StoreFault Totals :=
    fun ctx => perform ctx Call.storeTotals
  let totals : Except StoreFault Totals := .ok (ledger world.state).totals
  obtain ⟨begins, ends⟩ := keeps.totalsAtOnce world.clock world.state
  obtain ⟨after, called⟩ := runCall_at_once begins ends free
  rw [keeps.totals] at called
  have asked : (ask ctx).run env none world = (some (.ok totals), after) := by
    simp only [ask, perform, run, called, totals]
  have conclusive : ¬ RetryPlan.FailsTransiently totals := by
    rintro ⟨fault, failed, -⟩
    simp [totals] at failed
  obtain ⟨events, ran⟩ := RetryPlan.run_repeatAttempts_of_conclusive ask totals
    ⟨"repository.aggregate_metrics", ""⟩ (by decide : 1 < RetryPlan.store.attempts) asked conclusive
  have summed : (Repository.totals ctx).run env none world = _ := ran
  rw [metrics, bind_eq_bind, run_bind, summed]
  exact ⟨_, rfl⟩

/-- Which verifications are on record. A verification adds a record, under the request id it reports
on, exactly when it reports success or a failure to cache the result; otherwise the ledger stays as
it was. So the summary of the records counts the verifications that have reported so, and those
among them whose scorer has reported success.
-/
theorem durable_ledger {episodes : List (Episode σ)} {world : World Call σ}
    (keeps : KeepsLedger env ledger) (history : History env ledger episodes world)
    : (∀ ctx userId image trace result after,
        Goes env none (verify ctx userId image) world trace (some result) after
        → (ledger after.state ≠ ledger world.state ↔ isStored result = true)
          ∧ (isStored result = true →
              ∃ record,
                ledger after.state = ⟨(ledger world.state).records ++ [record]⟩
                ∧ record.requestId = requestIdOf result))
      ∧ ∀ ctx, ctx.interruption world.clock = none →
          ∃ summary after,
            (metrics ctx).run env none world = (some (.ok summary), after)
            ∧ summary.totalRequests = episodes.countP (isStored ·.result)
            ∧ summary.successfulRequests
              = episodes.countP (fun episode => isStored episode.result && isPraised episode.trace)
            ∧ 0 ≤ summary.successfulRequests
            ∧ summary.successfulRequests ≤ summary.totalRequests
            ∧ (summary.totalRequests = 0 → summary.successRate = .zero) := by
  constructor
  · intro ctx userId image trace result after goes
    -- A verification appends its record and reports so, or does neither.
    have appends := verify_appends keeps goes
    generalize ledger after.state = later at appends ⊢
    cases appends with
    | @stored record reported named told =>
        refine ⟨iff_of_true ?_ reported, fun _ => ⟨record, rfl, named⟩⟩
        intro same
        have longer := congrArg (·.records.length) same
        simp at longer
    | kept unreported =>
        refine ⟨iff_of_false (not_not.mpr rfl) (by simp [unreported]), ?_⟩
        intro reported
        rw [unreported] at reported
        cases reported
  · intro ctx free
    let summary := (ledger world.state).totals.summary
    obtain ⟨after, ran⟩ := run_metrics keeps free
    obtain ⟨total, successes⟩
        : summary.totalRequests = _ ∧ summary.successfulRequests = _ :=
      history.totals keeps
    refine ⟨summary, after, ran, total, successes, ?_, ?_, ?_⟩
    · rw [successes]
      exact Int.natCast_nonneg _
    · have fewer
          : episodes.countP (fun episode => isStored episode.result && isPraised episode.trace)
            ≤ episodes.countP (isStored ·.result) :=
        List.countP_mono_left fun episode _ both => (Bool.and_eq_true_iff.mp both).1
      rw [successes, total]
      exact Int.ofNat_le.mpr fewer
    · -- A rate of nothing is not a quotient, but zero by definition.
      intro nothing
      have uncounted : ¬ 0 < (ledger world.state).totals.count := by
        rw [show (ledger world.state).totals.count = 0 from nothing]
        exact Int.lt_irrefl 0
      exact if_neg uncounted

/-- The collaborators kept in memory keep a ledger. -/
theorem environment_keepsLedger (verdict : Except ScorerFault Verdict) (wall : Instant → Timestamp)
    (name : Nat → String)
    : KeepsLedger (InMemory.environment verdict wall name) InMemory.ledger := by
  refine ⟨⟨fun request now state => rfl, ?_⟩, fun record now state => rfl, ?_, ?_, ?_⟩
  · intro request now state instant noSave
    cases request with
    | storeSave record => exact absurd rfl (noSave record)
    | cacheGet key => rfl
    | _ => rfl
  · exact fun record now state instant => .inl rfl
  · exact fun now state => ⟨rfl, rfl⟩
  · exact fun now state instant => rfl

/-- Collaborators in memory with a scorer that reports success. -/
def approving : Environment Call Reply InMemory :=
  InMemory.environment (.ok ⟨true, .zero, ""⟩) (fun _ => .epoch) Service.unary

/-- A verification of an empty image. -/
def verifyEmpty (userId : String) (world : World Call InMemory)
    : Option (Except StageFailure VerificationOutcome) × World Call InMemory :=
  (verify .background userId []).run approving none world

/-- When the same image is verified twice, one request is counted. -/
theorem durable_ledger_twice
    : ∃ summary after,
        (metrics .background).run approving none
            (verifyEmpty "alice" (verifyEmpty "alice" (.start .empty)).2).2
          = (some (.ok summary), after)
        ∧ summary.totalRequests = 1
        ∧ summary.successfulRequests = 1 := by
  have first : ∃ outcome, (verifyEmpty "alice" (.start .empty)).1 = some (.ok outcome) := ⟨_, rfl⟩
  obtain ⟨outcome, first⟩ := first
  have second : (verifyEmpty "alice" (verifyEmpty "alice" (.start .empty)).2).1
      = some (.error (.failed "save_log" "rr" (.store Ledger.imageConflict))) := by
    decide +kernel
  have praised : isPraised
      ((verify .background "alice" []).exchanges approving none (.start .empty)) = true := by
    decide +kernel
  have nothing : History approving InMemory.ledger [] (.start .empty) := .start rfl
  have twice := (nothing.next first).next second
  obtain ⟨-, summed⟩ := durable_ledger (environment_keepsLedger _ _ _) twice
  obtain ⟨summary, after, ran, total, successes, -⟩ := summed .background rfl
  refine ⟨summary, after, ran, ?_, ?_⟩
  · simpa [isStored, OperationFailure.failed] using total
  · simpa [isStored, OperationFailure.failed, praised] using successes

end Verification

end ImageVerification
