import Mathlib.Data.Set.Insert
import ImageVerification.InMemory
import ImageVerification.Proofs.Verification.Saves

/-! What a reported conflict says about the store. Saves are repeated when they fail in passing,
and a store may lose the reply to a save that it has carried out; the next attempt then runs into
the record of the one before.
-/

namespace ImageVerification

open Collaborator ImageVerification.Flow

/-- Two records that a store does not hold together. -/
def Record.Clashes (a b : Record) : Prop :=
  a.requestId = b.requestId ∨ a.userId = b.userId ∧ a.fingerprint = b.fingerprint

/-- Nothing stands in the way of a record. -/
def Unopposed (rows : Set Record) (record : Record) : Prop :=
  ∀ other ∈ rows, ¬ other.Clashes record

/-- A record that nothing opposes is not held yet, since it would oppose itself. -/
theorem Unopposed.not_mem {rows : Set Record} {record : Record} (free : Unopposed rows record)
    : record ∉ rows :=
  fun held => free record held (.inl rfl)

/-- What comes of a save: what the store replies and what it holds afterwards. Only a clash makes it
report a conflict, and what it reports to have failed in passing may have been carried out.
-/
inductive Saved (record : Record) (rows : Set Record)
    : Except StoreFault Unit → Set Record → Prop where
  | stored (free : Unopposed rows record) : Saved record rows (.ok ()) (insert record rows)
  | refused {other : Record} {detail : String} (held : other ∈ rows) (clash : other.Clashes record)
      : Saved record rows (.error (.conflict detail)) rows
  | failed {fault : StoreFault} (otherwise : fault.isConflict = false)
      : Saved record rows (.error fault) rows
  | unheard {fault : StoreFault} (free : Unopposed rows record) (passing : fault.transient = true)
      : Saved record rows (.error fault) (insert record rows)

variable {σ : Type} {env : Environment Call Reply σ} {rows : σ → Set Record} {record : Record}

/-- A store that holds no clashing records, whatever goes wrong otherwise. -/
structure EnforcesUniqueness (env : Environment Call Reply σ) (rows : σ → Set Record) : Prop
    extends ChangedBySaves env rows where
  saves :
    ∀ record now state instant,
      Saved record (rows state) (env.carryOut (.storeSave record) now state instant).1
        (rows (env.carryOut (.storeSave record) now state instant).2)

/-- A save has added its record and is reported to have failed in passing. -/
def LosesInsert (rows : σ → Set Record) (exchange : Exchange Call Reply σ) : Prop :=
  ∃ record fault,
    exchange.request = .storeSave record
    ∧ exchange.ending = .failed fault
    ∧ fault.transient = true
    ∧ record ∉ rows exchange.before.state
    ∧ record ∈ rows exchange.after.state

/-- An insert that is lost did change the rows. -/
theorem LosesInsert.changes {exchange : Exchange Call Reply σ} (loses : LosesInsert rows exchange)
    : rows exchange.after.state ≠ rows exchange.before.state := by
  obtain ⟨record, fault, -, -, -, before, after⟩ := loses
  intro same
  exact before (same ▸ after)

/-- Without saves no insert is lost. -/
theorem NoSaves.not_losesInsert {trace : List (Exchange Call Reply σ)} (noSaves : NoSaves trace)
    : ∀ exchange ∈ trace, ¬ LosesInsert rows exchange := by
  intro exchange member loses
  obtain ⟨record, fault, asked, -⟩ := loses
  exact noSaves exchange member record asked

/-- What the store has turned away is not asked for again. -/
theorem StageFault.transient_of_isConflict {fault : StageFault} (conflict : fault.isConflict = true)
    : fault.transient = false := by
  match fault with
  | .store (.conflict detail) => rfl

/-- A failed save leaves things as they are, for a clash if it reports a conflict, or it loses its
insert.
-/
theorem EnforcesUniqueness.save_failed (enforces : EnforcesUniqueness env rows)
    {exchange : Exchange Call Reply σ} {fault : StageFault} (occurs : Occurs env exchange)
    (asked : exchange.request = .storeSave record) (failed : exchange.ending = .failed fault)
    : rows exchange.after.state = rows exchange.before.state
        ∧ (fault.isConflict = true → ¬ Unopposed (rows exchange.before.state) record)
      ∨ fault.transient = true
        ∧ Unopposed (rows exchange.before.state) record
        ∧ rows exchange.after.state = insert record (rows exchange.before.state) := by
  obtain ⟨own, instant, rfl, took⟩ := occurs.save_failed asked failed
  have saved := enforces.saves record exchange.before.clock exchange.before.state instant
  rw [took] at saved
  generalize rows exchange.after.state = left at saved
  cases saved with
  | refused held clash => exact .inl ⟨rfl, fun _ free => free _ held clash⟩
  | failed otherwise =>
      have noConflict : (StageFault.store own).isConflict ≠ true := by
        simp [StageFault.isConflict, otherwise]
      exact .inl ⟨rfl, fun conflict => absurd conflict noConflict⟩
  | unheard free passing => exact .inr ⟨passing, free, rfl⟩

/-- Whether exchanges have added a record, and whether one of them has lost its insert. -/
inductive SaveEffect (rows : σ → Set Record) (record : Record)
    (trace : List (Exchange Call Reply σ)) (first last : σ)
    : Prop where
  | none (same : rows last = rows first) (heard : ∀ exchange ∈ trace, ¬ LosesInsert rows exchange)
  | unheard (free : Unopposed (rows first) record) (added : rows last = insert record (rows first))
      (lost : ∃ exchange ∈ trace, LosesInsert rows exchange)

/-- Once a record has been added, it is not added again. -/
theorem SaveEffect.append {early late : List (Exchange Call Reply σ)} {first middle last : σ}
    (before : SaveEffect rows record early first middle)
    (rest : SaveEffect rows record late middle last)
    : SaveEffect rows record (early ++ late) first last := by
  cases before with
  | none same heard =>
      cases rest with
      | none sameLater heardLater =>
          refine .none (sameLater.trans same) ?_
          intro exchange member
          rcases List.mem_append.mp member with member | member
          · exact heard exchange member
          · exact heardLater exchange member
      | unheard free added lost =>
          rw [same] at free added
          obtain ⟨exchange, member, loses⟩ := lost
          exact .unheard free added ⟨exchange, List.mem_append_right _ member, loses⟩
  | unheard free added lost =>
      obtain ⟨exchange, member, loses⟩ := lost
      cases rest with
      | none sameLater _ =>
          exact .unheard free (sameLater.trans added)
            ⟨exchange, List.mem_append_left _ member, loses⟩
      -- What the first part has added would oppose the second.
      | unheard freeLater _ _ =>
          have held : record ∈ rows middle := added ▸ Set.mem_insert record _
          exact absurd held freeLater.not_mem

/-- A save that fails in one attempt had no effect, or its own effect with the reply lost. -/
theorem EnforcesUniqueness.save_effect (enforces : EnforcesUniqueness env rows)
    {exchange : Exchange Call Reply σ} {fault : StageFault} (occurs : Occurs env exchange)
    (asked : exchange.request = .storeSave record) (failed : exchange.ending = .failed fault)
    : SaveEffect rows record [exchange] exchange.before.state exchange.after.state := by
  rcases enforces.save_failed occurs asked failed with ⟨same, -⟩ | ⟨passing, free, added⟩
  · refine .none same ?_
    intro other member loses
    rw [List.mem_singleton.mp member] at loses
    exact loses.changes same
  · have held : record ∈ rows exchange.after.state := added ▸ Set.mem_insert record _
    exact .unheard free added
      ⟨exchange, List.mem_singleton_self _,
        record, fault, asked, failed, passing, free.not_mem, held⟩

/-- Attempts at saving that have failed in passing, by induction on them. -/
theorem EnforcesUniqueness.saves_effect (enforces : EnforcesUniqueness env rows)
    {failures : List (Exchange Call Reply σ)} {first last : σ}
    (linked : Linked env first failures last)
    (passing : FailedInPassing (.storeSave record) failures)
    : SaveEffect rows record failures first last := by
  induction failures generalizing first with
  | nil =>
      obtain rfl : last = first := linked
      exact .none rfl fun _ member => absurd member List.not_mem_nil
  | cons exchange rest ih =>
      obtain ⟨rfl, occurs, later⟩ := linked
      obtain ⟨asked, fault, failed, -⟩ := passing exchange List.mem_cons_self
      have others := ih later fun other member => passing other (List.mem_cons_of_mem _ member)
      exact (enforces.save_effect occurs asked failed).append others

namespace Verification

variable {ctx : Context} {now : Instant} {limit : Option Instant} {userId : String} {image : Bytes}
  {failure : StageFailure} {world after : World Call σ}

/-- A conflict is reported of the last save, which has changed nothing because a record stands in
its way. Unless that was there from the start, it is what an earlier save has added.
-/
theorem SaveStages.conflict (enforces : EnforcesUniqueness env rows) {verdict : Verdict}
    {trace : List (Exchange Call Reply σ)} {first last : σ}
    (stages : SaveStages ctx verdict record now trace (some (.error failure)))
    (conflict : failure.fault?.any StageFault.isConflict = true)
    (linked : Linked env first trace last)
    : failure.correlationId = record.requestId
      ∧ SaveEffect rows record trace first last
      ∧ (rows last = rows first → ¬ Unopposed (rows first) record) := by
  cases stages with
  | stopped repeats notPassed reports =>
      rcases stopped_cases repeats notPassed reports with unreported | ⟨own, same, -, named, caused⟩
      · cases unreported
      cases same
      obtain ⟨fault, found, isConflict⟩ := (Option.any_eq_true _ _).mp conflict
      obtain ⟨earlier, final, rfl, passing, asked, failed⟩ := caused fault found
      obtain ⟨middle, before, rfl, occurs, rfl⟩ := linked.split
      -- The last save reports the conflict; those before it have failed in passing.
      have effect :=
        (enforces.saves_effect before passing).append (enforces.save_effect occurs asked failed)
      refine ⟨named, effect, ?_⟩
      rcases enforces.save_failed occurs asked failed with ⟨same, opposed⟩ | ⟨transient, -⟩
      · intro unchanged
        rw [← same.symm.trans unchanged]
        exact opposed isConflict
      · rw [StageFault.transient_of_isConflict isConflict] at transient
        cases transient
  | passed passing few asked succeeded later =>
      -- Once the record is saved, only the cache is called.
      cases later with
      | stopped repeats notPassed reports =>
          have noConflict := stopped_without_conflict repeats notPassed reports
            (fun _ _ => Exchange.isConflict_cacheSet) rfl
          rw [noConflict] at conflict
          cases conflict
      | passed passing few asked succeeded later => cases later.2

/-- The user's record of an image, from another request. -/
def HoldsDuplicate (rows : Set Record) (userId : String) (image : Bytes) (requestId : String)
    : Prop :=
  ∃ earlier ∈ rows,
    earlier.userId = userId
    ∧ earlier.fingerprint = Fingerprint.ofImage image
    ∧ earlier.requestId ≠ requestId

/-- Under a fresh request id, a duplicate is what stands in the way of the record. -/
theorem holdsDuplicate_iff {rows : Set Record} {requestId : String}
    (fresh : ∀ earlier ∈ rows, earlier.requestId ≠ requestId) (named : record.requestId = requestId)
    (owned : record.userId = userId) (ofImage : record.fingerprint = Fingerprint.ofImage image)
    : HoldsDuplicate rows userId image requestId ↔ ¬ Unopposed rows record := by
  constructor
  · intro holds free
    obtain ⟨earlier, held, sameUser, sameImage, -⟩ := holds
    exact free earlier held (.inr ⟨sameUser.trans owned.symm, sameImage.trans ofImage.symm⟩)
  · intro opposed
    simp only [Unopposed, not_forall, not_not] at opposed
    obtain ⟨earlier, held, sameRequest | ⟨sameUser, sameImage⟩⟩ := opposed
    · exact absurd (sameRequest.trans named) (fresh earlier held)
    · exact ⟨earlier, held, sameUser.trans owned, sameImage.trans ofImage, fresh earlier held⟩

/-- A verification that reports a conflict has met an earlier record of the user's image exactly
when none of its saves has lost its insert. Otherwise it is its own record that it reports as a
conflict, and the store goes on holding it.
-/
theorem conflict_genuine_iff (enforces : EnforcesUniqueness env rows)
    (fresh : ∀ earlier ∈ rows world.state, earlier.requestId ≠ env.name world.named)
    (ran : (verify ctx userId image).run env limit world = (some (.error failure), after))
    (conflict : failure.fault?.any StageFault.isConflict = true)
    : let trace := (verify ctx userId image).exchanges env limit world
      let duplicate := HoldsDuplicate (rows world.state) userId image (env.name world.named)
      (duplicate ↔ ¬ ∃ exchange ∈ trace, LosesInsert rows exchange)
      ∧ (duplicate → rows after.state = rows world.state)
      ∧ (¬ duplicate →
          ∃ record,
            rows after.state = insert record (rows world.state)
            ∧ record.requestId = failure.correlationId
            ∧ record.userId = userId
            ∧ record.fingerprint = Fingerprint.ofImage image) := by
  intro trace duplicate
  have goes : Goes env limit (verify ctx userId image) world trace (some (.error failure)) after :=
    ⟨rfl, ran⟩
  -- Only the save can report a conflict: a stage before it gives up without one.
  rcases (verify_staged goes).cases with
    ⟨-, givesUp⟩ | ⟨lead, scored, verdict, rest, split, marks, tells, saves⟩
  · obtain ⟨_, ⟨⟩, -, noConflict⟩ := givesUp _ rfl
    rw [noConflict] at conflict
    cases conflict
  · let record := recordOf env.wall (env.name world.named) userId image verdict scored
    have linked := goes.conducted.linked
    rw [split] at linked
    -- The trace is split where the saving begins; before that the rows stay as they are.
    obtain ⟨middle, early, late⟩ := linked.split
    have noSaves := noSaves_before marks tells
    have kept : rows middle = rows world.state := enforces.linked early noSaves
    obtain ⟨named, effect, opposed⟩ := saves.conflict enforces conflict late
    have whole : SaveEffect rows record trace world.state after.state := by
      rw [show trace = _ from split]
      exact (SaveEffect.none kept noSaves.not_losesInsert).append effect
    -- The name is fresh, so that only a record of the same image can oppose.
    have holds : duplicate ↔ ¬ Unopposed (rows world.state) record :=
      holdsDuplicate_iff fresh rfl rfl rfl
    cases whole with
    | none same heard =>
        have duplicated : duplicate := by
          rw [holds, ← kept]
          exact opposed (same.trans kept.symm)
        refine ⟨iff_of_true duplicated ?_, fun _ => same, fun without => absurd duplicated without⟩
        intro lost
        obtain ⟨exchange, member, loses⟩ := lost
        exact heard exchange member loses
    | unheard free added lost =>
        -- The insert went through, so nothing opposed it: the conflict is with the record itself.
        have without : ¬ duplicate := fun duplicated => holds.mp duplicated free
        refine ⟨iff_of_false without (not_not.mpr lost), ?_, ?_⟩
        · exact fun duplicated => absurd duplicated without
        · exact fun _ => ⟨record, added, named.symm, rfl, rfl⟩

end Verification

/-- The ledger kept in memory holds no clashing records. -/
theorem Ledger.saved (ledger : Ledger) (record : Record)
    : Saved record {held | held ∈ ledger.records} (ledger.save record).1
        {held | held ∈ (ledger.save record).2.records} := by
  unfold save
  split
  · next sameRequest =>
      obtain ⟨other, held, same⟩ := List.any_eq_true.mp sameRequest
      exact .refused held (.inl (by simpa using same))
  · next newRequest =>
      split
      · next sameImage =>
          obtain ⟨other, held, same⟩ := List.any_eq_true.mp sameImage
          exact .refused held (.inr (by simpa using same))
      · next newImage =>
          have free : Unopposed {held | held ∈ ledger.records} record := by
            rintro other held (same | ⟨sameUser, sameImage⟩)
            · exact newRequest (List.any_eq_true.mpr ⟨other, held, by simpa using same⟩)
            · exact newImage (List.any_eq_true.mpr ⟨other, held, by simp [sameUser, sameImage]⟩)
          have added : {held | held ∈ ledger.records ++ [record]}
              = insert record {held | held ∈ ledger.records} := by
            ext held
            simp [or_comm]
          rw [added]
          exact .stored free

/-- The collaborators kept in memory, and whether a reply to a save has been lost. -/
structure Forgetful where
  backends : InMemory
  lost : Bool

namespace Forgetful

def records (state : Forgetful) : Set Record := {held | held ∈ state.backends.ledger.records}

/-- Carries out a call; the reply to the first save is lost with the connection. -/
def answer (now : Instant) (state : Forgetful) : (request : Call) → Reply request × Forgetful
  | .storeSave record =>
      let (reply, backends) := state.backends.answer (.ok ⟨true, .zero, ""⟩) now (.storeSave record)
      (if state.lost then reply else .error (.database (.connection .connectionReset)),
        ⟨backends, true⟩)
  | request =>
      let (reply, backends) := state.backends.answer (.ok ⟨true, .zero, ""⟩) now request
      (reply, { state with backends })

def environment (name : Nat → String) : Environment Call Reply Forgetful :=
  {
    accept := fun request _ state =>
      (⟨some 0, fun now state => state.answer now request, some 0⟩, state)
    wall := fun _ => .epoch
    name
  }

/-- These backends enforce uniqueness, also on the one save whose reply they lose. -/
theorem enforces (name : Nat → String) : EnforcesUniqueness (environment name) records := by
  refine ⟨⟨fun request now state => rfl, ?_⟩, ?_⟩
  · intro request now state instant noSave
    cases request with
    | storeSave record => exact absurd rfl (noSave record)
    | _ => rfl
  · intro record now state instant
    have saved := state.backends.ledger.saved record
    obtain ⟨⟨ledger, cache⟩, lost⟩ := state
    cases lost with
    | true => exact saved
    | false =>
        show Saved record {held | held ∈ ledger.records}
          (.error (.database (.connection .connectionReset)))
          {held | held ∈ (ledger.save record).2.records}
        generalize {held | held ∈ (ledger.save record).2.records} = left at saved ⊢
        generalize (ledger.save record).1 = reply at saved
        cases saved with
        | stored free => exact .unheard free rfl
        | refused held clash => exact .failed rfl
        | failed otherwise => exact .failed rfl
        | unheard free passing => exact .unheard free rfl

end Forgetful

/-- The verification of an image while nothing is stored and the first reply to a save is lost. -/
def forgottenOnce
    : Option (Except Verification.StageFailure VerificationOutcome) × World Call Forgetful :=
  (Verification.verify .background "alice" []).run (Forgetful.environment fun _ => "r") none
    (.start ⟨.empty, false⟩)

/-- When the reply to the first save is lost, a verification reports a conflict with the record that
it has just added to an empty store.
-/
theorem conflict_with_own_record
    : ∃ failure after,
        forgottenOnce = (some (.error failure), after)
        ∧ failure.fault?.any StageFault.isConflict = true
        ∧ ∃ record, after.state.records = {record} ∧ record.requestId = failure.correlationId := by
  have ran : forgottenOnce
      = (some (.error (.failed "save_log" "r" (.store (Ledger.requestConflict "r")))),
          forgottenOnce.2) :=
    Prod.ext (by decide +kernel) rfl
  have nothing : Forgetful.records ⟨.empty, false⟩ = ∅ := by
    simp [Forgetful.records, InMemory.empty, Ledger.empty]
  have noDuplicate (requestId : String)
      : ¬ Verification.HoldsDuplicate (Forgetful.records ⟨.empty, false⟩) "alice" [] requestId := by
    simp [nothing, Verification.HoldsDuplicate]
  have fresh : ∀ earlier ∈ Forgetful.records ⟨.empty, false⟩, earlier.requestId ≠ "r" := by
    simp [nothing]
  obtain ⟨-, -, own⟩ :=
    Verification.conflict_genuine_iff (Forgetful.enforces fun _ => "r") fresh ran rfl
  obtain ⟨record, added, named, -, -⟩ := own (noDuplicate _)
  refine ⟨_, _, ran, rfl, record, ?_, named⟩
  exact added.trans (nothing ▸ insert_empty_eq record)

end ImageVerification
