import Mathlib.Logic.Function.Basic
import ImageVerification.Proofs.Flow.Asks
import ImageVerification.Proofs.Service.Turns
import ImageVerification.Proofs.Verification.Conflicts

/-! Verifications that take turns at one store and one cache in memory. -/

namespace ImageVerification

namespace Ledger

/-- No two records clash. -/
def Distinct (ledger : Ledger) : Prop := ledger.records.Pairwise fun a b => ¬ a.Clashes b

/-- The image with a fingerprint is on record for a user. -/
def Holds (ledger : Ledger) (userId fingerprint : String) : Prop :=
  ∃ record ∈ ledger.records, record.userId = userId ∧ record.fingerprint = fingerprint

end Ledger

namespace Service

open Collaborator Verification

/-- An image that a user hands in to be verified. -/
structure Submission where
  ctx : Context
  userId : String
  image : Bytes

def Submission.fingerprint (submission : Submission) : String :=
  Fingerprint.ofImage submission.image

/-- Whether a submission is for the user's image with a fingerprint. -/
def Submission.isFor (userId fingerprint : String) (submission : Submission) : Bool :=
  submission.userId == userId && submission.fingerprint == fingerprint

/-- A verification on its way: what the store has answered to its saves, and what it has left to do.
-/
structure Contender where
  answers : List (Except StoreFault Unit)
  rest : Action (Except StageFailure VerificationOutcome)

/-- Submissions by number and the names that they are given, over a store and a cache; no records
clash, and no name has been used for one.
-/
structure Contest where
  submission : Nat → Submission
  name : Nat → String
  backends : InMemory
  distinct : backends.ledger.Distinct
  injective : Function.Injective name
  fresh : ∀ record ∈ backends.ledger.records, ∀ number, record.requestId ≠ name number

/-- What a reply tells of a save. -/
def savesHeard : (request : Call) → Reply request → List (Except StoreFault Unit)
  | .storeSave _, reply => [reply]
  | _, _ => []

/-- What a turn tells of a save: what the store answers, if the turn is for one and not interrupted.
-/
def Turn.heard {α : Type} (turn : Turn) (backends : InMemory)
    : Action α → List (Except StoreFault Unit)
  | .call _ request _ =>
      match turn.interrupt with
      | some _ => []
      | none => savesHeard request (backends.answer turn.verdict turn.instant request).1
  | _ => []

/-- A turn of a contender is one of what it has left to do, and tells it of its save. -/
def Contender.take (turn : Turn) (name : String) (backends : InMemory) (contender : Contender)
    : InMemory × Contender :=
  let (after, rest) := turn.take name backends contender.rest
  (after, ⟨contender.answers ++ turn.heard backends contender.rest, rest⟩)

namespace Contender

variable {turn : Turn} {name : String} {backends : InMemory}
  {answers : List (Except StoreFault Unit)} {ctx : Context}
  {rest : Action (Except StageFailure VerificationOutcome)}

/-- A turn that tells nothing of a save leaves the answers as they are. -/
theorem take_of_unheard (unheard : turn.heard backends rest = [])
    : take turn name backends ⟨answers, rest⟩
      = ((turn.take name backends rest).1, ⟨answers, (turn.take name backends rest).2⟩) := by
  simp only [take, unheard, List.append_nil]

theorem take_call_interrupted {request : Call}
    {next : Except Interrupt (Reply request) → Action (Except StageFailure VerificationOutcome)}
    {kind : Interrupt} (lost : turn.interrupt = some kind)
    : take turn name backends ⟨answers, .call ctx request next⟩
      = (backends, ⟨answers, next (.error kind)⟩) := by
  rw [take_of_unheard (by simp only [Turn.heard, lost]), Turn.take_call_interrupted lost]

/-- A contender whose call is answered hears of its save, if the call was one. -/
theorem take_call_answered {request : Call}
    {next : Except Interrupt (Reply request) → Action (Except StageFailure VerificationOutcome)}
    (heard : turn.interrupt = none)
    : take turn name backends ⟨answers, .call ctx request next⟩
      = ((backends.answer turn.verdict turn.instant request).2,
          ⟨answers
              ++ savesHeard request (backends.answer turn.verdict turn.instant request).1,
            next (.ok (backends.answer turn.verdict turn.instant request).1)⟩) := by
  simp only [take, Turn.take_call_answered heard, Turn.heard, heard]

end Contender

/-- The backends and the contenders at some point of a contest. -/
structure Standings where
  backends : InMemory
  contenders : Nat → Contender

namespace Contest

/-- Before the first turn, nothing has been done. -/
def start (contest : Contest) : Standings :=
  ⟨contest.backends, fun number =>
    let submission := contest.submission number
    ⟨[], verify submission.ctx submission.userId submission.image⟩⟩

def next (contest : Contest) (standings : Standings) (turn : Turn) : Standings :=
  let (backends, contender) :=
    (standings.contenders turn.number).take turn (contest.name turn.number) standings.backends
  ⟨backends, Function.update standings.contenders turn.number contender⟩

def play (contest : Contest) (standings : Standings) (turns : List Turn) : Standings :=
  turns.foldl contest.next standings

section Alone

variable {contest : Contest} {standings : Standings} {number : Nat}
  {rest : Action (Except StageFailure VerificationOutcome)}
  {result : Except StageFailure VerificationOutcome} {backends : InMemory}
  {world after : World Call InMemory}

/-- What the verification of a number has left to do, and the backends over which it does it. -/
structure GoesOn (standings : Standings) (number : Nat)
    (rest : Action (Except StageFailure VerificationOutcome)) (backends : InMemory)
    : Prop where
  rest : (standings.contenders number).rest = rest
  backends : standings.backends = backends

/-- By turns of its own alone, the verification of a number comes to a result. -/
def ComesTo (contest : Contest) (standings : Standings) (number : Nat)
    (result : Except StageFailure VerificationOutcome) (backends : InMemory) : Prop :=
  ∃ turns : List Turn,
    (∀ turn ∈ turns, turn.number = number)
    ∧ GoesOn (contest.play standings turns) number (.done result) backends

/-- A turn of its own takes a verification on as it takes its flow on. -/
theorem GoesOn.next (turn : Turn) (goesOn : GoesOn standings turn.number rest backends)
    : GoesOn (contest.next standings turn) turn.number
        (turn.take (contest.name turn.number) backends rest).2
        (turn.take (contest.name turn.number) backends rest).1 := by
  obtain ⟨rfl, rfl⟩ := goesOn
  exact ⟨by simp [Contest.next, Contender.take], by simp [Contest.next, Contender.take]⟩

/-- So do turns of its own in a row, by induction on them. -/
theorem GoesOn.play {turns : List Turn} (goesOn : GoesOn standings number rest backends)
    (own : ∀ turn ∈ turns, turn.number = number)
    : GoesOn (contest.play standings turns) number
        (takeAll (contest.name number) turns backends rest).2
        (takeAll (contest.name number) turns backends rest).1 := by
  induction turns generalizing standings rest backends with
  | nil => exact goesOn
  | cons turn turns ih =>
      obtain ⟨rfl, owns⟩ := List.forall_mem_cons.mp own
      exact ih (goesOn.next turn) owns

/-- Running what a verification has left to do is a sequence of turns. -/
theorem comesTo_of_run {verdict : Except ScorerFault Verdict} {wall : Instant → Timestamp}
    (ran : rest.run (InMemory.environment verdict wall fun _ => contest.name number) none world
      = (some result, after))
    (goesOn : GoesOn standings number rest world.state)
    : contest.ComesTo standings number result after.state := by
  obtain ⟨turns, own, comes⟩ := turns_of_run number ran
  have done : GoesOn (contest.play standings turns) number _ _ := goesOn.play own
  rw [comes] at done
  exact ⟨turns, own, done⟩

/-- A verification that is run on its own takes turns as in a contest. -/
theorem comesTo_of_run_alone {verdict : Except ScorerFault Verdict} {wall : Instant → Timestamp}
    {submission : Submission} (submitted : contest.submission number = submission)
    (begins : world.state = contest.backends)
    (ran : (verify submission.ctx submission.userId submission.image).run
        (InMemory.environment verdict wall fun _ => contest.name number) none world
      = (some result, after))
    : contest.ComesTo contest.start number result after.state :=
  comesTo_of_run ran ⟨by simp only [start, submitted], begins.symm⟩

end Alone

end Contest

/-! What a verification does in a contest, seen from what it has left to do. -/

/-- Calls that are answered the same, whatever is stored and cached. -/
inductive Blind : Call → Prop where
  | cacheSet {key value : String} {ttl : Duration} : Blind (.cacheSet key value ttl)
  | score {userId : String} {image : Bytes} {deadline : Option Instant}
      : Blind (.score userId image deadline)

variable {α β : Type}

/-- Nothing is left but blind calls, whatever comes of them. -/
def KeepsAside : Action α → Prop
  | .done _ => True
  | .call _ request next => Blind request ∧ ∀ reply, KeepsAside (next reply)
  | .sleep _ _ next => ∀ reply, KeepsAside (next reply)
  | .now next => ∀ reading, KeepsAside (next reading)
  | .fresh next => ∀ name, KeepsAside (next name)
  | .log _ next => KeepsAside next

/-- Nothing is left but to log, and to return a result. -/
inductive Concludes (result : α) : Action α → Prop where
  | done : Concludes result (.done result)
  | log {event : Event} {next : Action α} (concludes : Concludes result next)
      : Concludes result (.log event next)

/-- What a verification says that has been refused by the store. -/
def refusal (name : String) (fault : StoreFault) : Except StageFailure VerificationOutcome :=
  .error (.failed "save_log" name (.store fault))

/-- A record is that of a submission under its name. -/
structure IsRecordOf (submission : Submission) (name : String) (record : Record) : Prop where
  named : record.requestId = name
  owned : record.userId = submission.userId
  ofImage : record.fingerprint = submission.fingerprint

/-- What is left are blind calls and, on each course, at most one save: that of the submission's
record. Once it is stored or the save is interrupted, the verification keeps aside; once it is
refused for good, the verification says so.
-/
inductive Bids (submission : Submission) (name : String)
    : Action (Except StageFailure VerificationOutcome) → Prop where
  | done {result : Except StageFailure VerificationOutcome} : Bids submission name (.done result)
  | save {ctx : Context} {record : Record}
      {next : Except Interrupt (Except StoreFault Unit)
        → Action (Except StageFailure VerificationOutcome)}
      (own : IsRecordOf submission name record) (stored : KeepsAside (next (.ok (.ok ()))))
      (refused : ∀ fault, fault.transient = false
        → Concludes (refusal name fault) (next (.ok (.error fault))))
      (interrupted : ∀ kind, KeepsAside (next (.error kind)))
      : Bids submission name (.call ctx (.storeSave record) next)
  | call {ctx : Context} {request : Call}
      {next : Except Interrupt (Reply request) → Action (Except StageFailure VerificationOutcome)}
      (blind : Blind request) (later : ∀ reply, Bids submission name (next reply))
      : Bids submission name (.call ctx request next)
  | sleep {ctx : Context} {span : Duration}
      {next : Except Interrupt Unit → Action (Except StageFailure VerificationOutcome)}
      (later : ∀ reply, Bids submission name (next reply))
      : Bids submission name (.sleep ctx span next)
  | now {next : Reading → Action (Except StageFailure VerificationOutcome)}
      (later : ∀ reading, Bids submission name (next reading)) : Bids submission name (.now next)
  | fresh {next : String → Action (Except StageFailure VerificationOutcome)}
      (later : Bids submission name (next name)) : Bids submission name (.fresh next)
  | log {event : Event} {next : Action (Except StageFailure VerificationOutcome)}
      (later : Bids submission name next) : Bids submission name (.log event next)

/-- To keep aside is to ask for nothing but blind calls. -/
theorem keepsAside_iff {flow : Action α} : KeepsAside flow ↔ flow.Asks Blind fun _ => True := by
  induction flow with
  | done result => exact Iff.rfl
  | call ctx request rest ih => exact and_congr_right fun _ => forall_congr' ih
  | sleep ctx span rest ih => exact forall_congr' ih
  | now rest ih => exact forall_congr' ih
  | fresh rest ih => exact forall_congr' fun name => (ih name).trans (true_imp_iff).symm
  | log event rest ih => exact ih

/-- A flow in two parts keeps aside if both parts do. -/
theorem KeepsAside.bind {flow : Action α} {f : α → Action β} (keeps : KeepsAside flow)
    (next : ∀ result, KeepsAside (f result))
    : KeepsAside (flow.bind f) :=
  keepsAside_iff.mpr ((keepsAside_iff.mp keeps).bind fun result => keepsAside_iff.mp (next result))

section Bidding

variable {submission : Submission} {name : String}

/-- What goes before a bid keeps aside. -/
theorem bids_bind {flow : Action α} {f : α → Action (Except StageFailure VerificationOutcome)}
    (keeps : KeepsAside flow) (next : ∀ result, Bids submission name (f result))
    : Bids submission name (flow.bind f) := by
  induction flow with
  | done result => exact next result
  | call ctx request rest ih => exact .call keeps.1 fun reply => ih reply (keeps.2 reply)
  | sleep ctx span rest ih => exact .sleep fun reply => ih reply (keeps reply)
  | now rest ih => exact .now fun reading => ih reading (keeps reading)
  | fresh rest ih => exact .fresh (ih name (keeps name))
  | log event rest ih => exact .log (ih keeps)

theorem perform_keepsAside (ctx : Context) {request : Call} (blind : Blind request)
    : KeepsAside (Flow.perform ctx request : Action (Except Interrupt (Reply request))) :=
  ⟨blind, fun _ => trivial⟩

/-- To write the cache is to keep aside, however often it is tried. -/
theorem set_keepsAside (ctx : Context) (task : Task) (key value : String) (ttl : Duration)
    : KeepsAside (CacheAside.set ctx task key value ttl) :=
  keepsAside_iff.mpr
    (RetryPlan.repeatAttempts_asks .cache ctx task fun ctx => Flow.perform_asks ctx .cacheSet)

/-- What is done after a save keeps aside: the snapshot is cached, and that is all. -/
theorem cacheResult_keepsAside (ctx : Context) (verdict : Verdict) (record : Record)
    : KeepsAside (cacheResult ctx verdict record) := by
  refine (set_keepsAside ctx _ _ _ _).bind ?_
  intro outcome
  cases outcome with
  | error failure => trivial
  | ok done => trivial

/-- The first answer to a save ends the attempts at it, unless the save might yet succeed. -/
theorem saveRecord_bids (ctx : Context) (verdict : Verdict) {record : Record}
    (own : IsRecordOf submission name record)
    : Bids submission name (saveRecord ctx verdict record) := by
  refine .save own ?_ ?_ ?_
  · exact cacheResult_keepsAside ctx verdict record
  · intro fault lasting
    obtain rfl := own.named
    show Concludes _ ((RetryPlan.settle _ 1 _ (.ok (.error fault))).bind _)
    simp only [RetryPlan.settle, show isTransient fault = false from lasting]
    exact .log (.log .done)
  · intro kind
    trivial

/-- Once an image is scored, its record is bid with; if it cannot be scored, nothing is. -/
theorem scoreImage_bids (ctx : Context)
    : Bids submission name (scoreImage ctx name submission.userId submission.image) := by
  refine .now fun started => ?_
  show Bids submission name ((Flow.perform ctx (.score _ _ ctx.deadline)).bind _)
  refine bids_bind (perform_keepsAside ctx .score) ?_
  intro reply
  match reply with
  | .error kind => exact .log .done
  | .ok (.error fault) => exact .log .done
  | .ok (.ok verdict) => exact .now fun finished => saveRecord_bids ctx verdict ⟨rfl, rfl, rfl⟩

/-- A verification bids with one record, under the name that it draws at the start. Witness: only
blind calls come before its save.
-/
theorem verify_bids (submission : Submission) (name : String)
    : Bids submission name (verify submission.ctx submission.userId submission.image) := by
  refine .fresh ?_
  show Bids submission name ((CacheAside.set submission.ctx _ _ _ _).bind _)
  refine bids_bind (set_keepsAside submission.ctx _ _ _ _) ?_
  intro outcome
  cases outcome with
  | error failure => exact .log .done
  | ok done => exact scoreImage_bids submission.ctx

end Bidding

end Service

end ImageVerification
