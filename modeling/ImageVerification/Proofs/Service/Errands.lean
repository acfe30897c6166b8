import ImageVerification.Proofs.Service.Contest

/-! Errands: what users ask of a service that reports duplicates among their owner's records only.

Errands take turns at one store and one cache in memory. What each of them asks of the store
concerns the records of its user alone.
-/

namespace ImageVerification.Service

open Collaborator Verification

inductive Request where
  | verify (image : Bytes)
  | report (requestId : String)

structure Errand where
  ctx : Context
  userId : String
  request : Request

def Errand.operation (errand : Errand) : Operation :=
  match errand.request with
  | .verify image => .verify errand.userId image
  | .report requestId => .duplicateReport .owner errand.userId requestId

def Errand.flow (errand : Errand) : Action Answer := errand.operation.flow errand.ctx

/-- Errands by number and the names that they are given, over an empty store and some cache. -/
structure Agenda where
  errand : Nat → Errand
  name : Nat → String
  injective : Function.Injective name
  cache : ExpiringMap

/-- The backends, and what each errand has left to do. -/
structure Affairs where
  backends : InMemory
  rest : Nat → Action Answer

namespace Agenda

variable {agenda : Agenda} {affairs : Affairs} {number : Nat}

/-- Whether an errand is run for a user. -/
def isOf (agenda : Agenda) (userId : String) (number : Nat) : Bool :=
  (agenda.errand number).userId == userId

theorem isOf_iff {userId : String}
    : agenda.isOf userId number = true ↔ (agenda.errand number).userId = userId := by
  simp [isOf]

def start (agenda : Agenda) : Affairs :=
  ⟨⟨.empty, agenda.cache⟩, fun number => (agenda.errand number).flow⟩

def next (agenda : Agenda) (affairs : Affairs) (turn : Turn) : Affairs :=
  let (backends, left) :=
    turn.take (agenda.name turn.number) affairs.backends (affairs.rest turn.number)
  ⟨backends, Function.update affairs.rest turn.number left⟩

def play (agenda : Agenda) (affairs : Affairs) (turns : List Turn) : Affairs :=
  turns.foldl agenda.next affairs

/-- Turns of one errand alone are turns of its flow, by induction on the turns. -/
theorem play_own {turns : List Turn} (own : ∀ turn ∈ turns, turn.number = number)
    : (agenda.play affairs turns).backends
        = (takeAll (agenda.name number) turns affairs.backends (affairs.rest number)).1
      ∧ (agenda.play affairs turns).rest number
        = (takeAll (agenda.name number) turns affairs.backends (affairs.rest number)).2 := by
  induction turns generalizing affairs with
  | nil => exact ⟨rfl, rfl⟩
  | cons turn turns ih =>
      obtain ⟨rfl, owns⟩ := List.forall_mem_cons.mp own
      have later := @ih (agenda.next affairs turn) owns
      have moved : (agenda.next affairs turn).rest turn.number
          = (turn.take (agenda.name turn.number) affairs.backends (affairs.rest turn.number)).2 :=
        Function.update_self ..
      rw [moved] at later
      exact later

/-- An errand that is run on its own takes turns as among others, and comes to the same answer. -/
theorem play_of_run {verdict : Except ScorerFault Verdict} {wall : Instant → Timestamp}
    {answer : Answer} {world after : World Call InMemory}
    (begins : world.state = affairs.backends)
    (ran : (affairs.rest number).run
        (InMemory.environment verdict wall fun _ => agenda.name number) none world
      = (some answer, after))
    : ∃ turns : List Turn,
        (∀ turn ∈ turns, turn.number = number)
        ∧ (agenda.play affairs turns).backends = after.state
        ∧ (agenda.play affairs turns).rest number = .done answer := by
  obtain ⟨turns, own, comes⟩ := turns_of_run number ran
  obtain ⟨backends, rest⟩ := @play_own agenda affairs number turns own
  rw [← begins, comes] at backends rest
  exact ⟨turns, own, backends, rest⟩

end Agenda

/-- What may be asked for on behalf of a user by who has been given a name: records of the user are
saved under that name, and looked for.
-/
inductive Concerns (userId name : String) : Call → Prop where
  | blind {request : Call} (blind : Blind request) : Concerns userId name request
  | save {record : Record} (owned : record.userId = userId) (named : record.requestId = name)
      : Concerns userId name (.storeSave record)
  | find {requestId : String} : Concerns userId name (.storeFind requestId userId)
  | duplicates {fingerprint : String} {exclude : Option String}
      : Concerns userId name (.storeDuplicates (some userId) fingerprint exclude)

/-- Whatever comes of its calls, a flow that is given a name concerns a user only. -/
abbrev MindsOwn {α : Type} (userId name : String) (flow : Action α) : Prop :=
  flow.Asks (Concerns userId name) (· = name)

section Minding

variable {userId name : String} {ctx : Context}

/-- Whatever is written into the cache, the records of others are left alone. -/
theorem set_mindsOwn (task : Task) (key value : String) (ttl : Duration)
    : MindsOwn userId name (CacheAside.set ctx task key value ttl) :=
  RetryPlan.repeatAttempts_asks .cache ctx task fun ctx => Flow.perform_asks ctx (.blind .cacheSet)

theorem cacheResult_mindsOwn (verdict : Verdict) (record : Record)
    : MindsOwn userId name (cacheResult ctx verdict record) := by
  refine (set_mindsOwn _ _ _ _).bind ?_
  intro outcome
  cases outcome with
  | error failure => trivial
  | ok done => trivial

/-- A user's record is saved under the user's own name, and nothing else is done to the store. -/
theorem saveRecord_mindsOwn (verdict : Verdict) {record : Record} (owned : record.userId = userId)
    (named : record.requestId = name)
    : MindsOwn userId name (saveRecord ctx verdict record) := by
  have saved : MindsOwn userId name (Repository.save ctx record) :=
    RetryPlan.repeatAttempts_asks .store ctx _ fun ctx => Flow.perform_asks ctx (.save owned named)
  refine saved.bind ?_
  intro outcome
  cases outcome with
  | error failure => trivial
  | ok done => exact cacheResult_mindsOwn verdict record

/-- To score an image, the store is asked nothing. -/
theorem scoreImage_mindsOwn (image : Bytes)
    : MindsOwn userId name (scoreImage ctx name userId image) := by
  intro started
  refine (Flow.perform_asks ctx (.blind .score)).bind ?_
  intro reply
  match reply with
  | .error kind => trivial
  | .ok (.error fault) => trivial
  | .ok (.ok verdict) =>
      intro finished
      exact saveRecord_mindsOwn verdict rfl rfl

/-- A verification asks the store for nothing but to save the user's record under the name that it
has drawn.
-/
theorem verify_mindsOwn (image : Bytes) : MindsOwn userId name (verify ctx userId image) := by
  rintro drawn rfl
  refine (set_mindsOwn _ _ _ _).bind ?_
  intro outcome
  cases outcome with
  | error failure => trivial
  | ok done => exact scoreImage_mindsOwn image

/-- An owner's report asks the store about that owner's records only. -/
theorem duplicateReport_mindsOwn (requestId : String)
    : MindsOwn userId name (duplicateReport .owner ctx userId requestId) := by
  have searched : MindsOwn userId name (Repository.find ctx requestId userId) :=
    RetryPlan.repeatAttempts_asks .store ctx _ fun ctx => Flow.perform_asks ctx .find
  refine searched.bind ?_
  intro found
  cases found with
  | error failure => trivial
  | ok requested =>
      have listed
          : MindsOwn userId name (Repository.duplicates ctx (some userId) requested.fingerprint
              (some requested.requestId)) :=
        RetryPlan.repeatAttempts_asks .store ctx _ fun ctx => Flow.perform_asks ctx .duplicates
      refine listed.bind ?_
      intro outcome
      cases outcome with
      | error failure => trivial
      | ok duplicates => trivial

/-- Whatever a user asks for concerns that user, by cases on the request. -/
theorem Errand.mindsOwn (errand : Errand) (name : String)
    : MindsOwn errand.userId name errand.flow := by
  obtain ⟨ctx, userId, request⟩ := errand
  cases request with
  | verify image => exact (verify_mindsOwn image).bind fun _ => trivial
  | report requestId => exact (duplicateReport_mindsOwn requestId).bind fun _ => trivial

end Minding

end ImageVerification.Service
