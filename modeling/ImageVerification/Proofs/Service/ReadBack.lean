import ImageVerification.Proofs.Service.Disclosure
import ImageVerification.Proofs.Snapshot.Recoding

/-! A user who has been told that an image is verified can look the record up from then on. -/

namespace ImageVerification.Service

open Collaborator

variable {name : Nat → String}

/-- A verification for a user has succeeded by now. -/
def State.Completed (state : State) (userId : String) (image : Bytes)
    (outcome : VerificationOutcome)
    : Prop :=
  ∃ job ∈ state.jobs,
    job.operation = .verify userId image ∧ job.rest = .done (.verified (.ok outcome))

/-- A record that is stored for good: the job that has drawn its name has nothing left to do, and
what is cached under that name is no longer than the lifetime of a snapshot after it was done.
-/
structure Settles (record : Record) (finished : Instant) (index : Nat) (state : State) : Prop where
  stored : record ∈ state.ledger.records
  done :
    ∃ job, state.jobs[index]? = some job
      ∧ record.requestId ∈ job.names
      ∧ ∃ answer, job.rest = .done answer
  shortLived :
    ∀ entry ∈ state.cache.entries,
      entry.key = CacheAside.key record.requestId
      → entry.expiresAt ≤ finished + CacheAside.snapshotLifetime.nanos

/-- A verification that has succeeded settles its record. Witness: the invariant of its job, which
has drawn the record's name and seen the record saved.
-/
theorem Sound.settles {state : State} {userId : String} {image : Bytes}
    {outcome : VerificationOutcome} (sound : Sound name state)
    (completed : state.Completed userId image outcome)
    : outcome.record.requestId = outcome.requestId
      ∧ outcome.record.userId = userId
      ∧ ∃ index, Settles outcome.record state.clock index state := by
  obtain ⟨job, member, verified, finished⟩ := completed
  obtain ⟨index, found⟩ := List.getElem?_of_mem member
  obtain ⟨saved, known, keeps⟩ := sound.jobs job member
  rw [verified, finished] at keeps
  obtain ⟨drawn, seen, named, owned⟩ := keeps
  refine ⟨named, owned, index, known _ seen, ⟨job, found, named ▸ drawn, _, finished⟩, ?_⟩
  exact fun entry present _ => sound.backends.shortLived entry present

/-- What a job caches is under names of its own, so a record that is settled stays so. -/
theorem Settles.step {record : Record} {finished : Instant} {index : Nat} {state after : State}
    (settles : Settles record finished index state) (sound : Sound name state)
    (step : Step name state after)
    : Settles record finished index after := by
  obtain ⟨stored, ⟨job, found, drawn, answer, finished'⟩, shortLived⟩ := settles
  cases step with
  | elapse span => exact ⟨stored, ⟨job, found, drawn, answer, finished'⟩, shortLived⟩
  | begin ctx operation =>
      refine ⟨stored, ⟨job, ?_, drawn, answer, finished'⟩, shortLived⟩
      obtain ⟨inRange, -⟩ := List.getElem?_eq_some_iff.mp found
      simpa [List.getElem?_append, inRange] using found
  | @advance other moving next shared foundOther advances =>
      -- The job that has drawn the name is done, so it is another one that moves.
      have elsewhere : other ≠ index := by
        rintro rfl
        obtain rfl : job = moving := Option.some.inj (found.symm.trans foundOther)
        obtain ⟨operation, names, rest⟩ := job
        obtain rfl : rest = .done answer := finished'
        cases advances
      have moved := advances.jobStep sound.backends
        (sound.jobs moving (List.mem_of_getElem? foundOther))
      refine ⟨moved.progress.records record stored, ⟨job, ?_, drawn, answer, finished'⟩, ?_⟩
      · rwa [List.getElem?_set_ne elsewhere]
      · intro entry present keyed
        rcases moved.progress.entries entry present with before | ⟨id, own, sameKey⟩
        · exact shortLived entry before keyed
        · obtain rfl : record.requestId = id := key_injective (keyed.symm.trans sameKey)
          exact absurd (sound.apart other index moving job foundOther found _ own drawn) elsewhere
  | expire chosen =>
      refine ⟨stored, ⟨job, found, drawn, answer, finished'⟩, ?_⟩
      exact fun entry present => shortLived entry (List.mem_filter.mp present).1

/-- A settled record stays settled whatever the service does later, by induction on the steps. -/
theorem Settles.steps {record : Record} {finished : Instant} {index : Nat} {state after : State}
    (fresh : Function.Injective name) (settles : Settles record finished index state)
    (sound : Sound name state) (steps : Steps name state after)
    : Settles record finished index after ∧ Sound name after := by
  induction steps with
  | refl => exact ⟨settles, sound⟩
  | tail _ step ih => exact ⟨ih.1.step ih.2 step, step.sound fresh ih.2⟩

/-! A lookup in the midst of all this. -/

/-- What a state of the service replies: the store finds what is there, and so does the cache unless
it fails.
-/
def Serves (state : State) : (request : Call) → Reply request → Prop
  | .cacheGet key, reply =>
      (∃ fault, reply = .error fault) ∨ reply = .ok (state.cache.peek state.clock key)
  | .storeFind requestId userId, reply => reply = state.ledger.find requestId userId
  | _, _ => True

/-- Collaborators that are shared with the service at work. Every call is answered some time, and by
a state that the service goes through at the instant of its effect.
-/
structure Amid {σ : Type} (name : Nat → String) (env : Environment Call Reply σ) (view : σ → State)
    : Prop where
  timely : env.Timely
  served :
    ∀ request now state instant,
      (view state).clock ≤ now
      → now ≤ instant
      → ∃ moment,
          let accepted := env.accept request now state
          let effect := accepted.1.effect instant accepted.2
          Steps name (view state) moment
          ∧ moment.clock = instant
          ∧ Serves moment request effect.1
          ∧ Steps name moment (view effect.2)
          ∧ (view effect.2).clock = instant

/-- Since some instant the snapshot of a record has been read, less than its lifetime after a state.
-/
def ReadSnapshot (name : Nat → String) (finished : State) (since : Instant) (record : Record)
    : Prop :=
  ∃ state,
    Steps name finished state
    ∧ since ≤ state.clock
    ∧ state.cache.peek state.clock (CacheAside.key record.requestId)
      = some (Snapshot.ofRecord record).encode
    ∧ state.clock < finished.clock + CacheAside.snapshotLifetime.nanos

/-- The replies to a lookup of a record since some instant, after a state. -/
def Expected (name : Nat → String) (finished : State) (since : Instant) (record : Record)
    : (request : Call) → Reply request → Prop
  | .cacheGet key, reply =>
      key = CacheAside.key record.requestId
      → (∃ fault, reply = .error fault)
        ∨ reply = .ok none
        ∨ reply = .ok (some CacheAside.marker)
        ∨ reply = .ok (some (Snapshot.ofRecord record).encode)
          ∧ ReadSnapshot name finished since record
  | .storeFind requestId userId, reply =>
      requestId = record.requestId → userId = record.userId → reply = .ok record
  | _, _ => True

/-- What the collaborators serve about a settled record is as expected: the store has it, and the
cache has its snapshot, its marker or nothing, or fails.
-/
theorem Settles.serves {finished state : State} {since : Instant} {record : Record} {index : Nat}
    (settles : Settles record finished.clock index state) (sound : Sound name state)
    (later : Steps name finished state) (begun : since ≤ state.clock) {request : Call}
    {reply : Reply request} (serves : Serves state request reply)
    : Expected name finished since record request reply := by
  cases request with
  | cacheGet key =>
      rintro rfl
      rcases serves with failed | found
      · exact .inl failed
      cases peeked : state.cache.peek state.clock (CacheAside.key record.requestId) with
      | none => exact .inr (.inl (found.trans (by rw [peeked])))
      | some cached =>
          rw [peeked] at found
          rcases sound.backends.peek peeked with rfl | ⟨stored, inLedger, same, rfl⟩
          · exact .inr (.inr (.inl found))
          -- No two records share a request, so the snapshot is that of the settled record.
          · obtain rfl := sound.backends.unique.eq inLedger settles.stored same
            obtain ⟨entry, present, keyed, -, live⟩ := ExpiringMap.exists_of_peek peeked
            have young := Nat.lt_of_lt_of_le live (settles.shortLived entry present keyed)
            exact .inr (.inr (.inr ⟨found, state, later, begun, peeked, young⟩))
  | storeFind requestId userId =>
      rintro rfl rfl
      exact serves.trans (sound.backends.unique.find_eq settles.stored)
  | _ => trivial

/-- What a lookup of a record tells: the record, or what a snapshot keeps of it. -/
def Tells (record : Record) (snapshotRead : Prop) (answer : Repository.Outcome Record) : Prop :=
  answer = .ok record ∨ answer = .ok { record with latency := .zero } ∧ snapshotRead

/-- The store tells a settled record, by whatever attempt it answers. -/
theorem find_yields {finished : State} {since : Instant} {record : Record} (ctx : Context)
    : (Repository.find ctx record.requestId record.userId).Yields
        (Expected name finished since record)
        (Tells record (ReadSnapshot name finished since record)) := by
  let search : RetryPlan.Attempt Call Reply StoreFault Record :=
    fun ctx => Flow.perform ctx (Call.storeFind record.requestId record.userId)
  have single (ctx : Context)
      : (search ctx).Yields (Expected name finished since record) fun result =>
          ∃ outcome, result = .ok outcome ∧ outcome = .ok record :=
    fun reply expected => ⟨reply, rfl, expected rfl rfl⟩
  refine (RetryPlan.repeatAttempts_yields .store ctx _ search single).imp ?_
  rintro _ ⟨_, rfl, rfl⟩
  exact .inl rfl

/-- What may be found in the cache for a record, if anything. -/
def Caches (record : Record) (snapshotRead : Prop) : CacheAside.Outcome String → Prop
  | .ok cached =>
      cached = CacheAside.marker
      ∨ cached = (Snapshot.ofRecord record).encode ∧ snapshotRead
  | .error _ => True

/-- The cache tells its snapshot or its marker, or nothing; by whatever reading it answers. -/
theorem get_yields {finished : State} {since : Instant} {record : Record} (ctx : Context)
    (task : Task)
    : (CacheAside.get ctx task (CacheAside.key record.requestId)).Yields
        (Expected name finished since record)
        (Caches record (ReadSnapshot name finished since record)) := by
  let key := CacheAside.key record.requestId
  let read : RetryPlan.Attempt Call Reply CacheFault (Option String) :=
    fun ctx => Flow.perform ctx (Call.cacheGet key)
  have single (ctx : Context)
      : (read ctx).Yields (Expected name finished since record) fun result =>
          ∃ outcome,
            result = .ok outcome ∧ Expected name finished since record (.cacheGet key) outcome :=
    fun reply expected => ⟨reply, rfl, expected⟩
  refine (RetryPlan.repeatAttempts_yields .cache ctx task read single).bind ?_
  rintro _ ⟨outcome, expected, rfl⟩
  rcases expected rfl with ⟨fault, rfl⟩ | rfl | rfl | ⟨rfl, snapshotRead⟩
  · trivial
  · trivial
  · exact .inl rfl
  · exact .inr ⟨rfl, snapshotRead⟩

/-- A snapshot that can be decoded keeps all of a record but the latency. -/
theorem toRecord_eq {record : Record} {snapshot : Snapshot}
    (decoded : Snapshot.decode? (Snapshot.ofRecord record).encode = some snapshot)
    : snapshot.toRecord record.userId record.requestId = { record with latency := .zero } := by
  rw [Snapshot.decode?_encode_of_score, Option.ite_none_right_eq_some] at decoded
  obtain rfl := Option.some.inj decoded.2
  rw [Snapshot.toRecord_ofRecord, ite_self, ite_self]

/-- Whatever the cache replies, a lookup goes on to the store or ends with what the snapshot keeps.
-/
theorem result_yields {finished : State} {since : Instant} {record : Record} (ctx : Context)
    : (Verification.result ctx record.userId record.requestId).Yields
        (Expected name finished since record)
        (Tells record (ReadSnapshot name finished since record)) := by
  have fallBack
      : (Repository.find ctx record.requestId record.userId).Yields
          (Expected name finished since record)
          (Tells record (ReadSnapshot name finished since record)) :=
    find_yields ctx
  refine (get_yields ctx ⟨Verification.Stage.readCached, record.requestId⟩).bind ?_
  -- A miss, a fault, the marker and a snapshot that cannot be decoded all lead to the store.
  intro outcome found
  cases outcome with
  | error failure =>
      dsimp only
      split
      · exact fallBack
      · exact fallBack
  | ok cached =>
      dsimp only
      by_cases marked : cached = CacheAside.marker
      · rw [if_pos marked]
        exact fallBack
      rw [if_neg marked]
      rcases found with marker | ⟨rfl, snapshotRead⟩
      · exact absurd marker marked
      cases decoded : Snapshot.decode? (Snapshot.ofRecord record).encode with
      | none => exact fallBack
      | some snapshot =>
          have kept := toRecord_eq decoded
          have tells
              : Tells record (ReadSnapshot name finished since record)
                  (.ok (snapshot.toRecord record.userId record.requestId)) :=
            .inr ⟨congrArg Except.ok kept, snapshotRead⟩
          exact tells

/-- A user who has been told that an image is verified can look the record up from then on. Whatever
else the service does before and meanwhile, and even if reads of the cache fail, a lookup that is
not interrupted tells the record, or within the lifetime of a snapshot all of it but the latency.
-/
theorem result_reads_back {finished : State} {userId : String} {image : Bytes}
    {outcome : VerificationOutcome} (fresh : Function.Injective name)
    (reached : Reachable name finished) (completed : finished.Completed userId image outcome)
    {σ : Type} {env : Environment Call Reply σ} {view : σ → State} (amid : Amid name env view)
    (world : World Call σ) (later : Steps name finished (view world.state))
    (started : (view world.state).clock ≤ world.clock) (ctx : Context)
    : ∃ answer after,
        (Verification.result ctx userId outcome.requestId).run env none world
          = (some answer, after)
        ∧ (ctx.allows after.clock = true
          → Tells outcome.record (ReadSnapshot name finished world.clock outcome.record)
              answer) := by
  have sound := Steps.sound fresh reached sound_start
  obtain ⟨named, owned, index, settles⟩ := sound.settles completed
  have expects : Flow.Expects env
      (fun now state =>
        Steps name finished (view state) ∧ (view state).clock ≤ now ∧ world.clock ≤ now)
      (Expected name finished world.clock outcome.record) := by
    refine ⟨amid.timely, ?_, ?_⟩
    · intro now later state holds le
      obtain ⟨steps, started, since⟩ := holds
      exact ⟨steps, Nat.le_trans started le, Nat.le_trans since le⟩
    intro request world after reply instant holds answered
    obtain ⟨later, started, since⟩ := holds
    obtain ⟨moment, before, sameClock, serves, afterwards, stopped⟩ :=
      amid.served request world.clock world.state instant started answered.begun
    rw [answered.effect] at serves afterwards stopped
    have along := later.trans before
    obtain ⟨settled, soundThen⟩ := settles.steps fresh sound along
    have since := Nat.le_trans since answered.begun
    exact ⟨settled.serves soundThen along (sameClock ▸ since) serves, along.trans afterwards,
      Nat.le_of_eq stopped, since⟩
  rw [← named, ← owned]
  exact (result_yields ctx).run (Verification.result_obeys ctx _ _).heeds expects world
    ⟨later, started, Nat.le_refl _⟩

/-- Collaborators that answer at once for a service in which nothing else goes on. -/
def resting (name : Nat → String) : Environment Call Reply State :=
  {
    accept := fun call _ state =>
      let effect (now : Instant) (state : State) :=
        ((InMemory.answer (.error (.transport "")) now state.shared.backends call).1,
          { state with clock := now })
      (⟨some 0, effect, some 0⟩, state)
    wall := fun _ => .epoch
    name
  }

/-- While the service rests, its collaborators answer as they are left, and nothing but time has
passed.
-/
theorem resting_amid (name : Nat → String) : Amid name (resting name) id := by
  refine ⟨fun _ _ _ => ⟨0, 0, rfl, rfl⟩, ?_⟩
  intro request now state instant (started : state.clock ≤ now) begun
  have elapsed : Step name state { state with clock := state.clock + (instant - state.clock) } :=
    .elapse state (instant - state.clock)
  rw [Nat.add_sub_of_le (Nat.le_trans started begun)] at elapsed
  refine ⟨{ state with clock := instant }, .single elapsed, rfl, ?_, .refl, rfl⟩
  cases request with
  | cacheGet key =>
      exact .inr (congrArg Except.ok (state.shared.backends.cache.get_fst instant key))
  | storeFind requestId userId => rfl
  | _ => trivial

/-- An hour after an image has been verified, its user is told the record. -/
theorem result_reads_back_resting
    : ∃ finished outcome,
        finished.Completed "alice" [] outcome
        ∧ ∃ answer after,
            (Verification.result .background "alice" outcome.requestId).run (resting unary) none
                ⟨finished.clock + 3600000000000, finished, 0, [], []⟩
              = (some answer, after)
            ∧ Tells outcome.record
                (ReadSnapshot unary finished (finished.clock + 3600000000000) outcome.record)
                answer := by
  obtain ⟨outcome, ran⟩ : ∃ outcome,
      verifiedOnce "alice" = (some (.verified (.ok outcome)), (verifiedOnce "alice").2) :=
    ⟨_, rfl⟩
  obtain ⟨drawn, reached⟩ := steps_of_run .start ran
  let finished : State :=
    ⟨(verifiedOnce "alice").2.clock,
      ⟨(verifiedOnce "alice").2.state, (verifiedOnce "alice").2.named⟩,
      [⟨.verify "alice" [], drawn, .done (.verified (.ok outcome))⟩]⟩
  have completed : finished.Completed "alice" [] outcome :=
    ⟨_, List.mem_singleton_self _, rfl, rfl⟩
  obtain ⟨answer, after, ran, tells⟩ :=
    result_reads_back unary_injective reached completed (resting_amid unary)
      ⟨finished.clock + 3600000000000, finished, 0, [], []⟩ .refl
      (Nat.le_add_right _ _) .background
  exact ⟨finished, outcome, completed, answer, after, ran, tells rfl⟩

end ImageVerification.Service
