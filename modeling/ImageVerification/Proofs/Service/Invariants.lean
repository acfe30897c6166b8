import ImageVerification.Proofs.Service.Discipline
import ImageVerification.Proofs.Store.Effects

/-! What holds of the service at all times, however its operations interleave. -/

namespace ImageVerification.Service

open Collaborator

variable {name : Nat → String}

/-- An entry of the cache holds the marker of a request or the snapshot of its record. -/
def Coherent (ledger : Ledger) (entry : ExpiringEntry) : Prop :=
  ∃ requestId,
    entry.key = CacheAside.key requestId
    ∧ (entry.value = CacheAside.marker
      ∨ ∃ record ∈ ledger.records,
          record.requestId = requestId ∧ entry.value = (Snapshot.ofRecord record).encode)

structure SoundBackends (clock : Instant) (backends : InMemory) : Prop where
  unique : backends.ledger.UniqueIds
  coherent : ∀ entry ∈ backends.cache.entries, Coherent backends.ledger entry
  shortLived :
    ∀ entry ∈ backends.cache.entries,
      entry.expiresAt ≤ clock + CacheAside.snapshotLifetime.nanos

/-- What a job has left to do is disciplined for its names and some records in the ledger. -/
def SoundJob (ledger : Ledger) (job : Job) : Prop :=
  ∃ saved,
    (∀ record ∈ saved, record ∈ ledger.records)
    ∧ Disciplined job.operation.Delivers job.names saved job.rest

structure Sound (name : Nat → String) (state : State) : Prop where
  backends : SoundBackends state.clock state.shared.backends
  jobs : ∀ job ∈ state.jobs, SoundJob state.ledger job
  drawn :
    ∀ job ∈ state.jobs, ∀ id ∈ job.names, ∃ number < state.shared.named, id = name number
  /-- No name has been drawn by two jobs. -/
  apart :
    ∀ (i j : Nat) (a b : Job),
      state.jobs[i]? = some a → state.jobs[j]? = some b → ∀ id ∈ a.names, id ∈ b.names → i = j

theorem sound_start : Sound name .start := by
  refine ⟨⟨.nil, ?_, ?_⟩, ?_, ?_, ?_⟩ <;> simp [State.start, InMemory.empty, ExpiringMap.empty]

/-- How the backends move on by the work of who has drawn the names: no record is lost, and entries
of the cache are new under those names only.
-/
structure Progress (names : List String) (before after : InMemory) : Prop where
  records : ∀ record ∈ before.ledger.records, record ∈ after.ledger.records
  entries :
    ∀ entry ∈ after.cache.entries,
      entry ∈ before.cache.entries ∨ ∃ id ∈ names, entry.key = CacheAside.key id

theorem Progress.refl (names : List String) (backends : InMemory)
    : Progress names backends backends :=
  ⟨fun _ stored => stored, fun _ present => .inl present⟩

/-- What stands in the cache stays coherent when the ledger grows. -/
theorem Coherent.grow {ledger later : Ledger} {entry : ExpiringEntry}
    (coherent : Coherent ledger entry)
    (records : ∀ record ∈ ledger.records, record ∈ later.records)
    : Coherent later entry := by
  obtain ⟨requestId, keyed, marked | ⟨record, stored, named, valued⟩⟩ := coherent
  · exact ⟨requestId, keyed, .inl marked⟩
  · exact ⟨requestId, keyed, .inr ⟨record, records record stored, named, valued⟩⟩

/-- A call that is allowed keeps the backends sound. -/
theorem SoundBackends.changes {now : Instant} {backends after : InMemory} {request : Call}
    {names : List String} {saved : List Record} (sound : SoundBackends now backends)
    (changes : InMemory.Changes now backends request after) (allowed : Allowed names saved request)
    (known : ∀ record ∈ saved, record ∈ backends.ledger.records)
    : SoundBackends now after ∧ Progress names backends after := by
  obtain ⟨unique, coherent, shortLived⟩ := sound
  cases changes with
  | kept ledger cache =>
      refine ⟨⟨?_, ?_, ?_⟩, ⟨?_, ?_⟩⟩
      · rwa [ledger]
      · exact fun entry present => ledger ▸ coherent entry (cache entry present)
      · exact fun entry present => shortLived entry (cache entry present)
      · exact fun record stored => by rwa [ledger]
      · exact fun entry present => .inl (cache entry present)
  -- A new entry is coherent because only what was seen saved may be written, and it is brief
  -- because all that may be written is.
  | @cached key value ttl =>
      obtain ⟨id, drawn, keyed, brief, valued⟩ := allowed
      refine ⟨⟨unique, ?_, ?_⟩, ⟨fun record stored => stored, ?_⟩⟩
      · intro entry present
        rcases ExpiringMap.mem_set.mp present with rfl | ⟨before, -⟩
        · refine ⟨id, keyed, ?_⟩
          rcases valued with marked | ⟨record, seen, named, encoded⟩
          · exact .inl marked
          · exact .inr ⟨record, known record seen, named, encoded⟩
        · exact coherent entry before
      · intro entry present
        rcases ExpiringMap.mem_set.mp present with rfl | ⟨before, -⟩
        · exact Nat.add_le_add_left brief now
        · exact shortLived entry before
      · intro entry present
        rcases ExpiringMap.mem_set.mp present with rfl | ⟨before, -⟩
        · exact .inr ⟨id, drawn, keyed⟩
        · exact .inl before
  -- A new record makes no entry stale: entries stand for records, and none is removed.
  | @saved record first =>
      have records
          : ∀ other ∈ backends.ledger.records, other ∈ backends.ledger.records ++ [record] :=
        fun other stored => List.mem_append_left _ stored
      refine ⟨⟨?_, ?_, shortLived⟩, ⟨records, fun entry present => .inl present⟩⟩
      · refine List.pairwise_append.mpr ⟨unique, List.pairwise_singleton _ _, ?_⟩
        intro other stored last same
        obtain rfl := List.mem_singleton.mp same
        exact (first other stored).1
      · exact fun entry present => (coherent entry present).grow records

/-- Only an answered save shows a record, and it is the record that was to be saved. -/
theorem mem_shown {record saved : Record} {reply : Except Interrupt (Reply (.storeSave record))}
    (seen : saved ∈ shown (.storeSave record) reply)
    : saved = record ∧ reply = .ok (.ok ()) := by
  match reply with
  | .ok (.ok ()) => exact ⟨List.mem_singleton.mp seen, rfl⟩
  | .ok (.error fault) => cases seen
  | .error kind => cases seen

/-- However a call ends, it has changed no more than it may, and a record that it shows to be saved
is in the ledger.
-/
theorem Ends.changes {now : Instant} {backends after : InMemory} {request : Call}
    {reply : Except Interrupt (Reply request)} (ends : Ends now backends request reply after)
    : InMemory.Changes now backends request after
      ∧ ∀ record ∈ shown request reply, record ∈ after.ledger.records := by
  have leaves {after : InMemory} (left : Leaves now backends request after)
      : InMemory.Changes now backends request after := by
    cases left with
    | untouched => exact InMemory.changes_self now backends request
    | effect verdict => exact InMemory.changes_answer verdict now backends request
  cases ends with
  | answered verdict =>
      refine ⟨InMemory.changes_answer verdict now backends request, ?_⟩
      intro record seen
      cases request with
      | storeSave saved =>
          obtain ⟨rfl, taken⟩ := mem_shown seen
          exact InMemory.mem_of_answer_storeSave verdict now backends record (Except.ok.inj taken)
      | _ => cases seen
  | @failed reply after fault left =>
      refine ⟨leaves left, ?_⟩
      intro record seen
      cases request with
      | storeSave saved =>
          obtain ⟨why, rfl⟩ := fault
          cases (mem_shown seen).2
      | _ => cases seen
  | interrupted kind left =>
      refine ⟨leaves left, ?_⟩
      intro record seen
      cases request with
      | storeSave saved => cases (mem_shown seen).2
      | _ => cases seen

/-- A step of a job keeps the backends and the job sound, and draws at most the next name. -/
structure JobStep (name : Nat → String) (job next : Job) (shared after : Shared) (now : Instant)
    : Prop where
  operation : next.operation = job.operation
  backends : SoundBackends now after.backends
  progress : Progress job.names shared.backends after.backends
  sound : SoundJob after.backends.ledger next
  names :
    next.names = job.names ∧ after.named = shared.named
    ∨ next.names = name shared.named :: job.names ∧ after.named = shared.named + 1

/-- However a job advances, what it does to the shared state is one of the changes that it is
allowed; one case for each kind of step of its flow.
-/
theorem Advances.jobStep {now : Instant} {job next : Job} {shared after : Shared}
    (advances : Advances name now shared job after next)
    (backends : SoundBackends now shared.backends) (sound : SoundJob shared.backends.ledger job)
    : JobStep name job next shared after now := by
  obtain ⟨saved, known, keeps⟩ := sound
  cases advances with
  | @call operation names ctx request rest reply left ends =>
      obtain ⟨allowed, later⟩ := keeps
      obtain ⟨changes, seen⟩ := ends.changes
      obtain ⟨kept, progress⟩ := backends.changes changes allowed known
      refine ⟨rfl, kept, progress, ⟨_, ?_, later reply⟩, .inl ⟨rfl, rfl⟩⟩
      intro record member
      rcases List.mem_append.mp member with new | old
      · exact seen record new
      · exact progress.records record (known record old)
  | sleep reply => exact ⟨rfl, backends, .refl _ _, ⟨saved, known, keeps reply⟩, .inl ⟨rfl, rfl⟩⟩
  | now wall =>
      exact ⟨rfl, backends, .refl _ _, ⟨saved, known, keeps ⟨now, wall⟩⟩, .inl ⟨rfl, rfl⟩⟩
  | fresh =>
      exact ⟨rfl, backends, .refl _ _, ⟨saved, known, keeps (name shared.named)⟩, .inr ⟨rfl, rfl⟩⟩
  | log => exact ⟨rfl, backends, .refl _ _, ⟨saved, known, keeps⟩, .inl ⟨rfl, rfl⟩⟩

/-- A job stays sound when the ledger grows by records of others. -/
theorem SoundJob.grow {ledger later : Ledger} {job : Job} (sound : SoundJob ledger job)
    (records : ∀ record ∈ ledger.records, record ∈ later.records)
    : SoundJob later job := by
  obtain ⟨saved, known, keeps⟩ := sound
  exact ⟨saved, fun record member => records record (known record member), keeps⟩

/-- Backends stay sound while time passes: no entry gets to live longer. -/
theorem SoundBackends.elapse {clock : Instant} {backends : InMemory}
    (sound : SoundBackends clock backends) (span : Nat)
    : SoundBackends (clock + span) backends := by
  refine ⟨sound.unique, sound.coherent, ?_⟩
  intro entry present
  have before := sound.shortLived entry present
  unfold Instant at *
  omega

/-- A name that a job has drawn after a step is one that it had before, or the next one. -/
theorem JobStep.mem_names {job next : Job} {shared after : Shared} {now : Instant}
    (step : JobStep name job next shared after now) {id : String} (member : id ∈ next.names)
    : id ∈ job.names ∨ id = name shared.named ∧ shared.named < after.named := by
  rcases step.names with ⟨names, -⟩ | ⟨names, named⟩
  · exact .inl (names ▸ member)
  · rcases List.mem_cons.mp (names ▸ member) with drawn | old
    · exact .inr ⟨drawn, by omega⟩
    · exact .inl old

/-- Names are drawn one after the other and never given back. -/
theorem JobStep.named_le {job next : Job} {shared after : Shared} {now : Instant}
    (step : JobStep name job next shared after now)
    : shared.named ≤ after.named := by
  rcases step.names with ⟨-, named⟩ | ⟨-, named⟩ <;> omega

/-- To begin an operation keeps the state sound. Witness: a new job has drawn no name, and its flow
is disciplined from the start.
-/
theorem sound_begin {state : State} (sound : Sound name state) (ctx : Context)
    (operation : Operation)
    : Sound name { state with jobs := state.jobs ++ [⟨operation, [], operation.flow ctx⟩] } := by
  let begun : Job := ⟨operation, [], operation.flow ctx⟩
  have oldOrBegun {job : Job} (member : job ∈ state.jobs ++ [begun])
      : job ∈ state.jobs ∨ job = begun := by
    simpa using member
  -- Jobs are told apart by their index, so the new one is the last.
  have indexed {i : Nat} {job : Job} (found : (state.jobs ++ [begun])[i]? = some job)
      : state.jobs[i]? = some job ∨ job = begun := by
    rw [List.getElem?_append] at found
    split at found
    · exact .inl found
    · exact .inr (List.mem_singleton.mp (List.mem_of_getElem? found))
  refine ⟨sound.backends, ?_, ?_, ?_⟩
  · intro job member
    rcases oldOrBegun member with old | rfl
    · exact sound.jobs job old
    · exact ⟨[], fun _ member => absurd member List.not_mem_nil, flow_disciplined ctx operation⟩
  · intro job member id named
    rcases oldOrBegun member with old | rfl
    · exact sound.drawn job old id named
    · cases named
  · intro i j a b left right id inLeft inRight
    rcases indexed left with left | rfl
    · rcases indexed right with right | rfl
      · exact sound.apart i j a b left right id inLeft inRight
      · cases inRight
    · cases inLeft

/-- The step of a job keeps the whole service sound: what it draws has not been drawn before. -/
theorem sound_advance {state : State} {index : Nat} {job next : Job} {shared : Shared}
    (injective : Function.Injective name) (sound : Sound name state)
    (found : state.jobs[index]? = some job)
    (step : JobStep name job next state.shared shared state.clock)
    : Sound name { state with shared, jobs := state.jobs.set index next } := by
  have atIndex : job ∈ state.jobs := List.mem_of_getElem? found
  -- The next name has been drawn by nobody.
  have unused {other : Job} (member : other ∈ state.jobs)
      : name state.shared.named ∉ other.names := by
    intro drawn
    obtain ⟨number, before, same⟩ := sound.drawn other member _ drawn
    exact absurd (injective same) (Nat.ne_of_gt before)
  have other {i : Nat} {a : Job} (notHere : i ≠ index)
      (left : (state.jobs.set index next)[i]? = some a)
      : state.jobs[i]? = some a := by
    rwa [List.getElem?_set_ne (Ne.symm notHere)] at left
  have here {a : Job} (left : (state.jobs.set index next)[index]? = some a) : a = next := by
    have member := List.getElem?_eq_some_iff.mp left
    simpa using member.2.symm
  have apartHere {j : Nat} {b : Job} (elsewhere : j ≠ index) (right : state.jobs[j]? = some b)
      {id : String} (inNext : id ∈ next.names)
      : id ∉ b.names := by
    intro inOther
    rcases step.mem_names inNext with old | ⟨drawn, -⟩
    · exact elsewhere (sound.apart index j job b found right id old inOther).symm
    · exact unused (List.mem_of_getElem? right) (drawn ▸ inOther)
  refine ⟨step.backends, ?_, ?_, ?_⟩
  · intro after member
    rcases List.mem_or_eq_of_mem_set member with old | rfl
    · exact (sound.jobs after old).grow step.progress.records
    · exact step.sound
  · intro after member id named
    rcases List.mem_or_eq_of_mem_set member with old | rfl
    · obtain ⟨number, before, same⟩ := sound.drawn after old id named
      exact ⟨number, Nat.lt_of_lt_of_le before step.named_le, same⟩
    · rcases step.mem_names named with old | ⟨drawn, before⟩
      · obtain ⟨number, before, same⟩ := sound.drawn job atIndex id old
        exact ⟨number, Nat.lt_of_lt_of_le before step.named_le, same⟩
      · exact ⟨state.shared.named, before, drawn⟩
  -- Of two jobs with a common name one may be the job that has moved, or both, or neither.
  · intro i j a b left right id inLeft inRight
    by_cases leftHere : i = index
    · by_cases rightHere : j = index
      · rw [leftHere, rightHere]
      · subst leftHere
        obtain rfl := here left
        exact absurd inRight (apartHere rightHere (other rightHere right) inLeft)
    · by_cases rightHere : j = index
      · subst rightHere
        obtain rfl := here right
        exact absurd inLeft (apartHere leftHere (other leftHere left) inRight)
      · exact sound.apart i j a b (other leftHere left) (other rightHere right) id inLeft inRight

/-- The service stays sound, whatever step it takes. -/
theorem Step.sound {state after : State} (injective : Function.Injective name)
    (step : Step name state after) (sound : Sound name state)
    : Sound name after := by
  cases step with
  | elapse span => exact ⟨sound.backends.elapse span, sound.jobs, sound.drawn, sound.apart⟩
  | begin ctx operation => exact sound_begin sound ctx operation
  | @advance index job next shared found advances =>
      have atIndex := sound.jobs job (List.mem_of_getElem? found)
      exact sound_advance injective sound found (advances.jobStep sound.backends atIndex)
  | expire chosen =>
      obtain ⟨unique, coherent, shortLived⟩ := sound.backends
      have kept {entry : ExpiringEntry}
          (present : entry ∈ (state.withoutExpired chosen).cache.entries)
          : entry ∈ state.cache.entries :=
        (List.mem_filter.mp present).1
      exact ⟨⟨unique, fun entry present => coherent entry (kept present),
        fun entry present => shortLived entry (kept present)⟩, sound.jobs, sound.drawn, sound.apart⟩

/-- Every state that is reached from a sound one is sound, by induction on the steps. -/
theorem Steps.sound {state after : State} (injective : Function.Injective name)
    (steps : Steps name state after) (sound : Sound name state)
    : Sound name after := by
  induction steps with
  | refl => exact sound
  | tail _ step ih => exact step.sound injective ih

end ImageVerification.Service
