import Mathlib.Order.Bounds.Defs
import ImageVerification.Cache.Redis
import ImageVerification.Proofs.Cache.Expiry
import ImageVerification.Proofs.Time.Rfc3339
import ImageVerification.Simulation.Exchange

/-! How long entries live in a Redis server, next to the map in memory. A server is told whole
seconds: the fewest that cover the lifetime of an entry, as long as these fit 64 bits.
-/

namespace ImageVerification

/-- The reading of the clock that a step goes by. -/
def ExpiringMap.Step.reading : ExpiringMap.Step → Instant
  | set now _ _ _ | get now _ | drop now _ | purge now => now

/-- There is one step that is the last to set a key. -/
theorem ExpiringMap.LastSet.eq {steps : List Step} {key value other : String}
    {instant later : Instant} {ttl span : Duration} (last : LastSet steps key value instant ttl)
    (also : LastSet steps key other later span)
    : value = other ∧ instant = later ∧ ttl = span := by
  induction steps using List.reverseRecOn with
  | nil =>
      obtain ⟨before, after, impossible, -⟩ := last
      simp at impossible
  | append_singleton steps step ih =>
      rcases lastSet_snoc.mp last with rfl | ⟨unset, last⟩
        <;> rcases lastSet_snoc.mp also with same | ⟨alsoUnset, also⟩
      · cases same
        exact ⟨rfl, rfl, rfl⟩
      · exact absurd rfl alsoUnset
      · subst same
        exact absurd rfl unset
      · exact ih last also

-----------------------------------------------------------------------------------------
-- Servers
-----------------------------------------------------------------------------------------

namespace Redis

open Encoding

variable {σ : Type}

/-- A server holds texts under keys, each until an instant. It may take some slack until it notices
that the instant has come.
-/
structure Server (σ : Type) where
  answer : Instant → RedisCache.Command → σ → Reply × σ
  entry? : σ → String → Option (String × Instant)
  slack : Nat

/-- The commands of a cache that do not set a key. -/
inductive Spares (key : String) : RedisCache.Command → Prop
  | get (asked : String) : Spares key ["GET", asked]
  | setex {other : String} (seconds value : String) (different : other ≠ key)
    : Spares key ["SETEX", other, seconds, value]

namespace Server

def send (server : Server σ) (now : Instant) (command : RedisCache.Command) : StateM σ Reply :=
  server.answer now command

/-- What is documented of the commands of a cache: an entry is kept for its seconds, during which
only commands that set its key change it, and can be had until they have passed.
-/
structure Documented (server : Server σ) : Prop where
  sets :
    ∀ now key seconds value state,
      let command := ["SETEX", key, String.ofList (Decimal.digits seconds), value]
      (server.answer now command state).1.accepted = .ok ()
      → server.entry? (server.answer now command state).2 key
        = some (value, now + seconds * 1000000000)
  spares :
    ∀ now command key state,
      Spares key command
      → server.entry? (server.answer now command state).2 key = server.entry? state key
        ∨ server.entry? (server.answer now command state).2 key = none
          ∧ ∃ value expiry, server.entry? state key = some (value, expiry) ∧ expiry ≤ now
  misses :
    ∀ now key state,
      server.entry? state key = none
      → (server.answer now ["GET", key] state).1 = .null
        ∨ ∃ line, (server.answer now ["GET", key] state).1 = .refusal line
  finds :
    ∀ now key value expiry state,
      server.entry? state key = some (value, expiry)
      → (server.answer now ["GET", key] state).1 = .bulk (Utf8.encode value)
          ∧ now < expiry + server.slack
        ∨ (server.answer now ["GET", key] state).1 = .null ∧ expiry ≤ now

/-- By some instant a server still holds an entry, or has dropped it when it had expired. -/
def Holds (server : Server σ) (key value : String) (expiry now : Instant) (state : σ) : Prop :=
  server.entry? state key = some (value, expiry)
    ∨ server.entry? state key = none ∧ expiry ≤ now

variable {server : Server σ} {command : RedisCache.Command} {key value : String}
  {expiry now reading : Instant} {state : σ}

/-- A command that spares the key leaves what the server holds under it: the entry is untouched, or
it has expired and is gone.
-/
theorem holds_answer (documented : server.Documented) (spares : Spares key command)
    (early : reading ≤ now) (holds : server.Holds key value expiry now state)
    : server.Holds key value expiry now (server.answer reading command state).2 := by
  rcases documented.spares reading command key state spares
    with same | ⟨gone, _, last, held, expired⟩
  · rwa [Holds, same]
  · refine .inr ⟨gone, ?_⟩
    rcases holds with there | ⟨missing, past⟩
    · cases there.symm.trans held
      exact Nat.le_trans expired early
    · exact past

end Server

end Redis

-----------------------------------------------------------------------------------------
-- The seconds of an entry
-----------------------------------------------------------------------------------------

namespace RedisCache

open Encoding Redis Simulation

variable {σ : Type} {ttl : Duration} {seconds : Nat}

/-- The fewest whole seconds that cover a lifetime, of which there is at least one. -/
def FewestSeconds (ttl : Duration) (seconds : Nat) : Prop :=
  IsLeast {count | 1 ≤ count ∧ ttl.nanos ≤ count * 1000000000} seconds

/-- The rounding up of a span of time is the least number of seconds, at least one, that covers it.
-/
theorem fewestSeconds_rounded (ttl : Duration)
    : FewestSeconds ttl
        (if 0 < ttl.subsecondNanos ∨ ttl.seconds = 0 then ttl.seconds + 1 else ttl.seconds) := by
  have parts : ttl.nanos = ttl.seconds * 1000000000 + ttl.subsecondNanos :=
    (Nat.div_add_mod' ttl.nanos 1000000000).symm
  have rest_lt : ttl.subsecondNanos < 1000000000 := Nat.mod_lt _ (by decide)
  unfold FewestSeconds
  rw [parts]
  split
  · next rounded =>
      refine ⟨⟨Nat.le_add_left .., by omega⟩, fun count ⟨positive, covers⟩ => ?_⟩
      rcases rounded with rest | short <;> omega
  · next whole =>
      refine ⟨⟨by omega, by omega⟩, fun count ⟨positive, covers⟩ => ?_⟩
      omega

/-- The lifetime that is sent is the least one that covers the span, unless that is more than 64
bits hold.
-/
theorem lifetimeSeconds?_eq (fewest : FewestSeconds ttl seconds)
    : lifetimeSeconds? ttl = if seconds < Word.limit64 then some seconds else none := by
  rw [lifetimeSeconds?, fewest.unique (fewestSeconds_rounded ttl)]

/-- The seconds fit 64 bits unless a fraction of one is added to the most that do. -/
theorem fits_iff (fewest : FewestSeconds ttl seconds)
    : seconds < Word.limit64 ↔ ttl.nanos ≤ (Word.limit64 - 1) * 1000000000 := by
  have limit : Word.limit64 = 18446744073709551616 := rfl
  obtain ⟨⟨-, covers⟩, least⟩ := fewest
  constructor
  · intro fits
    exact Nat.le_trans covers (Nat.mul_le_mul_right _ (Nat.le_sub_one_of_lt fits))
  · intro short
    have atMost := least ⟨by omega, short⟩
    omega

/-- No more than a second is added. -/
theorem seconds_le (fewest : FewestSeconds ttl seconds)
    : seconds * 1000000000 ≤ ttl.nanos + 1000000000 := by
  have added : seconds ≤ ttl.seconds + 1 := by
    rw [fewest.unique (fewestSeconds_rounded ttl)]
    split <;> omega
  have whole : ttl.seconds * 1000000000 ≤ ttl.nanos := Nat.div_mul_le_self ..
  calc seconds * 1000000000
      ≤ (ttl.seconds + 1) * 1000000000 := Nat.mul_le_mul_right _ added
    _ = ttl.seconds * 1000000000 + 1000000000 := Nat.succ_mul ..
    _ ≤ ttl.nanos + 1000000000 := Nat.add_le_add_right whole _

section Sent

variable {m : Type → Type} [Monad m] {key value : String}

theorem set_of_fits (send : Command → m Reply) (lifetime : lifetimeSeconds? ttl = some seconds)
    : set send key value ttl
      = do
        let reply ← send ["SETEX", key, String.ofList (Decimal.digits seconds), value]
        return some (reply.accepted.mapError .redis) := by
  rw [set, lifetime]

theorem set_of_overflow (send : Command → m Reply) (lifetime : lifetimeSeconds? ttl = none)
    : set send key value ttl = return none := by
  rw [set, lifetime]

end Sent

/-- What a server is told when its replies are known beforehand. -/
theorem converse_set (fewest : FewestSeconds ttl seconds) (replies : List Reply) (usual : Reply)
    (key value : String)
    : Exchange.converse replies (set (Exchange.ask usual) key value ttl)
      = if seconds < Word.limit64 then
          (some ((replies.headD usual).accepted.mapError .redis),
            [["SETEX", key, String.ofList (Decimal.digits seconds), value]])
        else (none, []) := by
  have lifetime := lifetimeSeconds?_eq fewest
  split at lifetime
  · next fits =>
      rw [set_of_fits _ lifetime, if_pos fits]
      cases replies <;> rfl
  · next tooMany =>
      rw [set_of_overflow _ lifetime, if_neg tooMany]
      rfl

-----------------------------------------------------------------------------------------
-- Entries over a run
-----------------------------------------------------------------------------------------

/-- A server after a step that is taken on the map; the server drops entries by itself. -/
def taken (server : Server σ) (state : σ) : ExpiringMap.Step → σ
  | .set now key value ttl => ((set (server.send now) key value ttl).run state).2
  | .get now key => ((get (server.send now) key).run state).2
  | .drop .. | .purge .. => state

/-- A server after some steps. -/
def played (server : Server σ) (start : σ) (steps : List ExpiringMap.Step) : σ :=
  steps.foldl (taken server) start

/-- What a server is found to hold under a key after some steps. -/
def finds (server : Server σ) (start : σ) (steps : List ExpiringMap.Step) (now : Instant)
    (key : String)
    : Except CacheFault (Option String) :=
  ((get (server.send now) key).run (played server start steps)).1

/-- What has been set last for a key has been taken by the server. -/
def Stored (server : Server σ) (start : σ) (steps : List ExpiringMap.Step) (key value : String)
    (instant : Instant) (ttl : Duration)
    : Prop :=
  ∃ before after,
    steps = before ++ .set instant key value ttl :: after
    ∧ (∀ step ∈ after, ¬ step.Sets key)
    ∧ ((set (server.send instant) key value ttl).run (played server start before)).1
      = some (.ok ())

variable {server : Server σ} {state start : σ} {key value : String} {expiry instant now : Instant}
  {step : ExpiringMap.Step} {steps : List ExpiringMap.Step}

/-- A lifetime that fits is sent with one command, whose reply tells of the setting. -/
theorem run_set_of_fits (lifetime : lifetimeSeconds? ttl = some seconds) (state : σ)
    : (set (server.send now) key value ttl).run state
      = let command := ["SETEX", key, String.ofList (Decimal.digits seconds), value]
        let (reply, left) := server.answer now command state
        (some (reply.accepted.mapError .redis), left) := by
  rw [set_of_fits _ lifetime]
  rfl

/-- A lifetime that does not fit reaches no server. -/
theorem run_set_of_overflow (lifetime : lifetimeSeconds? ttl = none) (state : σ)
    : (set (server.send now) key value ttl).run state = (none, state) := by
  rw [set_of_overflow _ lifetime]
  rfl

theorem run_get (server : Server σ) (now : Instant) (key : String) (state : σ)
    : (get (server.send now) key).run state
      = let (reply, left) := server.answer now ["GET", key] state
        (reply.optionalText.mapError .redis, left) :=
  rfl

/-- A step that does not set the key leaves what the server holds under it; by cases on the step,
each a single command that spares the key.
-/
theorem holds_taken (documented : server.Documented) (unset : ¬ step.Sets key)
    (early : step.reading ≤ now) (holds : server.Holds key value expiry now state)
    : server.Holds key value expiry now (taken server state step) := by
  cases step with
  | set reading other text ttl =>
      cases lifetime : lifetimeSeconds? ttl with
      | none =>
          rw [taken, run_set_of_overflow lifetime]
          exact holds
      | some seconds =>
          rw [taken, run_set_of_fits lifetime]
          exact Server.holds_answer documented (.setex _ text unset) early holds
  | get reading asked =>
      rw [taken, run_get]
      exact Server.holds_answer documented (.get asked) early holds
  | drop | purge => exact holds

/-- By induction on the steps. -/
theorem holds_played (documented : server.Documented)
    (unset : ∀ step ∈ steps, ¬ step.Sets key) (early : ∀ step ∈ steps, step.reading ≤ now)
    (holds : server.Holds key value expiry now state)
    : server.Holds key value expiry now (played server state steps) := by
  induction steps generalizing state with
  | nil => exact holds
  | cons step steps ih =>
      obtain ⟨unsetFirst, unsetRest⟩ := List.forall_mem_cons.mp unset
      obtain ⟨earlyFirst, earlyRest⟩ := List.forall_mem_cons.mp early
      exact ih unsetRest earlyRest (holds_taken documented unsetFirst earlyFirst holds)

theorem ok_of_mapError {ε δ α : Type} {change : ε → δ} {result : Except ε α} {output : α}
    (ok : result.mapError change = .ok output)
    : result = .ok output := by
  cases result with
  | ok given =>
      cases ok
      rfl
  | error fault => cases ok

/-- A setting that the server accepts is held from then on until the whole seconds are over. -/
theorem entry?_set (documented : server.Documented) (fewest : FewestSeconds ttl seconds)
    (accepted : ((set (server.send instant) key value ttl).run state).1 = some (.ok ()))
    : server.entry? ((set (server.send instant) key value ttl).run state).2 key
      = some (value, instant + seconds * 1000000000) := by
  have lifetime := lifetimeSeconds?_eq fewest
  by_cases fits : seconds < Word.limit64
  · rw [if_pos fits] at lifetime
    rw [run_set_of_fits lifetime] at accepted ⊢
    have taken := ok_of_mapError (Option.some_inj.mp accepted)
    exact documented.sets instant key seconds value state taken
  · rw [if_neg fits] at lifetime
    rw [run_set_of_overflow lifetime] at accepted
    cases accepted

/-- What was stored last was set last. -/
theorem lastSet_of_stored (stored : Stored server start steps key value instant ttl)
    : ExpiringMap.LastSet steps key value instant ttl := by
  obtain ⟨before, after, same, unset, -⟩ := stored
  exact ⟨before, after, same, unset⟩

/-- What was stored last is still held, after whatever steps came later, up to its whole seconds.
Witness: the run is split at the setting, and `holds_played` covers the rest.
-/
theorem holds_of_stored (documented : server.Documented) (fewest : FewestSeconds ttl seconds)
    (stored : Stored server start steps key value instant ttl)
    (early : ∀ step ∈ steps, step.reading ≤ now)
    : server.Holds key value (instant + seconds * 1000000000) now (played server start steps) := by
  obtain ⟨before, after, rfl, unset, accepted⟩ := stored
  rw [played, List.foldl_append, List.foldl_cons]
  refine holds_played documented unset (fun step member => early step (by simp [member])) (.inl ?_)
  exact entry?_set documented fewest accepted

/-- What a server holds is found until it expires, and not much longer. -/
theorem finds_of_holds (documented : server.Documented)
    (holds : server.Holds key value expiry now (played server start steps))
    : (now < expiry → finds server start steps now key = .ok (some value))
      ∧ ∀ found,
          finds server start steps now key = .ok (some found)
          → found = value ∧ now < expiry + server.slack := by
  rw [finds, run_get]
  rcases holds with there | ⟨missing, past⟩
  · rcases documented.finds now key value expiry _ there with ⟨bulk, inTime⟩ | ⟨null, expired⟩
    · have same : (Reply.bulk (Utf8.encode value)).optionalText = .ok (some value) := by
        simp [Reply.optionalText, Reply.text, Utf8.decode?_encode, Except.map]
      simp only [bulk, same]
      refine ⟨fun _ => rfl, fun found same => ?_⟩
      cases same
      exact ⟨rfl, inTime⟩
    · simp only [null]
      exact ⟨fun alive => absurd alive (Nat.not_lt_of_le expired), nofun⟩
  · refine ⟨fun alive => absurd alive (Nat.not_lt_of_le past), fun found same => ?_⟩
    rcases documented.misses now key _ missing with null | ⟨line, refused⟩
    · simp only [null] at same
      cases same
    · simp only [refused] at same
      cases same

/-- An entry is kept for the fewest whole seconds that cover its lifetime: as long as these fit 64
bits, that is what the server is told, and otherwise it is told nothing and there is no outcome. As
long as the clock has not gone backwards, a server that does as documented finds what the map in
memory finds after the same steps, and it finds an entry for no more than a second longer than that
is to live, not counting its slack.
-/
theorem lifetimes_exact (ttl : Duration)
    : ∃ seconds,
        IsLeast {count | 1 ≤ count ∧ ttl.nanos ≤ count * 1000000000} seconds
        ∧ (seconds < Word.limit64 ↔ ttl.nanos ≤ (Word.limit64 - 1) * 1000000000)
        ∧ (∀ replies usual key value,
            Exchange.converse replies (set (Exchange.ask usual) key value ttl)
            = if seconds < Word.limit64 then
                (some ((replies.headD usual).accepted.mapError .redis),
                  [["SETEX", key, String.ofList (Decimal.digits seconds), value]])
              else (none, []))
        ∧ ∀ {σ : Type} (server : Server σ),
            server.Documented
            → ∀ start steps key value instant now,
                Stored server start steps key value instant ttl
                → (∀ step ∈ steps, step.reading ≤ now)
                → (∀ found,
                    ((ExpiringMap.played steps).get now key).1 = some found
                    → finds server start steps now key = .ok (some found))
                  ∧ ∀ found,
                      finds server start steps now key = .ok (some found)
                      → found = value
                        ∧ now < instant + ttl.nanos + 1000000000 + server.slack := by
  obtain ⟨seconds, fewest⟩ : ∃ seconds, FewestSeconds ttl seconds :=
    ⟨_, fewestSeconds_rounded ttl⟩
  refine ⟨seconds, fewest, fits_iff fewest, converse_set fewest,
    fun server documented start steps key value instant now stored early => ?_⟩
  have found := finds_of_holds documented (holds_of_stored documented fewest stored early)
  refine ⟨fun other seen => ?_, fun other seen => ?_⟩
  · rw [ExpiringMap.get_fst] at seen
    obtain ⟨setAt, span, last, alive⟩ := ExpiringMap.lives_of_peek seen
    obtain ⟨rfl, rfl, rfl⟩ := last.eq (lastSet_of_stored stored)
    exact found.1 (Nat.lt_of_lt_of_le alive (Nat.add_le_add_left fewest.1.2 _))
  · obtain ⟨same, inTime⟩ := found.2 other seen
    refine ⟨same, ?_⟩
    calc now
        < instant + seconds * 1000000000 + server.slack := inTime
      _ ≤ instant + (ttl.nanos + 1000000000) + server.slack :=
          Nat.add_le_add_right (Nat.add_le_add_left (seconds_le fewest) _) _
      _ = instant + ttl.nanos + 1000000000 + server.slack := by rw [Nat.add_assoc instant ttl.nanos]

/-- A server that keeps its entries as the texts and instants of keys and never forgets one; it
takes as many seconds as its clock can count in thousandths.
-/
def plainServer : Server (String → Option (String × Instant)) where
  answer now command held :=
    match command with
    | ["SETEX", key, seconds, value] =>
        match Decimal.readBelow? (Word.limit63 / 1000) seconds.toList with
        | some (count + 1) =>
            (.status "OK", Function.update held key (some (value, now + (count + 1) * 1000000000)))
        | _ => (.refusal "ERR invalid expire time in 'setex' command", held)
    | ["GET", key] =>
        match held key with
        | some (value, expiry) =>
            if now < expiry then (.bulk (Utf8.encode value), held) else (.null, held)
        | none => (.null, held)
    | _ => (.refusal "ERR unknown command", held)
  entry? held key := held key
  slack := 0

/-- Written digits are read back as their own number; no sign can be mistaken for one of them. -/
theorem eq_of_readBelow?_digits {limit number read : Nat}
    (found : Decimal.readBelow? limit (Decimal.digits number) = some read)
    : read = number := by
  have unsigned (rest : List Char) : Decimal.digits number ≠ '+' :: rest := by
    intro signed
    have digit : '+'.isDigit = true :=
      Nat.isDigit_of_mem_toDigits (by decide) (by decide) (signed ▸ List.mem_cons_self)
    cases digit
  have value : Timestamp.Reader.digitsValue (Decimal.digits number) = number := by
    rw [Timestamp.digitsValue_eq]
    exact Nat.ofDigitChars_ten_toDigits
  unfold Decimal.readBelow? at found
  split at found
  · next rest signed => exact absurd signed (unsigned rest)
  · rw [← value]
    dsimp only at found
    split at found
    · cases found
    · cases found
      rfl

/-- A server made of one expiring map does as is documented, so the premises can be met. -/
theorem plainServer_documented : plainServer.Documented where
  sets := by
    intro now key seconds value state command accepted
    simp only [command, plainServer, String.toList_ofList] at accepted ⊢
    split at accepted
    · next count taken =>
        simp [← eq_of_readBelow?_digits taken]
    · cases accepted
  spares := by
    intro now command key state spared
    refine .inl ?_
    cases spared with
    | get asked =>
        simp only [plainServer]
        split
        · split <;> rfl
        · rfl
    | setex seconds value different =>
        simp only [plainServer]
        split
        · exact Function.update_of_ne (Ne.symm different) ..
        · rfl
  misses := by
    intro now key state missing
    have missing : state key = none := missing
    simp [plainServer, missing]
  finds := by
    intro now key value expiry state there
    have there : state key = some (value, expiry) := there
    -- A dead entry is answered as if there were none.
    by_cases alive : now < expiry
    · exact .inl ⟨by simp [plainServer, there, alive], alive⟩
    · exact .inr ⟨by simp [plainServer, there, alive], Nat.le_of_not_lt alive⟩

/-- A lifetime of a second and a half. -/
def threeHalves : Duration := ⟨1500000000, by decide⟩

/-- An entry is set, and looked for under another key. -/
def setAndMiss : List ExpiringMap.Step :=
  [.set 0 "k" "v" threeHalves, .get 1000000000 "other"]

/-- The entry is found while the map still keeps it, and no longer once a second more has passed. -/
theorem threeHalves_kept
    : Stored plainServer (fun _ => none) setAndMiss "k" "v" 0 threeHalves
      ∧ finds plainServer (fun _ => none) setAndMiss 1400000000 "k" = .ok (some "v")
      ∧ ∀ found,
          finds plainServer (fun _ => none) setAndMiss 2500000000 "k" ≠ .ok (some found) := by
  have stored : Stored plainServer (fun _ => none) setAndMiss "k" "v" 0 threeHalves :=
    ⟨[], _, rfl, by simp [ExpiringMap.Step.Sets], rfl⟩
  obtain ⟨_, -, -, -, kept⟩ := lifetimes_exact threeHalves
  obtain ⟨alive, -⟩ :=
    kept plainServer plainServer_documented _ _ "k" "v" 0 1400000000 stored (by decide)
  obtain ⟨-, gone⟩ :=
    kept plainServer plainServer_documented _ _ "k" "v" 0 2500000000 stored (by decide)
  exact ⟨stored, alive "v" rfl, fun found same => absurd (gone found same).2 (by decide)⟩

end RedisCache

end ImageVerification
