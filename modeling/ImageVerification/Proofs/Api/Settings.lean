import ImageVerification.Proofs.Api.Origins
import ImageVerification.Proofs.Flow.Limits

/-! Which settings a router can be made from, and how exactly it keeps the limits that they set.

Sizes and times are calculated with as many bits as their words have, and nothing is made of what
does not fit.
-/

namespace ImageVerification

open Http Encoding Collaborator

namespace Http.OriginPolicy

/-- Only the wildcard itself stands in the way of a list of origins. -/
theorem ofSettings_eq_none_iff {origins : Option (List String)}
    : ofSettings origins = none ↔ "*" ∈ origins.getD [] := by
  have star : Utf8.encode "*" = wildcard := by decide +kernel
  have wildcard_mem
      : wildcard ∈ ((origins.getD []).map Utf8.encode).filter (·.all isValueByte)
        ↔ "*" ∈ origins.getD [] := by
    rw [mem_usable_iff]
    constructor
    · rintro ⟨entry, member, -, same⟩
      rwa [← Utf8.encode_injective (same.trans star.symm)]
    · exact fun member => ⟨"*", member, by rw [Usable, star]; decide, star⟩
  rw [← wildcard_mem]
  unfold ofSettings
  dsimp only
  split
  · next empty =>
      rw [List.isEmpty_iff.mp empty]
      exact iff_of_false (by simp) (by simp)
  · split
    · next held => exact iff_of_true rfl (by simpa using held)
    · next missing => exact iff_of_false (by simp) (by simpa using missing)

end Http.OriginPolicy

namespace Router

/-- Settings that a router can be made from. -/
structure Makes (config : Config) : Prop where
  bodyLimit : config.bodyLimitMegabytes * 2 ^ 20 < 2 ^ 64
  time : config.requestSeconds + 1 < 2 ^ 64
  origins : "*" ∉ config.allowedOrigins.getD []
  window : config.limitsRate = true → config.ratePerSecond * 10 ^ 9 * config.rateBurst < 2 ^ 64

/-- What a request is answered that would be answered in its own way and time: just that if it comes
before the limit, and otherwise that the router has given up. The router also gives up what comes at
the limit itself.
-/
inductive Awaits {σ : Type} (request : Request) (limit : Instant)
    : Option (Option Response) × World Call σ → Option Response × World Call σ → Prop where
  | inTime {response : Option Response} {after : World Call σ} (early : after.clock < limit)
      : Awaits request limit (some response, after) (response.map (finish request), after)
  | givenUp {free : Option (Option Response) × World Call σ} {stopped : World Call σ}
      (late : ∀ response after, free = (some response, after) → limit ≤ after.clock)
      (atLimit : stopped.clock = limit)
      : Awaits request limit free (some (finish request (.empty 408)), stopped)

/-- A router that keeps to limits: the most bytes of a body, and how many seconds a request has. It
waits for the response one second longer.
-/
structure Keeps (router : Router) (bodyLimit seconds : Nat) : Prop where
  refused :
    ∀ {σ : Type} (env : Environment Call Reply σ) request (world : World Call σ),
      (∃ length ∈ announcedLength? request.headers, bodyLimit < length)
      → router.respond env request world
        = (some (finish request (.plain 413 "length limit exceeded")), world)
  passed :
    ∀ request,
      (∀ length ∈ announcedLength? request.headers, length ≤ bodyLimit)
      → router.withinLength request = router.withOrigins request
  unread :
    ∀ request boundary,
      bodyLimit < request.body.length
      → router.api.readForm request boundary = .error .unreadableBody
  read :
    ∀ request boundary,
      request.body.length ≤ bodyLimit
      → (∀ length ∈ announcedLength? request.headers, request.body.length ≤ length)
      → router.api.readForm request boundary = Multipart.parse boundary request.body
  awaited :
    ∀ {σ : Type} (env : Environment Call Reply σ) request (world : World Call σ),
      Awaits request (world.clock + (seconds + 1) * 10 ^ 9)
        ((router.withinLength request).run env none world) (router.respond env request world)
  deadline :
    ∀ now,
      router.api.requestContext? now
      = if now + seconds * 10 ^ 9 < 2 ^ 63 * 10 ^ 9 then
          some (Context.background.deadlineAt (now + seconds * 10 ^ 9))
        else none

variable {config : Config} {router : Router}

/-- The limiter's settings are taken unless the time of a whole burst does not fit 64 bits. A rate
or a burst of nothing is logged and limits nothing.
-/
theorem quotaOf_ok_iff
    : (∃ quota event, quotaOf config = .ok (quota, event))
      ↔ (config.limitsRate = true →
          config.ratePerSecond * 10 ^ 9 * config.rateBurst < 2 ^ 64) := by
  unfold quotaOf
  dsimp only
  split
  · next off => exact iff_of_true ⟨_, _, rfl⟩ fun on => by simp [on] at off
  · next on =>
      split
      · next idle =>
          -- Nothing comes of a quota without a period or a burst.
          refine iff_of_true ⟨_, _, rfl⟩ fun _ => ?_
          simp only [Bool.or_eq_true, decide_eq_true_eq, Nat.mul_eq_zero] at idle
          rcases idle with (none | impossible) | none
          · simp [none]
          · cases impossible
          · simp [none]
      · split
        · next long =>
            refine iff_of_false nofun fun short => ?_
            exact Nat.not_lt_of_le long (short (by simpa using on))
        · next short => exact iff_of_true ⟨_, _, rfl⟩ fun _ => Nat.lt_of_not_le short

/-- A router is made if and only if the settings pass each of its checks. Witness: the checks are
independent of each other, and what has been configured has passed all of them.
-/
theorem makes_iff (authority : Authority) (scope : DuplicateScope) (storeName cacheName : String)
    : (∃ router events,
        ofConfig config authority scope storeName cacheName = .ok (router, events))
      ↔ Makes config := by
  constructor
  · rintro ⟨router, events, made⟩
    have configured := configured_of_ofConfig made
    obtain ⟨originEvent, quotaEvent, settled, limited, -⟩ := configured.layers
    refine ⟨configured.bodyLimit_lt, configured.requestTime_lt, fun star => ?_, ?_⟩
    · cases (OriginPolicy.ofSettings_eq_none_iff.mpr star).symm.trans settled
    · exact quotaOf_ok_iff.mp ⟨_, _, limited⟩
  · intro makes
    obtain ⟨quota, quotaEvent, limited⟩ := quotaOf_ok_iff.mpr makes.window
    cases settled : OriginPolicy.ofSettings config.allowedOrigins with
    | none => exact absurd (OriginPolicy.ofSettings_eq_none_iff.mp settled) makes.origins
    | some origins =>
        exact ⟨_, _, ofConfig_of_layers settled makes.bodyLimit makes.time limited _ _ _ _⟩

/-- A body that is announced as too long is refused before anything else is done for the request. -/
theorem respond_of_announced {request : Request}
    (beyond : ∃ length ∈ announcedLength? request.headers, router.api.bodyLimit < length)
    {σ : Type} (env : Environment Call Reply σ) (world : World Call σ)
    : router.respond env request world
      = (some (finish request (.plain 413 "length limit exceeded")), world) := by
  have announced
      : (announcedLength? request.headers).any (router.api.bodyLimit < ·) = true := by
    rw [Option.any_eq_true]
    obtain ⟨length, announced, beyond⟩ := beyond
    exact ⟨length, announced, decide_eq_true beyond⟩
  rw [respond, withinLength, if_pos announced]
  rfl

/-- The router waits for the layers within up to its own limit, which is never reached before it
begins: there is a second of slack.
-/
theorem awaits_respond {σ : Type} (env : Environment Call Reply σ) (request : Request)
    (world : World Call σ)
    : Awaits request (world.clock + router.api.requestTime + slack)
        ((router.withinLength request).run env none world) (router.respond env request world) := by
  have early : world.clock < world.clock + router.api.requestTime + slack :=
    Nat.lt_of_le_of_lt (Nat.le_add_right _ _) (Nat.lt_add_of_pos_right (by decide))
  have limited := Flow.run_limited env (router.withinLength request) world early
  unfold respond
  dsimp only
  generalize (router.withinLength request).run env none world = free at limited ⊢
  generalize (router.withinLength request).run env (some _) world = cut at limited ⊢
  cases limited with
  | inTime early => exact .inTime early
  | cut late atLimit => exact .givenUp late atLimit

/-- A router that has been made keeps to the limits of its settings: both are read off the settings
as the router was made from them, and its layers hold every request to them.
-/
theorem Configured.keeps {authority : Authority} {scope : DuplicateScope}
    {storeName cacheName : String} {events : List Event}
    (configured : Configured config authority scope storeName cacheName router events)
    : router.Keeps (config.bodyLimitMegabytes * 2 ^ 20) config.requestSeconds := by
  have size : router.api.bodyLimit = config.bodyLimitMegabytes * 2 ^ 20 := by
    rw [configured.api]
    rfl
  have time : router.api.requestTime = config.requestSeconds * 10 ^ 9 := by
    rw [configured.api]
    rfl
  rw [← size]
  refine ⟨?_, ?_, ?_, ?_, ?_, ?_⟩
  · exact fun env request world beyond => respond_of_announced beyond env world
  · intro request within
    rw [withinLength, beyondLimit_eq_false within, if_neg Bool.false_ne_true]
  · -- Reading stops at the limit, or earlier if the request announces less.
    intro request boundary beyond
    refine if_pos (Nat.lt_of_le_of_lt ?_ beyond)
    unfold Api.readLimit
    split
    · exact Nat.min_le_left _ _
    · exact Nat.le_refl _
  · -- A body that is neither beyond the limit nor longer than announced is read whole.
    intro request boundary within announced
    refine if_neg (Nat.not_lt_of_le ?_)
    unfold Api.readLimit
    split
    · next length same => exact Nat.le_min.mpr ⟨within, announced length same⟩
    · exact within
  · intro σ env request world
    have awaits : Awaits request _ _ (router.respond env request world) :=
      awaits_respond env request world
    rwa [configured.limit_eq] at awaits
  · intro now
    rw [← time]
    rfl

/-- A router is made from just those settings whose sizes and times fit 64 bits and that do not list
the wildcard. It then keeps the body limit and the time of requests that they ask for.
-/
theorem limits_exact (config : Config) (authority : Authority) (scope : DuplicateScope)
    (storeName cacheName : String)
    : ((∃ router events,
          ofConfig config authority scope storeName cacheName = .ok (router, events))
        ↔ Makes config)
      ∧ ∀ router events,
          ofConfig config authority scope storeName cacheName = .ok (router, events)
          → router.Keeps (config.bodyLimitMegabytes * 2 ^ 20) config.requestSeconds :=
  ⟨makes_iff authority scope storeName cacheName,
    fun _ _ made => (configured_of_ofConfig made).keeps⟩

/-- Settings read from an environment that gives requests the longest time that fits 64 bits. -/
def patient : Config :=
  (Config.ofVariables [("REQUEST_TIMEOUT_SECS", Utf8.encode "18446744073709551615")]).1

/-- No router is made when one second more does not fit; the standard settings are kept to. -/
theorem patient_unmade
    : patient.requestSeconds = 18446744073709551615
      ∧ (¬ ∃ router events,
          ofConfig patient (.make "secret" none) .owner InMemory.backendName InMemory.backendName
          = .ok (router, events))
      ∧ ∃ router events,
          ofConfig .standard (.make "secret" none) .owner InMemory.backendName
              InMemory.backendName
            = .ok (router, events)
          ∧ router.Keeps 10485760 30 := by
  have longest : patient.requestSeconds = 18446744073709551615 := by decide +kernel
  have standard := limits_exact .standard (.make "secret" none) .owner InMemory.backendName
    InMemory.backendName
  refine ⟨longest, fun made => ?_, ?_⟩
  · have makes := (limits_exact patient _ _ _ _).1.mp made
    have time := makes.time
    rw [longest] at time
    exact absurd time (by decide)
  · obtain ⟨router, events, made⟩ := standard.1.mpr ⟨by decide, by decide, nofun, nofun⟩
    exact ⟨router, events, made, standard.2 router events made⟩

end Router

end ImageVerification
