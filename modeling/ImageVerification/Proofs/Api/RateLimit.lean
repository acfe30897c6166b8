import ImageVerification.Proofs.Api.Settings
import ImageVerification.Proofs.Http.Permits

/-! What the limiter admits: of the requests of a client just those with which no span of time holds
more than a burst and one request for each period.

The period is as many seconds as the settings ask for requests in a second, so that the settings are
kept to just when they ask for one.
-/

namespace ImageVerification

open Http

/-- A request, and what the clock of the limiter shows when it arrives. -/
structure Arrival where
  instant : Instant
  request : Request
deriving DecidableEq

/-- The address that a request comes from. -/
def Arrival.client? (arrival : Arrival) : Option IpAddress :=
  arrival.request.peer.map SocketAddress.host

def fromClient (client : IpAddress) (arrivals : List Arrival) : List Arrival :=
  arrivals.filter fun arrival => arrival.client? = some client

def instantsOf (client : IpAddress) (arrivals : List Arrival) : List Instant :=
  (fromClient client arrivals).map Arrival.instant

/-- The clock does not go backwards from one arrival to the next. -/
def InOrder (arrivals : List Arrival) : Prop :=
  arrivals.Pairwise fun arrival later => arrival.instant ≤ later.instant

section Arrivals

variable {arrivals : List Arrival} {arrival : Arrival} {client : IpAddress}

theorem fromClient_append (sender : arrival.client? = some client)
    : fromClient client (arrivals ++ [arrival]) = fromClient client arrivals ++ [arrival] := by
  simp [fromClient, List.filter_append, sender]

theorem fromClient_append_of_ne (other : arrival.client? ≠ some client)
    : fromClient client (arrivals ++ [arrival]) = fromClient client arrivals := by
  simp [fromClient, List.filter_append, other]

/-- Of a client's arrivals, the last one comes last. -/
theorem instantsOf_append (sender : arrival.client? = some client)
    : instantsOf client (arrivals ++ [arrival])
      = instantsOf client arrivals ++ [arrival.instant] := by
  rw [instantsOf, fromClient_append sender, List.map_append]
  rfl

/-- The arrival of another client does not count among them. -/
theorem instantsOf_append_of_ne (other : arrival.client? ≠ some client)
    : instantsOf client (arrivals ++ [arrival]) = instantsOf client arrivals := by
  rw [instantsOf, fromClient_append_of_ne other]
  rfl

/-- A client's arrivals are in order if all of them are, being some of them. -/
theorem InOrder.instantsOf (ordered : InOrder arrivals) (client : IpAddress)
    : (instantsOf client arrivals).Pairwise (· ≤ ·) :=
  List.pairwise_map.mpr (ordered.sublist List.filter_sublist)

end Arrivals

namespace Router

/-- A limiter, and the arrivals that it has admitted. -/
structure Admissions where
  limiter : Limiter
  admitted : List Arrival
deriving DecidableEq

def admitNext (router : Router) (seen : Admissions) (arrival : Arrival) : Admissions :=
  let (refusal, limiter) := router.refusal? seen.limiter arrival.instant arrival.request
  ⟨limiter, if refusal.isNone then seen.admitted ++ [arrival] else seen.admitted⟩

/-- What a router admits of the requests that arrive at it one after the other. -/
def admissions (router : Router) (arrivals : List Arrival) : Admissions :=
  arrivals.foldl router.admitNext ⟨.empty, []⟩

/-- A router that keeps the requests of each client to what is allowed in any span of time, and
that admits all requests of a client who keeps to it.
-/
structure Enforces (router : Router) (allowance : Nat → Nat) : Prop where
  bounded :
    ∀ arrivals,
      InOrder arrivals
      → ∀ client, KeepsTo allowance (instantsOf client (router.admissions arrivals).admitted)
  lenient :
    ∀ arrivals,
      InOrder arrivals
      → ∀ client,
          KeepsTo allowance (instantsOf client arrivals)
          → fromClient client (router.admissions arrivals).admitted = fromClient client arrivals

variable {router : Router} {quota : Quota} {limiter : Limiter} {now : Instant} {request : Request}
  {arrivals : List Arrival} {arrival : Arrival} {client : IpAddress} {seen : Admissions}

/-- A client whose address is known is refused exactly if the limiter does not let it in, and the
limiter remembers the visit.
-/
theorem refusal?_of_client (limited : router.quota = some quota)
    (sender : request.peer.map SocketAddress.host = some client)
    : router.refusal? limiter now request
      = (if (limiter.arrive quota now client).1 then none else some (.empty 429),
          (limiter.arrive quota now client).2) := by
  obtain ⟨peer, known, rfl⟩ := Option.map_eq_some_iff.mp sender
  rw [refusal?, limited, known]

/-- A client has a permit left at an instant. -/
def HasPermit (quota : Quota) (limiter : Limiter) (client : IpAddress) (now : Instant) : Prop :=
  max (limiter.fullAt client) now + quota.period ≤ now + quota.window

/-- Such a client is let in exactly if it has a permit. -/
theorem refusal?_eq_none_iff (limited : router.quota = some quota)
    (sender : request.peer.map SocketAddress.host = some client)
    : (router.refusal? limiter now request).1 = none ↔ HasPermit quota limiter client now := by
  rw [refusal?_of_client limited sender, HasPermit, ← Limiter.arrive_fst]
  cases (limiter.arrive quota now client).1 <;> simp

/-- How a request changes what has been admitted: it is admitted and takes a permit of its client,
or it is refused for want of one and changes nothing.
-/
inductive Treated (quota : Quota) (seen : Admissions) (arrival : Arrival) : Admissions → Prop where
  | admitted {client : IpAddress} {limiter : Limiter} (sender : arrival.client? = some client)
      (permitted : HasPermit quota seen.limiter client arrival.instant)
      (taken :
        limiter.fullAt client
        = max (seen.limiter.fullAt client) arrival.instant + quota.period)
      (others : ∀ other, other ≠ client → limiter.fullAt other = seen.limiter.fullAt other)
      : Treated quota seen arrival ⟨limiter, seen.admitted ++ [arrival]⟩
  | refused
      (unpermitted :
        ∀ client,
          arrival.client? = some client → ¬ HasPermit quota seen.limiter client arrival.instant)
      : Treated quota seen arrival seen

/-- Every arrival is treated so. Witness: one without an address is refused, and any other is let in
just when its client has a permit, on whose account alone it is booked.
-/
theorem treated_next (limited : router.quota = some quota) (seen : Admissions) (arrival : Arrival)
    : Treated quota seen arrival (router.admitNext seen arrival) := by
  cases sender : arrival.client? with
  | none =>
      have unknown : arrival.request.peer = none := Option.map_eq_none_iff.mp sender
      have refused
          : router.refusal? seen.limiter arrival.instant arrival.request
            = (some ⟨500, [], "Unable To Extract Key!"⟩, seen.limiter) := by
        rw [refusal?, limited, unknown]
      rw [admitNext, refused]
      exact .refused (by simp [sender])
  | some client =>
      rw [admitNext, refusal?_of_client limited sender]
      cases permitted : (seen.limiter.arrive quota arrival.instant client).1 with
      | true =>
          refine .admitted sender (Limiter.arrive_fst.mp permitted) ?_ fun other different => ?_
          · rw [Limiter.fullAt_arrive permitted, if_pos rfl]
          · rw [Limiter.fullAt_arrive permitted, if_neg different]
      | false =>
          simp only [Limiter.arrive_of_refused permitted]
          refine .refused fun other same permit => ?_
          obtain rfl : client = other := Option.some_inj.mp (sender.symm.trans same)
          rw [Limiter.arrive_fst.mpr permit] at permitted
          cases permitted

/-- What a limiter knows of the arrivals so far: each client's bucket is as the requests that were
admitted have left it, and these keep to the quota.
-/
structure Tracks (quota : Quota) (arrivals : List Arrival) (seen : Admissions) : Prop where
  sublist : seen.admitted.Sublist arrivals
  buckets :
    ∀ client, seen.limiter.fullAt client = quota.fullAfter (instantsOf client seen.admitted)
  kept : ∀ client, KeepsTo quota.allowance (instantsOf client seen.admitted)

/-- There is a permit for a request just when the client keeps to the quota with it. -/
theorem Tracks.hasPermit_iff (tracks : Tracks quota arrivals seen) (positive : 0 < quota.period)
    (ordered : InOrder (arrivals ++ [arrival])) (sender : arrival.client? = some client)
    : HasPermit quota seen.limiter client arrival.instant
      ↔ KeepsTo quota.allowance (instantsOf client seen.admitted ++ [arrival.instant]) := by
  have before : InOrder (seen.admitted ++ [arrival]) :=
    ordered.sublist (tracks.sublist.append (.refl _))
  have increasing := before.instantsOf client
  rw [instantsOf_append sender] at increasing
  rw [HasPermit, tracks.buckets client, ← Quota.fullAfter_append]
  exact Quota.hasPermit_iff positive increasing (tracks.kept client)

/-- Every further request leaves the limiter in keeping with what it has admitted. -/
theorem Tracks.next {after : Admissions} (tracks : Tracks quota arrivals seen)
    (positive : 0 < quota.period) (ordered : InOrder (arrivals ++ [arrival]))
    (treated : Treated quota seen arrival after)
    : Tracks quota (arrivals ++ [arrival]) after := by
  cases treated with
  | @admitted sender limiter sent permitted taken others =>
      refine ⟨tracks.sublist.append (.refl _), fun client => ?_, fun client => ?_⟩
      · by_cases own : client = sender
        · subst own
          rw [instantsOf_append sent, Quota.fullAfter_append, ← tracks.buckets client, taken]
        · have apart : arrival.client? ≠ some client := by
            rw [sent]
            exact fun same => own (Option.some_inj.mp same).symm
          rw [instantsOf_append_of_ne apart, others client own, tracks.buckets client]
      · by_cases own : arrival.client? = some client
        · obtain rfl : sender = client := Option.some_inj.mp (sent.symm.trans own)
          rw [instantsOf_append own]
          exact (tracks.hasPermit_iff positive ordered own).mp permitted
        · rw [instantsOf_append_of_ne own]
          exact tracks.kept client
  | refused =>
      refine ⟨tracks.sublist.trans (List.sublist_append_left _ _), tracks.buckets, tracks.kept⟩

/-- The last arrival is admitted last. -/
theorem admissions_append (arrivals : List Arrival) (arrival : Arrival)
    : router.admissions (arrivals ++ [arrival])
      = router.admitNext (router.admissions arrivals) arrival := by
  rw [admissions, List.foldl_append]
  rfl

/-- The limiter keeps count of each client's admissions, whoever else arrives in between; by
induction from the first arrival to the last, with `Tracks.next` as the step.
-/
theorem tracks_admissions (limited : router.quota = some quota) (positive : 0 < quota.period)
    (ordered : InOrder arrivals)
    : Tracks quota arrivals (router.admissions arrivals) := by
  induction arrivals using List.reverseRecOn with
  | nil => exact ⟨.refl _, fun _ => rfl, fun _ _ _ _ => Nat.zero_le _⟩
  | append_singleton arrivals arrival ih =>
      have before : InOrder arrivals := (List.pairwise_append.mp ordered).1
      rw [admissions_append]
      exact (ih before).next positive ordered (treated_next limited _ arrival)

/-- Nothing is refused to a client who keeps to the quota: all that has arrived from it has been
admitted, and so there is a permit for what arrives next.
-/
theorem fromClient_admitted (limited : router.quota = some quota) (positive : 0 < quota.period)
    (ordered : InOrder arrivals) (kept : KeepsTo quota.allowance (instantsOf client arrivals))
    : fromClient client (router.admissions arrivals).admitted = fromClient client arrivals := by
  induction arrivals using List.reverseRecOn with
  | nil => rfl
  | append_singleton arrivals arrival ih =>
      have before : InOrder arrivals := (List.pairwise_append.mp ordered).1
      have tracks := tracks_admissions limited positive before
      have treated := treated_next limited (router.admissions arrivals) arrival
      rw [admissions_append]
      generalize router.admitNext (router.admissions arrivals) arrival = after at treated ⊢
      by_cases own : arrival.client? = some client
      · rw [instantsOf_append own] at kept
        have same := ih before (kept.sublist (List.sublist_append_left _ _))
        -- All that came before was admitted, so the account is that of the arrivals themselves.
        have permit
            : HasPermit quota (router.admissions arrivals).limiter client arrival.instant := by
          rw [tracks.hasPermit_iff positive ordered own, instantsOf, same]
          exact kept
        cases treated with
        | admitted => rw [fromClient_append own, fromClient_append own, same]
        | refused unpermitted => exact absurd permit (unpermitted client own)
      · rw [instantsOf_append_of_ne own] at kept
        cases treated with
        | admitted =>
            rw [fromClient_append_of_ne own, fromClient_append_of_ne own, ih before kept]
        | refused => rw [fromClient_append_of_ne own, ih before kept]

/-- Hence a router with a quota enforces its allowance: what it admits keeps to it, and whatever
would keep to it is admitted.
-/
theorem enforces_quota (limited : router.quota = some quota) (positive : 0 < quota.period)
    : router.Enforces quota.allowance :=
  ⟨fun _ ordered => (tracks_admissions limited positive ordered).kept,
    fun _ ordered _ => fromClient_admitted limited positive ordered⟩

/-- A quota is made of the settings as they are: so many seconds are a period. -/
theorem Configured.quota_eq {config : Config} {authority : Authority} {scope : DuplicateScope}
    {storeName cacheName : String} {events : List Event}
    (configured : Configured config authority scope storeName cacheName router events)
    (limits : config.limitsRate = true) (rate : 1 ≤ config.ratePerSecond)
    (burst : 1 ≤ config.rateBurst)
    : router.quota = some ⟨config.ratePerSecond * 10 ^ 9, config.rateBurst⟩ := by
  obtain ⟨originEvent, quotaEvent, -, limited, -⟩ := configured.layers
  unfold quotaOf at limited
  dsimp only at limited
  have usable
      : ¬ (decide (config.ratePerSecond * 1000000000 = 0) || decide (config.rateBurst = 0)) := by
    simp only [Bool.or_eq_true, decide_eq_true_eq]
    omega
  rw [if_neg (by simp [limits]), if_neg usable] at limited
  split at limited
  · cases limited
  · exact (Prod.mk.inj (Except.ok.inj limited)).1.symm

end Router

/-- What the settings say of any span of time: a burst, and so many requests for each second. -/
def Config.rateAllowance (config : Config) (span : Nat) : Nat :=
  config.rateBurst + config.ratePerSecond * span / 10 ^ 9

/-- What the limiter makes of it: a burst, and a request for each period of so many seconds. -/
def Config.limiterAllowance (config : Config) (span : Nat) : Nat :=
  config.rateBurst + span / (config.ratePerSecond * 10 ^ 9)

/-- A request from some client. -/
def knock : Request := ⟨"GET", "/health", [], [], some ⟨.v4 [10, 0, 0, 1], 5000⟩⟩

/-- A burst at once, and one request more a second later. -/
def burstAndOne (burst : Nat) : List Arrival :=
  List.replicate burst ⟨0, knock⟩ ++ [⟨10 ^ 9, knock⟩]

/-- A burst and one more arrival a second later are in order. -/
theorem inOrder_burstAndOne (burst : Nat) : InOrder (burstAndOne burst) := by
  refine List.pairwise_append.mpr ⟨?_, List.pairwise_singleton _ _, ?_⟩
  · exact List.pairwise_replicate.mpr (.inr (Nat.le_refl 0))
  · intro first member last same
    rw [List.eq_of_mem_replicate member]
    exact Nat.zero_le _

theorem instantsOf_burstAndOne (burst : Nat)
    : instantsOf (.v4 [10, 0, 0, 1]) (burstAndOne burst) = List.replicate burst 0 ++ [10 ^ 9] := by
  rw [burstAndOne, instantsOf_append rfl]
  simp [instantsOf, fromClient, Arrival.client?, knock]

/-- Any span holds the whole burst if it begins with it, and the last arrival if it reaches that
far.
-/
theorem countWithin_burstAndOne (burst : Nat) (first last : Instant)
    : countWithin first last (List.replicate burst 0 ++ [10 ^ 9])
      = (if first = 0 then burst else 0) + if first ≤ 10 ^ 9 ∧ 10 ^ 9 ≤ last then 1 else 0 := by
  simp [countWithin, List.countP_append, List.countP_replicate, List.countP_singleton]

/-- The settings allow it. -/
theorem keepsTo_burstAndOne {config : Config} (rate : 1 ≤ config.ratePerSecond)
    (burst : 1 ≤ config.rateBurst)
    : KeepsTo config.rateAllowance
        (instantsOf (.v4 [10, 0, 0, 1]) (burstAndOne config.rateBurst)) := by
  intro first last early
  rw [instantsOf_burstAndOne, countWithin_burstAndOne, Config.rateAllowance]
  by_cases both : first = 0 ∧ 10 ^ 9 ≤ last
  · -- A span that holds all of them is long enough for one more than the burst.
    obtain ⟨rfl, late⟩ := both
    have second : 1 ≤ config.ratePerSecond * (last - 0) / 10 ^ 9 := by
      rw [Nat.le_div_iff_mul_le (by decide)]
      exact Nat.mul_le_mul rate late
    rw [if_pos rfl, if_pos ⟨Nat.zero_le _, late⟩]
    exact Nat.add_le_add_left second _
  · refine Nat.le_trans ?_ (Nat.le_add_right _ _)
    by_cases start : first = 0
    · rw [if_pos start, if_neg fun span => both ⟨start, span.2⟩]
      exact Nat.le_refl _
    · rw [if_neg start, Nat.zero_add]
      split
      · exact burst
      · exact Nat.zero_le _

namespace Router

/-- The limiter admits the requests of a client with which no span of time holds more than a burst
and one request for each period, which is of as many seconds as the settings ask for requests in a
second. That is never more than the settings allow, and is all that they allow just when they ask
for one request in a second.
-/
theorem rate_limit_exact {config : Config} {authority : Authority} {scope : DuplicateScope}
    {storeName cacheName : String} {router : Router} {events : List Event}
    (made : ofConfig config authority scope storeName cacheName = .ok (router, events))
    (limits : config.limitsRate = true) (rate : 1 ≤ config.ratePerSecond)
    (burst : 1 ≤ config.rateBurst)
    : (∀ arrivals arrival client,
        InOrder (arrivals ++ [arrival])
        → arrival.client? = some client
        → ((router.refusal? (router.admissions arrivals).limiter arrival.instant
                arrival.request).1
              = none
            ↔ KeepsTo config.limiterAllowance
                (instantsOf client (router.admissions arrivals).admitted ++ [arrival.instant])))
      ∧ router.Enforces config.limiterAllowance
      ∧ (∀ arrivals,
          InOrder arrivals
          → ∀ client,
              KeepsTo config.rateAllowance
                (instantsOf client (router.admissions arrivals).admitted))
      ∧ (router.Enforces config.rateAllowance ↔ config.ratePerSecond = 1) := by
  have limited := (configured_of_ofConfig made).quota_eq limits rate burst
  have positive : 0 < config.ratePerSecond * 10 ^ 9 := Nat.mul_pos rate (by decide)
  have enforces := enforces_quota limited positive
  have stricter (span : Nat) : config.limiterAllowance span ≤ config.rateAllowance span := by
    refine Nat.add_le_add_left ?_ _
    calc span / (config.ratePerSecond * 10 ^ 9)
      _ ≤ span / 10 ^ 9 := Nat.div_le_div_left (Nat.le_mul_of_pos_left _ rate) (by decide)
      _ ≤ config.ratePerSecond * span / 10 ^ 9 :=
          Nat.div_le_div_right (Nat.le_mul_of_pos_left _ rate)
  refine ⟨fun arrivals arrival client ordered sender => ?_, enforces,
    fun arrivals ordered client first last early => ?_, fun settings => ?_, fun single => ?_⟩
  · rw [refusal?_eq_none_iff limited sender]
    have before : InOrder arrivals := (List.pairwise_append.mp ordered).1
    exact (tracks_admissions limited positive before).hasPermit_iff positive ordered sender
  · exact Nat.le_trans (enforces.bounded arrivals ordered client first last early) (stricter _)
  · -- If all of a burst and one more were admitted, a second would have to be a whole period.
    have ordered := inOrder_burstAndOne config.rateBurst
    have all := settings.lenient _ ordered _ (keepsTo_burstAndOne rate burst)
    have bounded := enforces.bounded _ ordered (.v4 [10, 0, 0, 1]) 0 (10 ^ 9) (Nat.zero_le _)
    rw [instantsOf, all, ← instantsOf, instantsOf_burstAndOne, countWithin_burstAndOne,
      if_pos rfl, if_pos ⟨Nat.zero_le _, Nat.le_refl _⟩, Quota.le_allowance_iff positive,
      Quota.window, Nat.add_one_mul, Nat.mul_comm, Nat.sub_zero] at bounded
    have period : config.ratePerSecond * 10 ^ 9 ≤ 1 * 10 ^ 9 := by
      rw [Nat.one_mul]
      exact Nat.le_of_add_le_add_left bounded
    exact Nat.le_antisymm (Nat.le_of_mul_le_mul_right period (by decide)) rate
  · have same
        : config.rateAllowance
          = Quota.allowance ⟨config.ratePerSecond * 10 ^ 9, config.rateBurst⟩ := by
      funext span
      rw [Config.rateAllowance, Quota.allowance, single, Nat.one_mul, Nat.one_mul]
    rw [same]
    exact enforces

/-- The standard settings, but with a limit on the rate of requests: ten in a second. -/
def tenPerSecond : Config := { Config.standard with limitsRate := true }

/-- What is kept to is one request in ten seconds, which is not what was asked for. -/
theorem tenPerSecond_too_strict
    : tenPerSecond.limitsRate = true
      ∧ 1 ≤ tenPerSecond.ratePerSecond
      ∧ 1 ≤ tenPerSecond.rateBurst
      ∧ ∃ router events,
          ofConfig tenPerSecond (.make "secret" none) .owner InMemory.backendName
              InMemory.backendName
            = .ok (router, events)
          ∧ router.Enforces (fun span => 20 + span / 10000000000)
          ∧ ¬ router.Enforces (fun span => 20 + 10 * span / 1000000000) := by
  obtain ⟨router, events, made⟩ :=
    (makes_iff (.make "secret" none) .owner InMemory.backendName InMemory.backendName).mpr
      (⟨by decide, by decide, nofun, by decide⟩ : Makes tenPerSecond)
  obtain ⟨-, enforces, -, settings⟩ := rate_limit_exact made rfl (by decide) (by decide)
  exact ⟨rfl, by decide, by decide, router, events, made, enforces,
    fun allowed => absurd (settings.mp allowed) (by decide)⟩

end Router

end ImageVerification
