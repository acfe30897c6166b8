import ImageVerification.Api.Router
import Mathlib.Algebra.Group.Nat.Defs

/-! What the settings say of the router that is made from them. -/

namespace ImageVerification.Router

open Http

/-- The API that a configuration asks for. -/
def apiOf (config : Config) (authority : Authority) (scope : DuplicateScope)
    (storeName cacheName : String) : Api :=
  {
    authority
    scope
    bodyLimit := config.bodyLimitMegabytes * 1048576
    maxUploadBytes := config.maxUploadBytes
    requestTime := config.requestNanos
    storeName
    cacheName
  }

/-- A router as a configuration asks for it, with what is logged about it. -/
structure Configured (config : Config) (authority : Authority) (scope : DuplicateScope)
    (storeName cacheName : String) (router : Router) (events : List Event)
    : Prop where
  api : router.api = apiOf config authority scope storeName cacheName
  bodyLimit_lt : config.bodyLimitMegabytes * 1048576 < Word.limit64
  requestTime_lt : config.requestSeconds + 1 < Word.limit64
  layers : ∃ originEvent quotaEvent,
    OriginPolicy.ofSettings config.allowedOrigins = some (router.origins, originEvent)
    ∧ quotaOf config = .ok (router.quota, quotaEvent)
    ∧ events = [originEvent, quotaEvent]

variable {config : Config} {authority : Authority} {scope : DuplicateScope}
  {storeName cacheName : String} {router : Router} {events : List Event}

/-- A router that has been made is as its settings say, by cases on the checks that its making goes
through; a check that fails would not have made one.
-/
theorem configured_of_ofConfig
    (made : ofConfig config authority scope storeName cacheName = .ok (router, events))
    : Configured config authority scope storeName cacheName router events := by
  unfold ofConfig at made
  by_cases tooLarge : Word.limit64 ≤ config.bodyLimitMegabytes * 1048576
  · rw [if_pos tooLarge] at made
    cases made
  rw [if_neg tooLarge] at made
  cases settled : OriginPolicy.ofSettings config.allowedOrigins with
  | none =>
      rw [settled] at made
      cases made
  | some origins =>
      rw [settled] at made
      by_cases tooLong : Word.limit64 ≤ config.requestSeconds + 1
      · simp only [if_pos tooLong] at made
        cases made
      simp only [if_neg tooLong] at made
      cases limited : quotaOf config with
      | error fault =>
          rw [limited] at made
          cases made
      | ok quota =>
          rw [limited] at made
          cases made
          exact ⟨rfl, Nat.lt_of_not_le tooLarge, Nat.lt_of_not_le tooLong,
            origins.2, quota.2, settled, limited, rfl⟩

/-- A request is waited for one second longer than it has. -/
theorem Configured.limit_eq
    (configured : Configured config authority scope storeName cacheName router events)
    (now : Instant)
    : now + router.api.requestTime + slack = now + (config.requestSeconds + 1) * 10 ^ 9 := by
  rw [configured.api, Nat.add_assoc, Nat.add_one_mul]
  rfl

/-- A router is made from sizes and times that fit their words and from layers that can be made. -/
theorem ofConfig_of_layers {origins : OriginPolicy} {originEvent quotaEvent : Event}
    {quota : Option Quota}
    (settled : OriginPolicy.ofSettings config.allowedOrigins = some (origins, originEvent))
    (bodyLimit_lt : config.bodyLimitMegabytes * 1048576 < Word.limit64)
    (requestTime_lt : config.requestSeconds + 1 < Word.limit64)
    (limited : quotaOf config = .ok (quota, quotaEvent))
    (authority : Authority) (scope : DuplicateScope) (storeName cacheName : String)
    : ofConfig config authority scope storeName cacheName
      = .ok (⟨apiOf config authority scope storeName cacheName, origins, quota⟩,
          [originEvent, quotaEvent]) := by
  unfold ofConfig
  dsimp only
  rw [if_neg (Nat.not_le_of_lt bodyLimit_lt), settled]
  simp only [if_neg (Nat.not_le_of_lt requestTime_lt), limited]
  rfl

/-- Without a limit on the rate of requests, only the list of origins can be in the way. -/
theorem ofConfig_of_unlimited {origins : OriginPolicy} {originEvent : Event}
    (settled : OriginPolicy.ofSettings config.allowedOrigins = some (origins, originEvent))
    (bodyLimit_lt : config.bodyLimitMegabytes * 1048576 < Word.limit64)
    (requestTime_lt : config.requestSeconds + 1 < Word.limit64)
    (unlimited : config.limitsRate = false) (authority : Authority) (scope : DuplicateScope)
    (storeName cacheName : String)
    : ∃ quotaEvent,
        ofConfig config authority scope storeName cacheName
        = .ok (⟨apiOf config authority scope storeName cacheName, origins, none⟩,
            [originEvent, quotaEvent]) := by
  have limited : quotaOf config = .ok (none, ⟨.warn, "Rate limiting disabled", []⟩) := by
    rw [quotaOf, unlimited]
    rfl
  exact ⟨_, ofConfig_of_layers settled bodyLimit_lt requestTime_lt limited _ _ _ _⟩

/-- Without a limit on the rate of requests nothing is refused because of it. -/
theorem Configured.refusal?_eq
    (configured : Configured config authority scope storeName cacheName router events)
    (unlimited : config.limitsRate = false) (limiter : Limiter) (now : Instant)
    (request : Request)
    : router.refusal? limiter now request = (none, limiter) := by
  obtain ⟨originEvent, quotaEvent, -, limited, -⟩ := configured.layers
  have none : router.quota = none := by
    simp only [quotaOf, unlimited, Bool.not_false, if_true, Except.ok.injEq, Prod.mk.injEq]
      at limited
    exact limited.1.symm
  rw [refusal?, none]

end ImageVerification.Router
