import Mathlib.Data.List.Induction
import ImageVerification.Http.RateLimit

/-! Permits of a bucket: there is one left just when with one more taken no span of time holds more
than a burst and one for each period.
-/

namespace ImageVerification

open Http

/-- How many of some instants lie in a span of time, both ends of which belong to it. -/
def countWithin (first last : Instant) (instants : List Instant) : Nat :=
  instants.countP fun instant => first ≤ instant && instant ≤ last

/-- No span of time holds more of some instants than is allowed for its length. -/
def KeepsTo (allowance : Nat → Nat) (instants : List Instant) : Prop :=
  ∀ first last, first ≤ last → countWithin first last instants ≤ allowance (last - first)

variable {instants : List Instant} {now first last : Instant}

/-- How many of some instants are no earlier than another. -/
def countFrom (first : Instant) (instants : List Instant) : Nat :=
  instants.countP (first ≤ ·)

theorem countFrom_append (early : first ≤ now)
    : countFrom first (instants ++ [now]) = countFrom first instants + 1 := by
  simp [countFrom, List.countP_append, early]

theorem le_of_countFrom_pos (past : ∀ instant ∈ instants, instant ≤ last)
    (some : 0 < countFrom first instants)
    : first ≤ last := by
  obtain ⟨instant, member, from_first⟩ := List.countP_pos_iff.mp some
  exact Nat.le_trans (of_decide_eq_true from_first) (past instant member)

theorem countWithin_eq_countFrom (past : ∀ instant ∈ instants, instant ≤ last)
    : countWithin first last instants = countFrom first instants := by
  refine List.countP_congr fun instant member => ?_
  simp [past instant member]

theorem countWithin_append_of_lt (early : last < now)
    : countWithin first last (instants ++ [now]) = countWithin first last instants := by
  simp [countWithin, List.countP_append, early]

/-- In order, with the last of them at the end. -/
theorem past_of_pairwise (ordered : (instants ++ [now]).Pairwise (· ≤ ·))
    : ∀ instant ∈ instants ++ [now], instant ≤ now := by
  intro instant member
  rcases List.mem_append.mp member with earlier | same
  · exact (List.pairwise_append.mp ordered).2.2 instant earlier now (by simp)
  · exact Nat.le_of_eq (List.mem_singleton.mp same)

/-- What keeps to an allowance does so if some of it is left out. -/
theorem KeepsTo.sublist {allowance : Nat → Nat} {fewer instants : List Instant}
    (kept : KeepsTo allowance instants) (sublist : fewer.Sublist instants)
    : KeepsTo allowance fewer :=
  fun first last early => Nat.le_trans (List.Sublist.countP_le sublist) (kept first last early)

namespace Http.Quota

variable {quota : Quota}

/-- A burst, and one more for each period. -/
def allowance (quota : Quota) (span : Nat) : Nat := quota.burst + span / quota.period

/-- A count is allowed in a span exactly when its periods fit into the window and the span. -/
theorem le_allowance_iff (positive : 0 < quota.period) {count span : Nat}
    : count ≤ quota.allowance span ↔ count * quota.period ≤ quota.window + span := by
  rw [allowance, window, ← Nat.mul_add_div positive, Nat.le_div_iff_mul_le positive]

/-- When a bucket is full again from which a permit has been taken at each of some instants. -/
def fullAfter (quota : Quota) (taken : List Instant) : Instant :=
  taken.foldl (fun full now => max full now + quota.period) 0

/-- One more permit is full again a period after the later of now and what was full before. -/
theorem fullAfter_append (taken : List Instant) (now : Instant)
    : quota.fullAfter (taken ++ [now]) = max (quota.fullAfter taken) now + quota.period := by
  rw [fullAfter, List.foldl_append]
  rfl

/-- Every permit taken since some instant is given back after it, by induction on what was taken
last.
-/
theorem le_fullAfter (quota : Quota) (ordered : instants.Pairwise (· ≤ ·))
    (taken : 0 < countFrom first instants)
    : first + countFrom first instants * quota.period ≤ quota.fullAfter instants := by
  induction instants using List.reverseRecOn with
  | nil => exact absurd taken (Nat.lt_irrefl 0)
  | append_singleton instants now ih =>
      have past := past_of_pairwise ordered
      have early := le_of_countFrom_pos past taken
      rw [fullAfter_append, countFrom_append early, Nat.add_one_mul, ← Nat.add_assoc]
      refine Nat.add_le_add_right ?_ _
      rcases Nat.eq_zero_or_pos (countFrom first instants) with none | some
      · rw [none, Nat.zero_mul]
        exact Nat.le_trans early (Nat.le_max_right _ _)
      · have before := (List.pairwise_append.mp ordered).1
        exact Nat.le_trans (ih before some) (Nat.le_max_left _ _)

/-- A bucket has not been full since one of the permits was taken. -/
theorem exists_fullAfter_eq (positive : 0 < quota.period) (ordered : instants.Pairwise (· ≤ ·))
    (some : instants ≠ [])
    : ∃ first ∈ instants,
        quota.fullAfter instants = first + countFrom first instants * quota.period := by
  induction instants using List.reverseRecOn with
  | nil => exact absurd rfl some
  | append_singleton instants now ih =>
      have before := (List.pairwise_append.mp ordered).1
      rcases Nat.lt_or_ge now (quota.fullAfter instants) with missing | full
      · -- A bucket that is not full now has not been full since the same permit.
        have seen : instants ≠ [] := by
          rintro rfl
          exact Nat.not_lt_zero now missing
        obtain ⟨first, member, same⟩ := ih before seen
        refine ⟨first, List.mem_append_left _ member, ?_⟩
        rw [fullAfter_append, Nat.max_eq_left (Nat.le_of_lt missing), same, Nat.add_assoc,
          countFrom_append (past_of_pairwise ordered first (List.mem_append_left _ member)),
          Nat.add_one_mul]
      · have none : countFrom now instants = 0 := by
          by_contra seen
          have late := le_fullAfter quota before (Nat.pos_of_ne_zero seen)
          have given := Nat.mul_pos (Nat.pos_of_ne_zero seen) positive
          exact Nat.not_le_of_lt (Nat.lt_add_of_pos_right given) (Nat.le_trans late full)
        refine ⟨now, by simp, ?_⟩
        rw [fullAfter_append, Nat.max_eq_right full, countFrom_append (Nat.le_refl now), none,
          Nat.zero_add, Nat.one_mul]

/-- Where nothing is subtracted below zero, what is left of a window is a matter of adding. -/
theorem add_le_window_iff {first now given window : Nat} (early : first ≤ now)
    : first + given ≤ now + window ↔ given ≤ window + (now - first) := by
  omega

/-- There is a permit left just when one request more keeps to the quota. -/
theorem hasPermit_iff (positive : 0 < quota.period)
    (ordered : (instants ++ [now]).Pairwise (· ≤ ·)) (kept : KeepsTo quota.allowance instants)
    : quota.fullAfter (instants ++ [now]) ≤ now + quota.window
      ↔ KeepsTo quota.allowance (instants ++ [now]) := by
  have past := past_of_pairwise ordered
  constructor
  · intro permitted first last early
    rcases Nat.lt_or_ge last now with before | after
    · rw [countWithin_append_of_lt before]
      exact kept first last early
    · have pastLast := fun instant member => Nat.le_trans (past instant member) after
      rw [countWithin_eq_countFrom pastLast, le_allowance_iff positive]
      rcases Nat.eq_zero_or_pos (countFrom first (instants ++ [now])) with none | some
      · rw [none, Nat.zero_mul]
        exact Nat.zero_le _
      · have late := Nat.le_trans (le_fullAfter quota ordered some) permitted
        rw [add_le_window_iff (le_of_countFrom_pos past some)] at late
        exact Nat.le_trans late (Nat.add_le_add_left (Nat.sub_le_sub_right after first) _)
  · intro keeps
    obtain ⟨first, member, same⟩ := exists_fullAfter_eq positive ordered (by simp)
    have early := past first member
    have bounded := keeps first now early
    rw [countWithin_eq_countFrom past, le_allowance_iff positive] at bounded
    rw [same]
    exact (add_le_window_iff early).mpr bounded

end Http.Quota

namespace Http.Limiter

variable {limiter : Limiter} {quota : Quota} {now : Instant} {client other : IpAddress}

/-- To drop the refill of one client leaves those of others. -/
theorem lookup_filter_of_ne (refills : List (IpAddress × Instant)) (different : other ≠ client)
    : (refills.filter fun entry => entry.1 != client).lookup other = refills.lookup other := by
  induction refills with
  | nil => rfl
  | cons entry refills ih =>
      obtain ⟨known, fullAt⟩ := entry
      by_cases same : known = client
      · subst same
        rw [List.filter_cons_of_neg (by simp), ih, List.lookup_cons, beq_false_of_ne different]
      · rw [List.filter_cons_of_pos (by simpa using same), List.lookup_cons, List.lookup_cons, ih]

/-- An arrival is admitted exactly when its permit is full again within the window. -/
theorem arrive_fst
    : (limiter.arrive quota now client).1 = true
      ↔ max (limiter.fullAt client) now + quota.period ≤ now + quota.window := by
  unfold arrive
  dsimp only
  split
  · next late => exact iff_of_false nofun (Nat.not_le_of_lt late)
  · next permitted => exact iff_of_true rfl (Nat.le_of_not_lt permitted)

/-- An arrival that is refused leaves no trace. -/
theorem arrive_of_refused (refused : (limiter.arrive quota now client).1 = false)
    : (limiter.arrive quota now client).2 = limiter := by
  unfold arrive at refused ⊢
  dsimp only at refused ⊢
  split at refused
  · next late => rw [if_pos late]
  · cases refused

/-- A request that is admitted takes a permit of its client and of nobody else. -/
theorem fullAt_arrive (admitted : (limiter.arrive quota now client).1 = true)
    : (limiter.arrive quota now client).2.fullAt other
      = if other = client then max (limiter.fullAt client) now + quota.period
        else limiter.fullAt other := by
  unfold arrive at admitted ⊢
  dsimp only at admitted ⊢
  split at admitted
  · cases admitted
  · next permitted =>
      rw [if_neg permitted]
      unfold fullAt
      split
      · next same => simp [same]
      · next different =>
          rw [List.lookup_cons, beq_false_of_ne different]
          simp only [lookup_filter_of_ne _ different]

end Http.Limiter

end ImageVerification
