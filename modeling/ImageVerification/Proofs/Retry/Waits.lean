import ImageVerification.Retry

/-! The waits between attempts: each at least as long as the one before, none longer than the
plan allows.
-/

namespace ImageVerification

theorem Duration.min_nanos (d e : Duration) : (d.min e).nanos = Nat.min d.nanos e.nanos := by
  unfold Duration.min
  split <;> simp only [Nat.min_def] <;> grind

namespace RetryPlan

/-- Below 32 doublings the wait is the doubled one up to the maximum, in unbounded arithmetic: a
product out of range exceeds every maximum.
-/
theorem waitBefore_nanos (plan : RetryPlan) (retry : Nat)
    : (plan.waitBefore retry).nanos
      = if retry < 32 then Nat.min (plan.firstWait.nanos * Nat.pow 2 retry) plan.longestWait.nanos
        else plan.longestWait.nanos := by
  unfold waitBefore
  by_cases small : retry < 32
  · simp only [if_pos small, Duration.mul?, Duration.ofNanos?]
    by_cases inRange : plan.firstWait.nanos * Nat.pow 2 retry < Word.limit64 * 1000000000
    · simp only [dif_pos inRange, Duration.min_nanos]
    · have longest := plan.longestWait.nanos_lt
      simp only [dif_neg inRange]
      exact (Nat.min_eq_right (by omega)).symm
  · simp only [if_neg small]

/-- No wait is longer than the plan's longest, by its closed form. -/
theorem waitBefore_le_longestWait (plan : RetryPlan) (retry : Nat)
    : (plan.waitBefore retry).nanos ≤ plan.longestWait.nanos := by
  rw [waitBefore_nanos]
  split
  · exact Nat.min_le_right _ _
  · exact Nat.le_refl _

/-- Waits never get shorter, by their closed form and the growth of the powers of two. -/
theorem waitBefore_mono (plan : RetryPlan) {retry later : Nat} (le : retry ≤ later)
    : (plan.waitBefore retry).nanos ≤ (plan.waitBefore later).nanos := by
  by_cases small : later < 32
  · have grown : Nat.pow 2 retry ≤ Nat.pow 2 later := Nat.pow_le_pow_right (by decide) le
    have doubled := Nat.mul_le_mul_left plan.firstWait.nanos grown
    rw [waitBefore_nanos, waitBefore_nanos, if_pos small, if_pos (Nat.lt_of_le_of_lt le small)]
    exact Nat.le_min.mpr
      ⟨Nat.le_trans (Nat.min_le_left _ _) doubled, Nat.min_le_right _ _⟩
  · rw [waitBefore_nanos plan later, if_neg small]
    exact plan.waitBefore_le_longestWait retry

/-- The waits of a run that makes `last` attempts, in the order in which they are taken. -/
def waits (plan : RetryPlan) (last : Nat) : List Duration :=
  (List.range (last - 1)).map plan.waitBefore

/-- No wait is shorter than one before it. -/
theorem waits_pairwise (plan : RetryPlan) (last : Nat)
    : (plan.waits last).Pairwise fun wait later => wait.nanos ≤ later.nanos := by
  refine List.pairwise_map.mpr (List.pairwise_lt_range.imp ?_)
  intro retry later before
  exact plan.waitBefore_mono (Nat.le_of_lt before)

/-- The first wait doubled before each retry and cut at the longest one, in unbounded arithmetic. -/
def doubledNanos (plan : RetryPlan) (retry : Nat) : Nat :=
  min (plan.firstWait.nanos * Nat.pow 2 retry) plan.longestWait.nanos

/-- Before retry 32 a wait is the doubled one, or the longest if that is less. -/
theorem waitBefore_of_lt (plan : RetryPlan) {retry : Nat} (few : retry < 32)
    : (plan.waitBefore retry).nanos = plan.doubledNanos retry := by
  rw [waitBefore_nanos, if_pos few]
  rfl

/-- From retry 32 on every wait is the longest one, however small the first was. -/
theorem waitBefore_of_le (plan : RetryPlan) {retry : Nat} (many : 32 ≤ retry)
    : plan.waitBefore retry = plan.longestWait :=
  if_neg (Nat.not_lt_of_le many)

/-- A wait is never shorter than the doubled one. It is as long exactly when there are fewer than 32
doublings or they reach the longest wait; where they do neither, the wait is the longest one all the
same.
-/
theorem waitBefore_doubled_iff (plan : RetryPlan) (retry : Nat)
    : plan.doubledNanos retry ≤ (plan.waitBefore retry).nanos
      ∧ ((plan.waitBefore retry).nanos = plan.doubledNanos retry
        ↔ retry < 32 ∨ plan.longestWait.nanos ≤ plan.firstWait.nanos * Nat.pow 2 retry)
      ∧ ((plan.waitBefore retry).nanos = plan.doubledNanos retry
        ∨ plan.waitBefore retry = plan.longestWait) := by
  rcases Nat.lt_or_ge retry 32 with few | many
  · have doubled := plan.waitBefore_of_lt few
    exact ⟨Nat.le_of_eq doubled.symm, ⟨fun _ => .inl few, fun _ => doubled⟩, .inl doubled⟩
  · have longest := plan.waitBefore_of_le many
    have reached
        : plan.longestWait.nanos = plan.doubledNanos retry
          ↔ plan.longestWait.nanos ≤ plan.firstWait.nanos * Nat.pow 2 retry := by
      unfold doubledNanos
      omega
    rw [longest]
    refine ⟨Nat.min_le_right _ _, reached.trans ?_, .inr rfl⟩
    exact (or_iff_right (Nat.not_lt_of_le many)).symm

/-- After 32 doublings of a nanosecond, 4.3 seconds would be due and not ten. -/
example : ((⟨40, ⟨1, by decide⟩, ⟨10000000000, by decide⟩⟩ : RetryPlan).waitBefore 32).nanos
    = 10000000000 := rfl

end RetryPlan

end ImageVerification
