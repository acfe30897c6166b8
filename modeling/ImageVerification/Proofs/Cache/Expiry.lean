import Mathlib.Data.Set.Card
import ImageVerification.Proofs.Store.Effects

/-! A map with expiry as what has been set: a lookup finds the value that was set last as long as it
lives, whatever lookups and purges have dropped from the map, and whoever else was at it meanwhile.
-/

namespace ImageVerification.ExpiringMap

/-- One step on a map, with the reading of the clock that it goes by. A lookup is a step of its own
or only looks, which changes nothing, and drops what has expired in a step that may come later.
-/
inductive Step where
  | set (now : Instant) (key value : String) (ttl : Duration)
  | get (now : Instant) (key : String)
  /-- The second half of a lookup, by the reading of the clock that it had when it looked. -/
  | drop (looked : Instant) (key : String)
  | purge (now : Instant)
deriving DecidableEq

namespace Step

def after (map : ExpiringMap) : Step → ExpiringMap
  | set now key value ttl => map.set now key value ttl
  | get now key => (map.get now key).2
  | drop looked key => map.evict looked key
  | purge now => map.purge now

/-- The reading of the clock by which entries are dropped. -/
def dropsBy? : Step → Option Instant
  | set .. => none
  | get now _ => some now
  | drop looked _ => some looked
  | purge now => some now

def isSet : Step → Bool
  | set .. => true
  | _ => false

def Sets (key : String) : Step → Prop
  | set _ other _ _ => other = key
  | _ => False

end Step

/-- The map after some steps, which was empty before them. -/
def played (steps : List Step) : ExpiringMap := steps.foldl Step.after empty

/-- The last of the steps that set a key. -/
def LastSet (steps : List Step) (key value : String) (instant : Instant) (ttl : Duration) : Prop :=
  ∃ before after,
    steps = before ++ .set instant key value ttl :: after ∧ ∀ step ∈ after, ¬ step.Sets key

/-- What has been set last for a key is still alive at an instant. -/
def Lives (steps : List Step) (now : Instant) (key value : String) : Prop :=
  ∃ instant ttl, LastSet steps key value instant ttl ∧ now < instant + ttl.nanos

/-- Nothing has been dropped by a later reading of the clock, as is the case when the clock has not
gone backwards.
-/
def Past (steps : List Step) (now : Instant) : Prop :=
  ∀ step ∈ steps, ∀ reading ∈ step.dropsBy?, reading ≤ now

variable {steps others : List Step} {step : Step} {map thinned : ExpiringMap}
  {now looked instant : Instant} {key value : String} {ttl : Duration}

/-- What was last set after one more step: what this step sets, if it sets the key, and what was
last set before it otherwise. Witness: the step at the end is either the setting itself or one of
those after it.
-/
theorem lastSet_snoc
    : LastSet (steps ++ [step]) key value instant ttl
      ↔ step = .set instant key value ttl
        ∨ ¬ step.Sets key ∧ LastSet steps key value instant ttl := by
  constructor
  · rintro ⟨before, after, same, later⟩
    rcases List.eq_nil_or_concat' after with rfl | ⟨rest, last, rfl⟩
    · obtain ⟨-, rfl⟩ := List.append_inj' same rfl |>.imp id List.singleton_inj.mp
      exact .inl rfl
    · rw [← List.cons_append, ← List.append_assoc] at same
      obtain ⟨rfl, rfl⟩ := List.append_inj' same rfl |>.imp id List.singleton_inj.mp
      refine .inr ⟨later step (by simp), before, rest, rfl, fun other member => ?_⟩
      exact later other (List.mem_append_left _ member)
  · rintro (rfl | ⟨other, before, after, rfl, later⟩)
    · exact ⟨steps, [], rfl, by simp⟩
    · refine ⟨before, after ++ [step], by simp, fun follower member => ?_⟩
      rcases List.mem_append.mp member with earlier | last
      · exact later follower earlier
      · rwa [List.mem_singleton.mp last]

/-- What was set last does not depend on what else has been done. -/
theorem lastSet_filter
    : LastSet (steps.filter Step.isSet) key value instant ttl
      ↔ LastSet steps key value instant ttl := by
  induction steps using List.reverseRecOn with
  | nil => rfl
  | append_singleton steps step ih =>
      rw [List.filter_append, lastSet_snoc]
      cases step with
      | set now other text span =>
          rw [List.filter_cons_of_pos rfl, List.filter_nil, lastSet_snoc, ih]
      | get | drop | purge => simp [Step.isSet, Step.Sets, ih]

/-- What a map holds after some steps: of every key at most one entry, which was the last to be set,
and which is there unless it has expired by a reading of the clock that some step went by.
-/
structure Reflects (map : ExpiringMap) (steps : List Step) : Prop where
  unique : map.entries.Pairwise fun entry other => entry.key ≠ other.key
  written :
    ∀ entry ∈ map.entries,
      ∃ instant ttl,
        LastSet steps entry.key entry.value instant ttl ∧ entry.expiresAt = instant + ttl.nanos
  kept :
    ∀ key value instant ttl,
      LastSet steps key value instant ttl
      → ⟨key, value, instant + ttl.nanos⟩ ∈ map.entries
        ∨ ∃ step ∈ steps, ∃ reading ∈ step.dropsBy?, instant + ttl.nanos ≤ reading

/-- To set a key keeps the map a reflection of the steps: whatever the key had before is filtered
out first, so the keys stay unique.
-/
theorem reflects_set (reflects : map.Reflects steps)
    : (map.set now key value ttl).Reflects (steps ++ [.set now key value ttl]) := by
  refine ⟨?_, fun entry member => ?_, fun other text instant span last => ?_⟩
  · refine List.pairwise_cons.mpr ⟨fun other member => ?_, reflects.unique.filter _⟩
    have different := (List.mem_filter.mp member).2
    simpa using Ne.symm (by simpa using different)
  · rcases mem_set.mp member with rfl | ⟨before, different⟩
    · exact ⟨now, ttl, lastSet_snoc.mpr (.inl rfl), rfl⟩
    · obtain ⟨instant, span, last, expires⟩ := reflects.written entry before
      exact ⟨instant, span, lastSet_snoc.mpr (.inr ⟨different ∘ Eq.symm, last⟩), expires⟩
  · rcases lastSet_snoc.mp last with same | ⟨different, last⟩
    · cases same
      exact .inl (mem_set.mpr (.inl rfl))
    · rcases reflects.kept other text instant span last with there | ⟨step, member, dropped⟩
      · exact .inl (mem_set.mpr (.inr ⟨there, different ∘ Eq.symm⟩))
      · exact .inr ⟨step, List.mem_append_left _ member, dropped⟩

/-- A step that sets nothing and drops expired entries only. -/
theorem reflects_thinned (reflects : map.Reflects steps) (unset : ∀ key, ¬ step.Sets key)
    (drops : step.dropsBy? = some now) (fewer : thinned.entries.Sublist map.entries)
    (alive : ∀ entry ∈ map.entries, now < entry.expiresAt → entry ∈ thinned.entries)
    : thinned.Reflects (steps ++ [step]) := by
  refine ⟨reflects.unique.sublist fewer, fun entry member => ?_,
    fun key value instant ttl last => ?_⟩
  · obtain ⟨instant, ttl, last, expires⟩ := reflects.written entry (fewer.subset member)
    exact ⟨instant, ttl, lastSet_snoc.mpr (.inr ⟨unset _, last⟩), expires⟩
  · rcases lastSet_snoc.mp last with rfl | ⟨-, last⟩
    · exact absurd rfl (unset key)
    · rcases reflects.kept key value instant ttl last with there | ⟨other, member, dropped⟩
      · by_cases expired : instant + ttl.nanos ≤ now
        · exact .inr ⟨step, by simp, now, drops, expired⟩
        · exact .inl (alive _ there (Nat.lt_of_not_le expired))
      · exact .inr ⟨other, List.mem_append_left _ member, dropped⟩

theorem mem_evict_of_lives {entry : ExpiringEntry} (member : entry ∈ map.entries)
    (alive : now < entry.expiresAt)
    : entry ∈ (map.evict now key).entries := by
  simp [evict, member, isLive, alive]

/-- One step keeps the map a reflection of the steps; by cases on the step, a removal being a
thinned map and a setting `reflects_set`.
-/
theorem reflects_step (reflects : map.Reflects steps) (step : Step)
    : (step.after map).Reflects (steps ++ [step]) := by
  cases step with
  | set now key value ttl => exact reflects_set reflects
  | get now key =>
      simp only [Step.after, get]
      -- A lookup drops something only if it finds nothing.
      split
      · exact reflects_thinned reflects (fun _ => id) rfl (.refl _) fun _ member _ => member
      · exact reflects_thinned reflects (fun _ => id) rfl List.filter_sublist
          fun _ => mem_evict_of_lives
  | drop looked key =>
      exact reflects_thinned reflects (fun _ => id) rfl List.filter_sublist
        fun _ => mem_evict_of_lives
  | purge now =>
      refine reflects_thinned reflects (fun _ => id) rfl List.filter_sublist ?_
      intro entry member alive
      exact List.mem_filter.mpr ⟨member, decide_eq_true alive⟩

/-- A map played from the empty one reflects the steps played; by induction on them from the end. -/
theorem reflects_played (steps : List Step) : (played steps).Reflects steps := by
  induction steps using List.reverseRecOn with
  | nil =>
      refine ⟨.nil, by simp [played, empty], fun key value instant ttl last => ?_⟩
      obtain ⟨before, after, impossible, -⟩ := last
      simp at impossible
  | append_singleton steps step ih =>
      rw [played, List.foldl_append]
      exact reflects_step ih step

/-- With unique keys a lookup gives the value of the one entry of its key, and only while that
lives.
-/
theorem peek_eq_some_iff (unique : map.entries.Pairwise fun entry other => entry.key ≠ other.key)
    : map.peek now key = some value
      ↔ ∃ entry ∈ map.entries, entry.key = key ∧ entry.value = value ∧ now < entry.expiresAt := by
  refine ⟨exists_of_peek, ?_⟩
  rintro ⟨entry, member, rfl, rfl, alive⟩
  have first : map.entry? entry.key = some entry := by
    refine List.find?_eq_some_iff_append.mpr ⟨by simp, ?_⟩
    obtain ⟨before, after, split⟩ := List.append_of_mem member
    refine ⟨before, after, split, fun other earlier => ?_⟩
    rw [split] at unique
    simpa using (List.pairwise_append.mp unique).2.2 other earlier entry (by simp)
  simp [peek, first, isLive, alive]

/-- What is found was set last, and lives at the reading of the clock that is looked by. -/
theorem lives_of_peek (found : (played steps).peek now key = some value)
    : Lives steps now key value := by
  obtain ⟨entry, member, rfl, rfl, alive⟩ := exists_of_peek found
  obtain ⟨instant, ttl, last, expires⟩ := (reflects_played steps).written entry member
  exact ⟨instant, ttl, last, expires ▸ alive⟩

/-- What lives has not been dropped. -/
theorem peek_of_lives (past : Past steps now) (lives : Lives steps now key value)
    (early : looked ≤ now)
    : (played steps).peek looked key = some value := by
  obtain ⟨instant, ttl, last, alive⟩ := lives
  have reflects := reflects_played steps
  rcases reflects.kept key value instant ttl last
    with there | ⟨step, member, reading, drops, expired⟩
  · exact (peek_eq_some_iff reflects.unique).mpr
      ⟨_, there, rfl, rfl, Nat.lt_of_le_of_lt early alive⟩
  · have seen := past step member reading drops
    exact absurd (Nat.lt_of_lt_of_le alive expired) (Nat.not_lt_of_le seen)

/-- A lookup no earlier than the steps gives a value exactly when that value was last set and is
still alive.
-/
theorem get_eq_some_iff (past : Past steps now)
    : ((played steps).get now key).1 = some value ↔ Lives steps now key value := by
  rw [get_fst]
  exact ⟨lives_of_peek, fun lives => peek_of_lives past lives (Nat.le_refl now)⟩

/-- The entries that a purge leaves are those of the keys that live. -/
theorem encard_lives (past : Past steps now)
    : {key | ∃ value, Lives steps now key value}.encard = ((played steps).purge now).size := by
  have unique := (reflects_played steps).unique
  have distinct : (((played steps).purge now).entries.map ExpiringEntry.key).Nodup :=
    List.pairwise_map.mpr (unique.filter _)
  have same
      : {key | ∃ value, Lives steps now key value}
        = (((played steps).purge now).entries.map ExpiringEntry.key).toFinset := by
    ext key
    simp only [Set.mem_ofPred_eq, List.coe_toFinset, List.mem_map]
    constructor
    · rintro ⟨value, lives⟩
      obtain ⟨entry, member, keyed, -, alive⟩ :=
        exists_of_peek (peek_of_lives past lives (Nat.le_refl now))
      exact ⟨entry, List.mem_filter.mpr ⟨member, decide_eq_true alive⟩, keyed⟩
    · rintro ⟨entry, member, rfl⟩
      obtain ⟨there, alive⟩ := List.mem_filter.mp member
      refine ⟨entry.value, lives_of_peek ?_⟩
      exact (peek_eq_some_iff unique).mpr ⟨entry, there, rfl, rfl, of_decide_eq_true alive⟩
  rw [same, Set.encard_coe_eq_coe_finsetCard, List.toFinset_card_of_nodup distinct, List.length_map,
    size]

/-- Whatever steps have been taken on a map, a lookup finds the value that was set last for its key
exactly as long as that lives, and the same as if any lookups and purges had not been or others had
been; and a purge leaves as many entries as there are keys that live. A lookup that looks by an
older reading of the clock finds nothing but what was set last and lived then, and finds all that
lives.
-/
theorem finds_last_set (steps : List Step) (now : Instant) (past : Past steps now)
    : (∀ key value, ((played steps).get now key).1 = some value ↔ Lives steps now key value)
      ∧ (∀ others,
          others.filter Step.isSet = steps.filter Step.isSet
          → Past others now
          → ∀ key, ((played others).get now key).1 = ((played steps).get now key).1)
      ∧ {key | ∃ value, Lives steps now key value}.encard = ((played steps).purge now).size
      ∧ ∀ looked,
          looked ≤ now
          → ∀ key value,
              ((played steps).peek looked key = some value → Lives steps looked key value)
              ∧ (Lives steps now key value → (played steps).peek looked key = some value) := by
  refine ⟨fun key value => get_eq_some_iff past, fun others same pastToo key => ?_,
    encard_lives past, fun looked early key value => ⟨lives_of_peek, ?_⟩⟩
  · refine Option.ext fun value => ?_
    rw [get_eq_some_iff past, get_eq_some_iff pastToo]
    simp only [Lives, ← @lastSet_filter steps, ← @lastSet_filter others, same]
  · exact fun lives => peek_of_lives past lives early

/-- A value is replaced between the halves of a lookup that has missed the one before it. -/
def overtaken : List Step :=
  [.set 0 "k" "processing" ⟨5, by decide⟩, .set 6 "k" "snapshot" ⟨10, by decide⟩, .drop 5 "k",
    .set 7 "other" "short" ⟨1, by decide⟩]

/-- The late half of the lookup does not drop the new value. -/
theorem overtaken_finds_last_set
    : Past overtaken 9
      ∧ ((played overtaken).get 9 "k").1 = some "snapshot"
      ∧ {key | ∃ value, Lives overtaken 9 key value}.encard = 1 := by
  have past : Past overtaken 9 := by
    simp [Past, overtaken, Step.dropsBy?]
  have lives : Lives overtaken 9 "k" "snapshot" := by
    refine ⟨6, ⟨10, by decide⟩, ⟨[_], [_, _], rfl, ?_⟩, by decide⟩
    simp [Step.Sets]
  obtain ⟨found, -, counted, -⟩ := finds_last_set overtaken 9 past
  exact ⟨past, (found "k" "snapshot").mpr lives, counted⟩

end ImageVerification.ExpiringMap
