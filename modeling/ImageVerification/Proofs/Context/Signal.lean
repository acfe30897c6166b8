import Mathlib.Data.List.Basic
import Mathlib.Data.List.Induction
import ImageVerification.Context.Signal

/-! When contexts are interrupted: with the earliest of their deadlines, or with the first
cancellation by the handle that they share, as long as that is held.
-/

namespace ImageVerification

/-- The earliest of some instants, or nothing when there are none. -/
def EarliestOf (instants : Instant → Prop) : Option Instant → Prop
  | some first => instants first ∧ ∀ instant, instants instant → first ≤ instant
  | none => ∀ instant, ¬ instants instant

namespace EarliestOf

variable {instants others : Instant → Prop} {first second : Option Instant}

/-- The earliest of some instants depends on nothing but which instants they are. -/
theorem congr (earliest : EarliestOf instants first)
    (same : ∀ instant, instants instant ↔ others instant)
    : EarliestOf others first := by
  have equal : instants = others := funext fun instant => propext (same instant)
  exact equal ▸ earliest

/-- The earliest of one instant is that instant. -/
theorem single (instant : Instant) : EarliestOf (· = instant) (some instant) :=
  ⟨rfl, fun _ same => Nat.le_of_eq same.symm⟩

/-- Of two lots of instants the earliest is the earlier one of the earliest of each. -/
theorem either (left : EarliestOf instants first) (right : EarliestOf others second)
    : EarliestOf (fun instant => instants instant ∨ others instant) (earlier first second) := by
  cases first with
  | none =>
      have same (instant : Instant) : others instant ↔ instants instant ∨ others instant :=
        ⟨.inr, fun either => either.resolve_left (left instant)⟩
      cases second <;> exact EarliestOf.congr right same
  | some a =>
      cases second with
      | none =>
          have same (instant : Instant) : instants instant ↔ instants instant ∨ others instant :=
            ⟨.inl, fun either => either.resolve_right (right instant)⟩
          exact EarliestOf.congr left same
      | some b =>
          refine ⟨?_, ?_⟩
          · rcases Nat.le_total a b with le | le
            · rw [Nat.min_eq_left le]
              exact .inl left.1
            · rw [Nat.min_eq_right le]
              exact .inr right.1
          · rintro instant (member | member)
            · exact Nat.le_trans (Nat.min_le_left a b) (left.2 instant member)
            · exact Nat.le_trans (Nat.min_le_right a b) (right.2 instant member)

end EarliestOf

namespace Handles

/-- What can be done with handles. -/
inductive Step where
  | make
  | cancelAt (id : Nat) (instant : Instant)
  | drop (id : Nat)
deriving DecidableEq

def Step.after (handles : Handles) : Step → Handles
  | make => handles.make.2
  | cancelAt id instant => handles.cancelAt id instant
  | drop id => handles.drop id

/-- The handles after some steps, of which there were none before. -/
def played (steps : List Step) : Handles := steps.foldl Step.after []

/-- Handles are numbered as they are made. -/
def madeCount (steps : List Step) : Nat := steps.count .make

/-- A handle has been made, and not been dropped since. -/
def Held (steps : List Step) (id : Nat) : Prop :=
  ∃ before after, steps = before ++ .make :: after ∧ madeCount before = id ∧ .drop id ∉ after

/-- A handle that is held fires its signal at an instant. -/
def Cancels (steps : List Step) (id : Nat) (instant : Instant) : Prop :=
  ∃ before after, steps = before ++ .cancelAt id instant :: after ∧ Held before id

variable {steps : List Step} {step wanted : Step} {id : Nat} {instant : Instant}

/-- A step has been taken last, or before. -/
theorem exists_split_snoc {post : List Step → List Step → Prop}
    : (∃ before after, steps ++ [step] = before ++ wanted :: after ∧ post before after)
      ↔ step = wanted ∧ post steps []
        ∨ ∃ before after, steps = before ++ wanted :: after ∧ post before (after ++ [step]) := by
  constructor
  · rintro ⟨before, after, same, holds⟩
    rcases List.eq_nil_or_concat' after with rfl | ⟨rest, last, rfl⟩
    · obtain ⟨rfl, rfl⟩ := List.append_inj' same rfl |>.imp id List.singleton_inj.mp
      exact .inl ⟨rfl, holds⟩
    · rw [← List.cons_append, ← List.append_assoc] at same
      obtain ⟨rfl, rfl⟩ := List.append_inj' same rfl |>.imp id List.singleton_inj.mp
      exact .inr ⟨before, rest, rfl, holds⟩
  · rintro (⟨rfl, holds⟩ | ⟨before, after, rfl, holds⟩)
    · exact ⟨steps, [], rfl, holds⟩
    · exact ⟨before, after ++ [step], by simp, holds⟩

/-- A handle is held after one more step if the step made it, or if it was held and the step did not
drop it. Witness: a history of one step more is cut either at that step or before it.
-/
theorem held_snoc
    : Held (steps ++ [step]) id
      ↔ step = .make ∧ madeCount steps = id ∨ Held steps id ∧ step ≠ .drop id := by
  unfold Held
  rw [exists_split_snoc]
  simp only [List.not_mem_nil, not_false_eq_true, and_true, List.mem_append, List.mem_singleton,
    not_or]
  refine or_congr_right ⟨?_, ?_⟩
  · rintro ⟨before, after, same, made, kept, other⟩
    exact ⟨⟨before, after, same, made, kept⟩, other ∘ Eq.symm⟩
  · rintro ⟨⟨before, after, same, made, kept⟩, other⟩
    exact ⟨before, after, same, made, kept, other ∘ Eq.symm⟩

/-- A handle cancels at an instant if it did so before, or if it is held and the last step cancels
by it.
-/
theorem cancels_snoc
    : Cancels (steps ++ [step]) id instant
      ↔ Cancels steps id instant ∨ step = .cancelAt id instant ∧ Held steps id := by
  unfold Cancels
  rw [exists_split_snoc, or_comm]

/-- The last step of a history is played last. -/
theorem played_snoc (steps : List Step) (step : Step)
    : played (steps ++ [step]) = step.after (played steps) := by
  rw [played, List.foldl_append]
  rfl

/-- There are as many handles as have been made, by induction on the history; no step takes one
away.
-/
theorem length_played (steps : List Step) : (played steps).length = madeCount steps := by
  induction steps using List.reverseRecOn with
  | nil => rfl
  | append_singleton steps step ih =>
      rw [played_snoc, madeCount, List.count_append, ← madeCount, ← ih]
      cases step <;> simp [Step.after, make, Handles.cancelAt, Handles.drop, modifyHeld]

variable {handles : Handles}

/-- A new handle is held and has not fired; all others stay as they are. -/
theorem getElem?_make
    : handles.make.2[id]? = if id = handles.length then some ⟨true, none⟩ else handles[id]? := by
  rw [make]
  rcases Nat.lt_trichotomy id handles.length with made | new | beyond
  · rw [List.getElem?_append_left made, if_neg (Nat.ne_of_lt made)]
  · simp [new]
  · rw [if_neg (Nat.ne_of_gt beyond), List.getElem?_eq_none (Nat.le_of_lt beyond),
      List.getElem?_eq_none]
    rw [List.length_append]
    exact beyond

/-- A handle has been made, and can still fire its signal. -/
def IsHeld (handles : Handles) (id : Nat) : Prop := ∃ handle ∈ handles[id]?, handle.held = true

/-- A held handle is changed as asked. -/
theorem getElem?_modifyHeld {handle : Handle} (found : handles[id]? = some handle)
    (held : handle.held = true) (change : Handle → Handle)
    : (handles.modifyHeld id change)[id]? = some (change handle) := by
  rw [modifyHeld, List.getElem?_modify, found]
  simp [held]

/-- No other handle is changed, and none that has been dropped. -/
theorem getElem?_modifyHeld_of_not {changed : Nat} (other : ¬ (changed = id ∧ handles.IsHeld id))
    (change : Handle → Handle)
    : (handles.modifyHeld changed change)[id]? = handles[id]? := by
  rw [modifyHeld, List.getElem?_modify]
  cases found : handles[id]? with
  | none => rfl
  | some handle =>
      by_cases same : changed = id
      · have dropped : handle.held ≠ true := fun held => other ⟨same, handle, found, held⟩
        simp [same, dropped]
      · simp [same]

/-- A handle is as the steps so far have left it. -/
structure Reflects (handles : Handles) (steps : List Step) (id : Nat) : Prop where
  held : handles.IsHeld id ↔ Held steps id
  fires : EarliestOf (Cancels steps id) (handles.firesAt id)

/-- Making a handle keeps the handles in step with the history: what is new is held and has no
cancellation to its name.
-/
theorem reflects_make (reflects : handles.Reflects steps id)
    (numbered : handles.length = madeCount steps)
    : handles.make.2.Reflects (steps ++ [.make]) id := by
  have unchanged (instant : Instant)
      : Cancels steps id instant ↔ Cancels (steps ++ [.make]) id instant := by
    simp [cancels_snoc]
  have fires := reflects.fires
  refine ⟨?_, EarliestOf.congr ?_ unchanged⟩
  · rw [held_snoc, ← reflects.held, ← numbered, IsHeld, IsHeld, getElem?_make]
    by_cases new : id = handles.length
    · simp [new]
    · simp [new, Ne.symm new]
  · rw [firesAt] at fires ⊢
    rw [getElem?_make]
    by_cases new : id = handles.length
    · rw [List.getElem?_eq_none (Nat.le_of_eq new.symm)] at fires
      rwa [if_pos new]
    · rwa [if_neg new]

/-- A cancellation keeps them in step: a held handle remembers the earlier of its own instant and
the new one, and others take no notice.
-/
theorem reflects_cancelAt (reflects : handles.Reflects steps id) (cancelled : Nat)
    (instant : Instant)
    : (handles.cancelAt cancelled instant).Reflects (steps ++ [.cancelAt cancelled instant])
        id := by
  have fires := reflects.fires
  have held : Held (steps ++ [.cancelAt cancelled instant]) id ↔ handles.IsHeld id := by
    simp [held_snoc, reflects.held]
  unfold Handles.cancelAt
  -- Only a handle that is held takes notice, and only its own.
  by_cases own : cancelled = id ∧ handles.IsHeld id
  · obtain ⟨rfl, handle, found, isHeld⟩ := own
    have changed := getElem?_modifyHeld found isHeld fun handle =>
      { handle with firesAt := earlier handle.firesAt (some instant) }
    refine ⟨?_, ?_⟩
    · rw [held, IsHeld, IsHeld, changed, found]
      simp
    · rw [firesAt, found] at fires
      rw [firesAt, changed]
      refine (fires.either (.single instant)).congr fun other => ?_
      have wasHeld := reflects.held.mp ⟨handle, found, isHeld⟩
      simp [cancels_snoc, wasHeld, eq_comm]
  · have same := getElem?_modifyHeld_of_not own fun handle =>
      { handle with firesAt := earlier handle.firesAt (some instant) }
    refine ⟨?_, ?_⟩
    · rw [held, IsHeld, IsHeld, same]
    · rw [firesAt, same]
      refine EarliestOf.congr fires fun other => ?_
      rw [cancels_snoc, ← reflects.held]
      refine ⟨.inl, fun either => either.resolve_right ?_⟩
      rintro ⟨⟨⟩, isHeld⟩
      exact own ⟨rfl, isHeld⟩

/-- A drop keeps them in step: the handle is no longer held, but still fires when it would have
fired.
-/
theorem reflects_drop (reflects : handles.Reflects steps id) (dropped : Nat)
    : (handles.drop dropped).Reflects (steps ++ [.drop dropped]) id := by
  have fires := reflects.fires
  have unchanged (instant : Instant)
      : Cancels steps id instant ↔ Cancels (steps ++ [.drop dropped]) id instant := by
    simp [cancels_snoc]
  unfold Handles.drop
  by_cases own : dropped = id ∧ handles.IsHeld id
  · obtain ⟨rfl, handle, found, isHeld⟩ := own
    have changed := getElem?_modifyHeld found isHeld fun handle => { handle with held := false }
    refine ⟨?_, EarliestOf.congr ?_ unchanged⟩
    · rw [held_snoc, IsHeld, changed]
      simp
    · rw [firesAt, found] at fires
      rwa [firesAt, changed]
  · have same := getElem?_modifyHeld_of_not own fun handle => { handle with held := false }
    refine ⟨?_, EarliestOf.congr ?_ unchanged⟩
    · rw [held_snoc, ← reflects.held, IsHeld, same, ← IsHeld]
      refine ⟨fun held => .inr ⟨held, ?_⟩, ?_⟩
      · rintro ⟨⟩
        exact own ⟨rfl, held⟩
      · rintro (⟨⟨⟩, -⟩ | ⟨held, -⟩)
        exact held
    · rwa [firesAt, same]

/-- By induction on the steps. -/
theorem reflects_played (steps : List Step) (id : Nat) : (played steps).Reflects steps id := by
  induction steps using List.reverseRecOn with
  | nil =>
      have unmade : ¬ Held [] id := by simp [Held]
      refine ⟨iff_of_false (by simp [IsHeld, played]) unmade, fun instant => ?_⟩
      rintro ⟨before, after, impossible, -⟩
      simp at impossible
  | append_singleton steps step ih =>
      rw [played_snoc]
      cases step with
      | make => exact reflects_make ih (length_played steps)
      | cancelAt cancelled instant => exact reflects_cancelAt ih cancelled instant
      | drop dropped => exact reflects_drop ih dropped

/-- A handle that is dropped before it has cancelled never does, whatever is tried later. -/
theorem not_cancels_of_dropped {before : List Step} (made : id < madeCount before)
    (uncancelled : ∀ instant, .cancelAt id instant ∉ before) (after : List Step)
    (instant : Instant)
    : ¬ Cancels (before ++ .drop id :: after) id instant := by
  -- The claim alone is too weak to be kept: it holds because the handle is counted and not held.
  suffices powerless
      : id < madeCount (before ++ .drop id :: after)
        ∧ ¬ Held (before ++ .drop id :: after) id
        ∧ ∀ instant, ¬ Cancels (before ++ .drop id :: after) id instant from
    powerless.2.2 instant
  induction after using List.reverseRecOn with
  | nil =>
      refine ⟨?_, by simp [held_snoc], fun instant cancels => ?_⟩
      · rw [madeCount, List.count_append]
        exact Nat.lt_add_right _ made
      · rcases cancels_snoc.mp cancels with ⟨earlier, later, rfl, -⟩ | ⟨⟨⟩, -⟩
        exact uncancelled instant (by simp)
  | append_singleton after step ih =>
      obtain ⟨counted, unheld, never⟩ := ih
      rw [← List.cons_append, ← List.append_assoc]
      refine ⟨?_, fun held => ?_, fun instant cancels => ?_⟩
      · rw [madeCount, List.count_append]
        exact Nat.lt_add_right _ counted
      · rcases held_snoc.mp held with ⟨-, new⟩ | ⟨held, -⟩
        · exact Nat.ne_of_gt counted new
        · exact unheld held
      · rcases cancels_snoc.mp cancels with earlier | ⟨-, held⟩
        · exact never instant earlier
        · exact unheld held

end Handles

namespace SharedContext

/-- A context made with a handle, or without one, and given deadlines one after the other. -/
def derived (handle : Option Nat) (deadlines : List Instant) : SharedContext :=
  deadlines.foldl deadlineAt ⟨handle, none⟩

variable {handle : Option Nat} {deadlines : List Instant}

/-- Of several deadlines, the last one is put on top of all others. -/
theorem derived_snoc (deadline : Instant)
    : derived handle (deadlines ++ [deadline])
      = (derived handle deadlines).deadlineAt deadline := by
  rw [derived, List.foldl_append]
  rfl

/-- Deadlines leave the signal as it is. -/
theorem handle_derived (handle : Option Nat) (deadlines : List Instant)
    : (derived handle deadlines).handle = handle := by
  induction deadlines using List.reverseRecOn with
  | nil => rfl
  | append_singleton deadlines deadline ih =>
      rw [derived_snoc]
      exact ih

/-- A derived context ends at the earliest of its deadlines, by induction on them from the first to
the last.
-/
theorem earliest_deadline (handle : Option Nat) (deadlines : List Instant)
    : EarliestOf (· ∈ deadlines) (derived handle deadlines).deadline := by
  induction deadlines using List.reverseRecOn with
  | nil => exact fun _ => List.not_mem_nil
  | append_singleton deadlines deadline ih =>
      rw [derived_snoc]
      exact (ih.either (.single deadline)).congr (by simp)

/-- The signal of a context fires with the first cancellation by its handle. -/
theorem earliest_cancellation (handle : Option Nat) (deadlines : List Instant)
    (steps : List Handles.Step)
    : EarliestOf (fun instant => ∃ id ∈ handle, Handles.Cancels steps id instant)
        ((derived handle deadlines).resolve (.played steps)).cancelledAt := by
  rw [resolve, handle_derived]
  cases handle with
  | none => simp [EarliestOf]
  | some id => exact (Handles.reflects_played steps id).fires.congr (by simp)

end SharedContext

end ImageVerification
