import ImageVerification.Flow.Run

/-! Attempts whose outcomes are known beforehand. -/

namespace ImageVerification.Simulation

/-- How long an attempt takes and how it ends. -/
structure ReplayedAttempt (ε α : Type) where
  delay : Nat
  outcome : Except ε α

/-- The attempts still to come; the last one repeats. -/
structure Replay (ε α : Type) where
  next : ReplayedAttempt ε α
  later : List (ReplayedAttempt ε α)

namespace Replay

variable {ε α : Type}

def advance (replay : Replay ε α) : Replay ε α :=
  match replay.later with
  | [] => replay
  | next :: later => ⟨next, later⟩

def environment : Environment Unit (fun _ => Except ε α) (Replay ε α) :=
  {
    accept := fun _ _ replay =>
      (⟨some replay.next.delay, fun _ state => (replay.next.outcome, state), some 0⟩,
        replay.advance)
    wall := fun _ => .epoch
    name := fun _ => ""
  }

end Replay

end ImageVerification.Simulation
