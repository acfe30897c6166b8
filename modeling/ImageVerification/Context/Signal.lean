import ImageVerification.Context

/-! Contexts that share a cancel signal.

A handle fires the signal of every context that was made with it or derived from such a context.
A handle that is dropped can fire no more.
-/

namespace ImageVerification

/-- The handles made so far: whether each is still held and when its signal fires. -/
structure Handle where
  held : Bool
  firesAt : Option Instant
deriving DecidableEq

abbrev Handles := List Handle

namespace Handles

def make (handles : Handles) : Nat × Handles := (handles.length, handles ++ [⟨true, none⟩])

def modifyHeld (handles : Handles) (id : Nat) (change : Handle → Handle) : Handles :=
  handles.modify id fun handle => if handle.held then change handle else handle

/-- Fires a signal at an instant, or leaves it to fire earlier. -/
def cancelAt (handles : Handles) (id : Nat) (instant : Instant) : Handles :=
  handles.modifyHeld id fun handle =>
    { handle with firesAt := earlier handle.firesAt (some instant) }

def drop (handles : Handles) (id : Nat) : Handles :=
  handles.modifyHeld id fun handle => { handle with held := false }

def firesAt (handles : Handles) (id : Nat) : Option Instant :=
  handles[id]?.bind Handle.firesAt

end Handles

structure SharedContext where
  handle : Option Nat
  deadline : Option Instant
deriving DecidableEq

namespace SharedContext

def background : SharedContext := ⟨none, none⟩

def deadlineAt (ctx : SharedContext) (deadline : Instant) : SharedContext :=
  { ctx with deadline := earlier ctx.deadline (some deadline) }

/-- The context as long as nobody acts on a handle. -/
def resolve (ctx : SharedContext) (handles : Handles) : Context :=
  ⟨ctx.handle.bind handles.firesAt, ctx.deadline⟩

end SharedContext

end ImageVerification
