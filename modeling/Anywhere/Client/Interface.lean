import Anywhere.Client.Basic

/-!
# The interface to the client library

The client library has to be initialized once in every process that uses it. Its state does not
survive a fork: a child process that inherits the interface has to initialize the library anew
before it uses it, and must leave the parent's library alone when it lets go of an interface that
it has not made its own.
-/

namespace Anywhere

/-- The right to use the client library in the process that owns it. -/
structure Interface where
  owner : Nat
deriving DecidableEq, Repr

namespace Interface

variable {σ κ η : Type} (client : Client σ κ η)

/-- Initializes the client library in a process. -/
def new (process : Nat) : Action σ Interface := do
  if ← Action.ask client .init then return ⟨process⟩
  throw (.interface .notInitialized)

/-- The interface belongs to another process. -/
def isStale (i : Interface) (process : Nat) : Bool := i.owner != process

/-- Makes the interface the process's own, and tells whether that changed anything. -/
def afterFork (process : Nat) : Operation Interface σ Bool := do
  if !(← Operation.track).isStale process then return false
  Operation.ask client .fini
  if !(← Operation.ask client .init) then throw (.interface (.notReinitialized process))
  Operation.update fun _ => ⟨process⟩
  return true

/-- Lets go of the interface. -/
def close (i : Interface) (process : Nat) : Action σ Unit := do
  if !i.isStale process then Action.ask client .fini

end Interface

end Anywhere
