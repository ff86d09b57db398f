import UnitOfWork.Ambient

/-!
# Adapters

An adapter lets a connection take part in a unit of work. It begins a transaction of its own and hands
out a handle, or joins an ambient transaction. Adapters are written over the monad of the driver, so
one definition of the unit of work serves every driver.
-/

set_option autoImplicit false

namespace UnitOfWork

/-- A connection able to take part; handles are of type `H`. -/
structure Adapter (m : Type → Type) (H : Type) where
  name : String
  beginOwn : IsolationLevel → m (Except ParticipantError H)
  joinAmbient : Ambient → m (Except ParticipantError Unit)

end UnitOfWork
