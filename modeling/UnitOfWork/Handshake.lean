import UnitOfWork.Refusal

/-!
# Failures of a numbered handshake

The failures of a coordinator that knows its participants by number only. They show every answer a
failure can give: a refusal that stays, an outcome nobody knows, and a busy participant that says
when to come back.
-/

set_option autoImplicit false

namespace UnitOfWork

/-- Why a handshake with a numbered participant failed. -/
inductive HandshakeError where
  | refusedToBegin (participant : Nat)
  | indeterminate (participant : Nat)
  | busy (participant : Nat) (wait : Duration)
  | refused (refusal : Refusal)
deriving DecidableEq

namespace HandshakeError

def message : HandshakeError → String
  | .refusedToBegin participant => s!"participant {participant} refused to begin"
  | .indeterminate participant => s!"participant {participant} commit outcome unknown"
  | .busy participant _ => s!"participant {participant} busy"
  | .refused refusal => refusal.message

instance : Classified HandshakeError where
  classify
    | .refusedToBegin _ => .plain
    | .indeterminate _ => ⟨false, .critical, true, none⟩
    | .busy _ wait => ⟨true, .warning, false, some wait⟩
    | .refused refusal => classify refusal

end HandshakeError

end UnitOfWork
