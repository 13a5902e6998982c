import Mathlib.Tactic
import Tasq.Lib.Outcome

/-! How a service call can fail: the errors the services throw themselves, and the refusals of the
    schema parser and of the database under them. -/

namespace Tasq

/-- `ReplicationProblemCode` -/
inductive ReplicationProblemCode where
  | authorityNotInitialized
  | replicaNotRegistered
  | replicaStale
  | replicaRevoked
  | originGap
  | predecessorMismatch
  | identityCorruption
  | operationDigestMismatch
  | authorityEpochMismatch
  | unauthenticatedOrigin
  | unsupportedOperation
  | projectionViolation
  | payloadTooLarge
  deriving DecidableEq, Repr

/-- What a refused call throws. -/
inductive Failure where
  /-- `new Error(message)` -/
  | error (message : String)
  /-- `new ReplicationProtocolError(code, message)` -/
  | protocol (code : ReplicationProblemCode) (message : String)
  /-- A value that the named schema does not admit. -/
  | invalid (schema : String)
  /-- A row that a constraint or a trigger of the database does not admit. -/
  | constraint (name : String)
  /-- A recursion that does not come to an end. -/
  | unbounded
  deriving DecidableEq, Repr

/-- The failure carries this protocol code. -/
def Failure.HasCode (code : ReplicationProblemCode) : Failure → Prop
  | .protocol c _ => c = code
  | _ => False

instance (code : ReplicationProblemCode) (f : Failure) : Decidable (f.HasCode code) := by
  cases f <;> unfold Failure.HasCode <;> infer_instance

/-- A call on a state: the new state with the answer, or a refusal that changes nothing. -/
abbrev Call (σ : Type) := Except Failure σ

end Tasq
