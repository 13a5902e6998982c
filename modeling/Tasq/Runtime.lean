import Mathlib.Tactic
import Tasq.Schema.Replication

/-! What the services take from the platform: the digest function, the sizes of canonical texts,
    and the deterministic name of a workspace-local principal.

    `CollisionFree` is the property of the digest function that the protocol relies on; the results
    that need it name it. -/

namespace Tasq

open Text Outcome

/-- What a digest is taken of: the domain of the digest with canonical content. -/
inductive Document where
  | operation (o : UnsignedOperation)
  | commitmentState (s : SemanticState)
  | snapshot (s : UnsignedSnapshot)
  | cursor (c : CursorContent)
  | projectionDescriptor
  deriving DecidableEq

/-- The platform under the services. -/
structure Runtime where
  /-- `sha256Digest` of the domain, a zero byte and the canonical text. -/
  sha256 : Document → Digest
  /-- `Buffer.byteLength` of the canonical text of an operation. -/
  operationBytes : ReplicationOperation → ℕ
  /-- `Buffer.byteLength` of the canonical text of a push request. -/
  requestBytes : ReplicationPushRequest → ℕ
  /-- The length of the text of a cursor. -/
  cursorLength : CursorPayload → ℕ
  /-- The hex digest that names a principal whose plain name would be too long. -/
  principalDigest : String → String → String

/-- No two documents share a digest. -/
def Runtime.CollisionFree (rt : Runtime) : Prop := Function.Injective rt.sha256

section Digests

variable {α : Type} [CanonicalJson α]

/-- `replicationCanonicalJson`: what a reader of the canonical text gets back. -/
def replicationCanonicalJson (value : α) : Call α := do
  refuse (safe value = false) (.error "Replication JSON number must be a safe integer")
  pure (canonical value)

/-- `replicationDigest`, in the domain that `domain` names. -/
def replicationDigest (rt : Runtime) (domain : α → Document) (value : α) : Call Digest := do
  let text ← replicationCanonicalJson value
  pure (rt.sha256 (domain text))

theorem replicationCanonicalJson_eq_ok (value text : α) :
    replicationCanonicalJson value = .ok text ↔ safe value = true ∧ canonical value = text := by
  simp [replicationCanonicalJson, map_eq_ok]

theorem replicationDigest_eq_ok (rt : Runtime) (domain : α → Document) (value : α) (d : Digest) :
    replicationDigest rt domain value = .ok d ↔
      safe value = true ∧ rt.sha256 (domain (canonical value)) = d := by
  simp [replicationDigest, map_eq_ok, replicationCanonicalJson_eq_ok, and_assoc]

end Digests

variable (rt : Runtime)

/-- `operationDigest` -/
def operationDigest (operation : UnsignedOperation) : Call Digest :=
  replicationDigest rt .operation operation

/-- `semanticState` -/
def semanticState (s : ReplicatedCommitmentSnapshot) : SemanticState :=
  { s with deleted := s.deletedAt.isSome }

/-- `stateDigest` -/
def stateDigest (snapshot : ReplicatedCommitmentSnapshot) : Call Digest :=
  replicationDigest rt .commitmentState (semanticState snapshot)

/-- `snapshotDigest` -/
def snapshotDigest (snapshot : UnsignedSnapshot) : Call Digest :=
  replicationDigest rt .snapshot snapshot

/-- `REPLICATION_PROJECTION_DIGEST` -/
def replicationProjectionDigest : Digest := rt.sha256 .projectionDescriptor

/-- The digest that `stateDigest` answers. -/
def Runtime.stateOf (snapshot : ReplicatedCommitmentSnapshot) : Digest :=
  rt.sha256 (.commitmentState (canonical (semanticState snapshot)))

/-- The digest that `operationDigest` answers. -/
def Runtime.operationOf (operation : UnsignedOperation) : Digest :=
  rt.sha256 (.operation (canonical operation))

theorem stateDigest_eq_ok (s : ReplicatedCommitmentSnapshot) (d : Digest) :
    stateDigest rt s = .ok d ↔ safe (semanticState s) = true ∧ rt.stateOf s = d :=
  replicationDigest_eq_ok rt _ _ _

theorem operationDigest_eq_ok (o : UnsignedOperation) (d : Digest) :
    operationDigest rt o = .ok d ↔ safe o = true ∧ rt.operationOf o = d :=
  replicationDigest_eq_ok rt _ _ _

@[simp] theorem semanticState_canonical (s : ReplicatedCommitmentSnapshot) :
    semanticState (canonical s) = canonical (semanticState s) := rfl

/-- The state digest does not depend on the order of keys. -/
@[simp] theorem Runtime.stateOf_canonical (s : ReplicatedCommitmentSnapshot) :
    rt.stateOf (canonical s) = rt.stateOf s := by
  simp [Runtime.stateOf]

/-- The operation digest does not depend on the order of keys. -/
@[simp] theorem Runtime.operationOf_canonical (o : UnsignedOperation) :
    rt.operationOf (canonical o) = rt.operationOf o := by
  simp [Runtime.operationOf]

variable {rt}

/-- Without collisions, equal state digests mean equal canonical states. -/
theorem Runtime.CollisionFree.state_eq (h : rt.CollisionFree) {s t : ReplicatedCommitmentSnapshot} :
    rt.stateOf s = rt.stateOf t ↔ canonical (semanticState s) = canonical (semanticState t) := by
  simp [Runtime.stateOf, h.eq_iff]

/-- Without collisions, equal operation digests mean equal canonical contents. -/
theorem Runtime.CollisionFree.operation_eq (h : rt.CollisionFree) {o p : UnsignedOperation} :
    rt.operationOf o = rt.operationOf p ↔ canonical o = canonical p := by
  simp [Runtime.operationOf, h.eq_iff]

variable (rt)

/-! ### Principal names -/

/-- A hex digit. -/
def hexDigit (n : ℕ) : Char := if n < 10 then Char.ofNat (48 + n) else Char.ofNat (87 + n)

/-- `Buffer.from(s).toString("hex")` -/
def hex (s : String) : String :=
  String.ofList (s.toUTF8.toList.flatMap fun b => [hexDigit (b.toNat / 16), hexDigit (b.toNat % 16)])

/-- `localPrincipalId` -/
def localPrincipalId (tenantId «alias» : String) : String :=
  let legacy := "urn:tasq:local-principal:" ++ hex tenantId ++ ":" ++ hex «alias»
  if legacy.length ≤ 500 then legacy
  else "urn:tasq:local-principal:sha256:" ++ rt.principalDigest tenantId «alias»

end Tasq
