import Mathlib.Tactic
import Tasq.Failure
import Tasq.Schema.Commitment

/-! The documents of the replication contract: operations, results, conflicts, snapshots, and the
    push messages that carry them.

    Contract version literals are left out. `parse` is the schema parser: it checks the bounds that
    the types do not already carry and, as `z.string().trim()` does, returns the texts trimmed. A
    digest is taken of a `Document`: the domain name and the canonical content. -/

namespace Tasq

open Text

/-- A `sha256:` digest. Only equality of digests matters; a JSON value is room enough for a digest
    without collisions. -/
structure Digest where
  value : Json
  deriving DecidableEq

/-! ### Bounds -/

/-- `z.string().trim().min(1).max(1_000)` admits the text. -/
def NonBlank (s : String) : Prop := 1 ≤ utf16Length (jsTrim s) ∧ utf16Length (jsTrim s) ≤ 1000

/-- `z.number().int().positive().safe()` -/
def IsCounter (n : ℕ) : Prop := 1 ≤ n ∧ n ≤ Json.maxSafeInteger

/-- `z.number().int().nonnegative().safe()` -/
def IsSequence (n : ℕ) : Prop := n ≤ Json.maxSafeInteger

instance (s : String) : Decidable (NonBlank s) := by unfold NonBlank; infer_instance
instance (n : ℕ) : Decidable (IsCounter n) := by unfold IsCounter; infer_instance
instance (n : ℕ) : Decidable (IsSequence n) := by unfold IsSequence; infer_instance

@[simp] theorem nonBlank_jsTrim (s : String) : NonBlank (jsTrim s) ↔ NonBlank s := by
  simp [NonBlank]

/-! ### Operations -/

/-- `semanticState`: the projection without the recording times, with the tombstone as a flag. -/
structure SemanticState extends CommitmentFields, EngineFields where
  id : UuidV7
  deleted : Bool
  deriving DecidableEq

/-- `ReplicationRecordState` -/
structure ReplicationRecordState where
  recordId : UuidV7
  stateDigest : Option Digest
  snapshot : Option ReplicatedCommitmentSnapshot
  deriving DecidableEq

/-- The origin of an operation: its dot and the digest of the operation before it. -/
structure OperationOrigin where
  replicaId : UuidV7
  generationId : UuidV7
  counter : ℕ
  previousDigest : Option Digest
  deriving DecidableEq

structure CausalBase where
  authorityReplicaId : UuidV7
  authorityEpoch : UuidV7
  observedSequence : ℕ
  deriving DecidableEq

/-- `Omit<ReplicationOperation, "operationDigest">` -/
structure UnsignedOperation where
  workspaceId : String
  origin : OperationOrigin
  causalBase : CausalBase
  callerPrincipalId : String
  command : ReplicationCommand
  preconditions : List ReplicationRecordState
  outcomes : List ReplicationRecordState
  occurredAt : UnixMs
  deriving DecidableEq

/-- `ReplicationOperation` -/
structure ReplicationOperation extends UnsignedOperation where
  operationDigest : Digest
  deriving DecidableEq

/-! ### Results and conflicts -/

inductive ConflictReason where
  | concurrentMutation | retiredIdentity
  deriving DecidableEq, Repr

/-- `ReplicationConflict` -/
structure ReplicationConflict where
  id : UuidV7
  workspaceId : String
  authoritySequence : ℕ
  replicaId : UuidV7
  generationId : UuidV7
  counter : ℕ
  operationDigest : Digest
  recordId : UuidV7
  reason : ConflictReason
  baseSnapshot : Option ReplicatedCommitmentSnapshot
  authoritySnapshot : Option ReplicatedCommitmentSnapshot
  incomingSnapshot : Option ReplicatedCommitmentSnapshot
  principalId : String
  recordedAt : UnixMs
  resolvedByOperationDigest : Option Digest
  deriving DecidableEq

inductive ReplicationDisposition where
  | applied | equivalent | conflicted
  deriving DecidableEq, Repr

/-- `ReplicationOperationResult` -/
structure ReplicationOperationResult where
  replicaId : UuidV7
  generationId : UuidV7
  counter : ℕ
  operationDigest : Digest
  disposition : ReplicationDisposition
  authoritySequence : ℕ
  conflict : Option ReplicationConflict
  deriving DecidableEq

/-! ### Snapshots -/

/-- `ReplicationAcceptedFrontier` -/
structure ReplicationAcceptedFrontier where
  replicaId : UuidV7
  generationId : UuidV7
  acceptedCounter : ℕ
  acceptedDigest : Option Digest
  deriving DecidableEq

/-- `ReplicationSnapshotRecord` -/
structure ReplicationSnapshotRecord where
  recordId : UuidV7
  stateDigest : Digest
  snapshot : ReplicatedCommitmentSnapshot
  deriving DecidableEq

/-- `ReplicationRetiredIdentity` -/
structure ReplicationRetiredIdentity where
  recordId : UuidV7
  retiredAt : UnixMs
  tombstoneDigest : Digest
  deriving DecidableEq

/-- `Omit<ReplicationSnapshot, "snapshotDigest">` -/
structure UnsignedSnapshot where
  workspaceId : String
  authorityReplicaId : UuidV7
  authorityEpoch : UuidV7
  coveredSequence : ℕ
  projectionDigest : Digest
  acceptedFrontiers : List ReplicationAcceptedFrontier
  records : List ReplicationSnapshotRecord
  retiredIdentities : List ReplicationRetiredIdentity
  unresolvedConflicts : List ReplicationConflict
  deriving DecidableEq

/-- `ReplicationSnapshot` -/
structure ReplicationSnapshot extends UnsignedSnapshot where
  snapshotDigest : Digest
  deriving DecidableEq

/-! ### Messages -/

/-- The content of a pull cursor, without its digest. -/
structure CursorContent where
  workspaceId : String
  authorityReplicaId : UuidV7
  authorityEpoch : UuidV7
  authoritySequence : ℕ
  deriving DecidableEq

/-- `CursorPayload` -/
structure CursorPayload extends CursorContent where
  digest : Digest
  deriving DecidableEq

/-- A cursor text: one that decodes to a payload, or any other. -/
inductive Cursor where
  | payload (p : CursorPayload)
  | other (text : String)
  deriving DecidableEq

/-- `ReplicationPushRequest` -/
structure ReplicationPushRequest where
  workspaceId : String
  replicaId : UuidV7
  generationId : UuidV7
  operations : List ReplicationOperation
  deriving DecidableEq

/-- `ReplicationPushResponse` -/
structure ReplicationPushResponse where
  workspaceId : String
  authorityReplicaId : UuidV7
  authorityEpoch : UuidV7
  results : List ReplicationOperationResult
  acknowledgedCounter : ℕ
  cursor : Cursor
  deriving DecidableEq

/-! ### Canonical form -/

instance : CanonicalJson SemanticState where
  canonical s := { s with toCommitmentFields := canonical s.toCommitmentFields }
  safe s := safe s.toCommitmentFields && safe s.toEngineFields
  canonical_canonical s := by simp
  safe_canonical s := by simp

instance : CanonicalJson ReplicationRecordState where
  canonical s := { s with snapshot := canonical s.snapshot }
  safe s := safe s.snapshot
  canonical_canonical s := by simp
  safe_canonical s := by simp

instance : CanonicalJson UnsignedOperation where
  canonical o := { o with
    command := canonical o.command
    preconditions := canonical o.preconditions
    outcomes := canonical o.outcomes }
  safe o := safe o.origin.counter && safe o.causalBase.observedSequence && safe o.command &&
    safe o.preconditions && safe o.outcomes && safe o.occurredAt
  canonical_canonical o := by simp
  safe_canonical o := by simp

instance : CanonicalJson ReplicationOperation where
  canonical o := { o with toUnsignedOperation := canonical o.toUnsignedOperation }
  safe o := safe o.toUnsignedOperation
  canonical_canonical o := by simp
  safe_canonical o := by simp

instance : CanonicalJson ReplicationConflict where
  canonical c := { c with
    baseSnapshot := canonical c.baseSnapshot
    authoritySnapshot := canonical c.authoritySnapshot
    incomingSnapshot := canonical c.incomingSnapshot }
  safe c := safe c.authoritySequence && safe c.counter && safe c.baseSnapshot &&
    safe c.authoritySnapshot && safe c.incomingSnapshot && safe c.recordedAt
  canonical_canonical c := by simp
  safe_canonical c := by simp

instance : CanonicalJson ReplicationOperationResult where
  canonical r := { r with conflict := canonical r.conflict }
  safe r := safe r.counter && safe r.authoritySequence && safe r.conflict
  canonical_canonical r := by simp
  safe_canonical r := by simp

instance : CanonicalJson ReplicationAcceptedFrontier where
  canonical f := f
  safe f := safe f.acceptedCounter
  canonical_canonical _ := rfl
  safe_canonical _ := rfl

instance : CanonicalJson ReplicationSnapshotRecord where
  canonical r := { r with snapshot := canonical r.snapshot }
  safe r := safe r.snapshot
  canonical_canonical r := by simp
  safe_canonical r := by simp

instance : CanonicalJson ReplicationRetiredIdentity where
  canonical r := r
  safe r := safe r.retiredAt
  canonical_canonical _ := rfl
  safe_canonical _ := rfl

instance : CanonicalJson UnsignedSnapshot where
  canonical s := { s with
    records := canonical s.records
    unresolvedConflicts := canonical s.unresolvedConflicts }
  safe s := safe s.coveredSequence && safe s.acceptedFrontiers && safe s.records &&
    safe s.retiredIdentities && safe s.unresolvedConflicts
  canonical_canonical s := by simp
  safe_canonical s := by simp

instance : CanonicalJson CursorContent where
  canonical c := c
  safe c := safe c.authoritySequence
  canonical_canonical _ := rfl
  safe_canonical _ := rfl

instance : CanonicalJson ReplicationPushRequest where
  canonical r := { r with operations := canonical r.operations }
  safe r := safe r.operations
  canonical_canonical r := by simp
  safe_canonical r := by simp

theorem ReplicationConflict.safe_iff (c : ReplicationConflict) :
    safe c = true ↔ c.authoritySequence ≤ Json.maxSafeInteger ∧ c.counter ≤ Json.maxSafeInteger ∧
      safe c.baseSnapshot = true ∧ safe c.authoritySnapshot = true ∧
      safe c.incomingSnapshot = true ∧ c.recordedAt ≤ Json.maxSafeInteger := by
  change (safe c.authoritySequence && safe c.counter && safe c.baseSnapshot &&
    safe c.authoritySnapshot && safe c.incomingSnapshot && safe c.recordedAt) = true ↔ _
  simp only [Bool.and_eq_true, CanonicalJson.safe_nat, and_assoc]

theorem UnsignedSnapshot.safe_iff (s : UnsignedSnapshot) :
    safe s = true ↔ s.coveredSequence ≤ Json.maxSafeInteger ∧
      (∀ f ∈ s.acceptedFrontiers, f.acceptedCounter ≤ Json.maxSafeInteger) ∧
      (∀ r ∈ s.records, safe r.snapshot = true) ∧
      (∀ r ∈ s.retiredIdentities, r.retiredAt ≤ Json.maxSafeInteger) ∧
      ∀ c ∈ s.unresolvedConflicts, safe c = true := by
  change (safe s.coveredSequence && safe s.acceptedFrontiers && safe s.records &&
    safe s.retiredIdentities && safe s.unresolvedConflicts) = true ↔ _
  simp only [Bool.and_eq_true, CanonicalJson.safe_nat, CanonicalJson.safe_list, and_assoc]
  have hf (f : ReplicationAcceptedFrontier) :
      safe f = true ↔ f.acceptedCounter ≤ Json.maxSafeInteger := CanonicalJson.safe_nat _
  have hr (r : ReplicationRetiredIdentity) :
      safe r = true ↔ r.retiredAt ≤ Json.maxSafeInteger := CanonicalJson.safe_nat _
  have hs (r : ReplicationSnapshotRecord) : safe r = safe r.snapshot := rfl
  simp only [hf, hr, hs]

/-! ### Parsing -/

namespace UnsignedOperation

/-- The texts of the operation as the parser returns them. -/
def trimmed (o : UnsignedOperation) : UnsignedOperation :=
  { o with workspaceId := jsTrim o.workspaceId, callerPrincipalId := jsTrim o.callerPrincipalId }

/-- What the schema checks and the types do not carry. -/
def WellFormed (o : UnsignedOperation) : Prop :=
  NonBlank o.workspaceId ∧ NonBlank o.callerPrincipalId ∧ IsCounter o.origin.counter ∧
    IsSequence o.causalBase.observedSequence ∧
    (1 ≤ o.preconditions.length ∧ o.preconditions.length ≤ 64) ∧
    (1 ≤ o.outcomes.length ∧ o.outcomes.length ≤ 64)

instance (o : UnsignedOperation) : Decidable o.WellFormed := by unfold WellFormed; infer_instance

end UnsignedOperation

namespace ReplicationOperation

/-- The texts of the operation as the parser returns them. -/
def trimmed (o : ReplicationOperation) : ReplicationOperation :=
  { o with toUnsignedOperation := o.toUnsignedOperation.trimmed }

/-- `ReplicationOperation.parse` -/
def parse (o : ReplicationOperation) : Call ReplicationOperation := do
  Outcome.refuse (¬ o.WellFormed) (.invalid "ReplicationOperation")
  pure o.trimmed

end ReplicationOperation

namespace ReplicationConflict

def trimmed (c : ReplicationConflict) : ReplicationConflict :=
  { c with workspaceId := jsTrim c.workspaceId, principalId := jsTrim c.principalId }

def WellFormed (c : ReplicationConflict) : Prop :=
  NonBlank c.workspaceId ∧ NonBlank c.principalId ∧ IsCounter c.authoritySequence ∧
    IsCounter c.counter

instance (c : ReplicationConflict) : Decidable c.WellFormed := by unfold WellFormed; infer_instance

/-- `ReplicationConflict.parse` -/
def parse (c : ReplicationConflict) : Call ReplicationConflict := do
  Outcome.refuse (¬ c.WellFormed) (.invalid "ReplicationConflict")
  pure c.trimmed

end ReplicationConflict

namespace ReplicationOperationResult

def trimmed (r : ReplicationOperationResult) : ReplicationOperationResult :=
  { r with conflict := r.conflict.map ReplicationConflict.trimmed }

def WellFormed (r : ReplicationOperationResult) : Prop :=
  IsCounter r.counter ∧ IsCounter r.authoritySequence ∧ ∀ c ∈ r.conflict, c.WellFormed

instance (r : ReplicationOperationResult) : Decidable r.WellFormed := by
  unfold WellFormed; infer_instance

/-- `ReplicationOperationResult.parse` -/
def parse (r : ReplicationOperationResult) : Call ReplicationOperationResult := do
  Outcome.refuse (¬ r.WellFormed) (.invalid "ReplicationOperationResult")
  pure r.trimmed

end ReplicationOperationResult

namespace UnsignedSnapshot

def trimmed (s : UnsignedSnapshot) : UnsignedSnapshot :=
  { s with
    workspaceId := jsTrim s.workspaceId
    unresolvedConflicts := s.unresolvedConflicts.map ReplicationConflict.trimmed }

def WellFormed (s : UnsignedSnapshot) : Prop :=
  NonBlank s.workspaceId ∧ IsSequence s.coveredSequence ∧
    s.acceptedFrontiers.length ≤ 100000 ∧ s.records.length ≤ 100000 ∧
    s.retiredIdentities.length ≤ 100000 ∧ s.unresolvedConflicts.length ≤ 100000 ∧
    (∀ f ∈ s.acceptedFrontiers, IsSequence f.acceptedCounter ∧
      (f.acceptedCounter = 0 ↔ f.acceptedDigest = none)) ∧
    ∀ c ∈ s.unresolvedConflicts, c.WellFormed

instance (s : UnsignedSnapshot) : Decidable s.WellFormed := by unfold WellFormed; infer_instance

end UnsignedSnapshot

/-- `ReplicationSnapshot.parse` -/
def ReplicationSnapshot.parse (s : ReplicationSnapshot) : Call ReplicationSnapshot := do
  Outcome.refuse (¬ s.WellFormed) (.invalid "ReplicationSnapshot")
  pure { s with toUnsignedSnapshot := s.toUnsignedSnapshot.trimmed }

namespace ReplicationPushRequest

def WellFormed (r : ReplicationPushRequest) : Prop :=
  NonBlank r.workspaceId ∧ (1 ≤ r.operations.length ∧ r.operations.length ≤ 500) ∧
    ∀ o ∈ r.operations, o.WellFormed

instance (r : ReplicationPushRequest) : Decidable r.WellFormed := by
  unfold WellFormed; infer_instance

/-- `ReplicationPushRequest.parse` -/
def parse (r : ReplicationPushRequest) : Call ReplicationPushRequest := do
  Outcome.refuse (¬ r.WellFormed) (.invalid "ReplicationPushRequest")
  pure { r with
    workspaceId := jsTrim r.workspaceId
    operations := r.operations.map ReplicationOperation.trimmed }

end ReplicationPushRequest

/-! ### What parsing and canonical form leave alone -/

@[simp] theorem UnsignedOperation.trimmed_trimmed (o : UnsignedOperation) :
    o.trimmed.trimmed = o.trimmed := by
  simp [UnsignedOperation.trimmed]

@[simp] theorem UnsignedOperation.wellFormed_trimmed (o : UnsignedOperation) :
    o.trimmed.WellFormed ↔ o.WellFormed := by
  simp [UnsignedOperation.trimmed, UnsignedOperation.WellFormed]

@[simp] theorem UnsignedOperation.wellFormed_canonical (o : UnsignedOperation) :
    (canonical o).WellFormed ↔ o.WellFormed := by
  simp [canonical, UnsignedOperation.WellFormed]

@[simp] theorem UnsignedOperation.canonical_trimmed (o : UnsignedOperation) :
    canonical o.trimmed = (canonical o).trimmed := rfl

@[simp] theorem UnsignedOperation.safe_trimmed (o : UnsignedOperation) :
    safe o.trimmed = safe o := rfl

@[simp] theorem ReplicationOperation.canonical_trimmed (o : ReplicationOperation) :
    canonical o.trimmed = (canonical o).trimmed := rfl

@[simp] theorem ReplicationOperation.trimmed_trimmed (o : ReplicationOperation) :
    o.trimmed.trimmed = o.trimmed := by
  simp [ReplicationOperation.trimmed]

@[simp] theorem ReplicationConflict.trimmed_trimmed (c : ReplicationConflict) :
    c.trimmed.trimmed = c.trimmed := by
  simp [ReplicationConflict.trimmed]

theorem ReplicationConflict.parse_eq_ok (c d : ReplicationConflict) :
    c.parse = .ok d ↔ c.WellFormed ∧ c.trimmed = d := by
  simp [ReplicationConflict.parse, Outcome.map_eq_ok]

theorem ReplicationOperation.parse_eq_ok (o p : ReplicationOperation) :
    o.parse = .ok p ↔ o.WellFormed ∧ o.trimmed = p := by
  simp [ReplicationOperation.parse, Outcome.map_eq_ok]

@[simp] theorem ReplicationConflict.wellFormed_trimmed (c : ReplicationConflict) :
    c.trimmed.WellFormed ↔ c.WellFormed := by
  simp [ReplicationConflict.trimmed, ReplicationConflict.WellFormed]

@[simp] theorem ReplicationOperationResult.wellFormed_trimmed (r : ReplicationOperationResult) :
    r.trimmed.WellFormed ↔ r.WellFormed := by
  obtain ⟨_, _, _, _, _, _, conflict⟩ := r
  cases conflict <;>
    simp [ReplicationOperationResult.trimmed, ReplicationOperationResult.WellFormed]

@[simp] theorem ReplicationOperationResult.wellFormed_canonical (r : ReplicationOperationResult) :
    (canonical r).WellFormed ↔ r.WellFormed := by
  obtain ⟨_, _, _, _, _, _, conflict⟩ := r
  cases conflict <;>
    simp [canonical, ReplicationOperationResult.WellFormed, ReplicationConflict.WellFormed]

@[simp] theorem ReplicationOperationResult.trimmed_trimmed (r : ReplicationOperationResult) :
    r.trimmed.trimmed = r.trimmed := by
  obtain ⟨_, _, _, _, _, _, conflict⟩ := r
  cases conflict <;> simp [ReplicationOperationResult.trimmed]

theorem ReplicationOperationResult.parse_eq_ok (r s : ReplicationOperationResult) :
    r.parse = .ok s ↔ r.WellFormed ∧ r.trimmed = s := by
  simp [ReplicationOperationResult.parse, Outcome.map_eq_ok]

@[simp] theorem UnsignedSnapshot.trimmed_trimmed (s : UnsignedSnapshot) :
    s.trimmed.trimmed = s.trimmed := by
  simp [UnsignedSnapshot.trimmed]

@[simp] theorem UnsignedSnapshot.wellFormed_trimmed (s : UnsignedSnapshot) :
    s.trimmed.WellFormed ↔ s.WellFormed := by
  simp [UnsignedSnapshot.trimmed, UnsignedSnapshot.WellFormed]

end Tasq
