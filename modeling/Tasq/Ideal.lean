import Mathlib.Tactic
import Tasq.Lib.Encode
import Tasq.Runtime

/-! An ideal platform: a digest function without collisions, so that what is proved under
    `CollisionFree` speaks of something, and runs can be evaluated.

    The digest of a document is its encoding; the sizes are those of an empty text. -/

namespace Tasq

open Encode

/-! ### Documents as JSON -/

theorem TaskStatus.ctorIdx_inj (a b : TaskStatus) (h : a.ctorIdx = b.ctorIdx) : a = b := by
  cases a <;> cases b <;> first | rfl | cases h

instance : Encode TaskStatus := through TaskStatus.ctorIdx TaskStatus.ctorIdx_inj

theorem CompletionMode.ctorIdx_inj (a b : CompletionMode) (h : a.ctorIdx = b.ctorIdx) : a = b := by
  cases a <;> cases b <;> first | rfl | cases h

instance : Encode CompletionMode := through CompletionMode.ctorIdx CompletionMode.ctorIdx_inj

theorem RecurrenceUnit.ctorIdx_inj (a b : RecurrenceUnit) (h : a.ctorIdx = b.ctorIdx) : a = b := by
  cases a <;> cases b <;> first | rfl | cases h

instance : Encode RecurrenceUnit := through RecurrenceUnit.ctorIdx RecurrenceUnit.ctorIdx_inj

theorem RecurrenceAnchor.ctorIdx_inj (a b : RecurrenceAnchor) (h : a.ctorIdx = b.ctorIdx) : a = b := by
  cases a <;> cases b <;> first | rfl | cases h

instance : Encode RecurrenceAnchor := through RecurrenceAnchor.ctorIdx RecurrenceAnchor.ctorIdx_inj

theorem ConflictReason.ctorIdx_inj (a b : ConflictReason) (h : a.ctorIdx = b.ctorIdx) : a = b := by
  cases a <;> cases b <;> first | rfl | cases h

instance : Encode ConflictReason := through ConflictReason.ctorIdx ConflictReason.ctorIdx_inj

instance : Encode Metadata := through Metadata.fields fun ⟨_⟩ ⟨_⟩ h => by simpa using h

instance : Encode Digest := through Digest.value fun ⟨_⟩ ⟨_⟩ h => by simpa using h

instance : Encode CommitmentFields :=
  through (fun f => (f.title, f.description, f.nextAction, f.successCriteria, f.completionMode,
    f.priority, f.estimatedMinutes, f.scheduledAt, f.dueAt, f.recurrence, f.recurrenceInterval,
    f.recurrenceAnchor, f.metadata)) (by rintro ⟨⟩ ⟨⟩ h; simpa using h)

instance : Encode EngineFields :=
  through (fun e => (e.status, e.startedAt, e.completedAt, e.lastDoneAt, e.streak,
    e.recurrenceParentId)) (by rintro ⟨⟩ ⟨⟩ h; simpa using h)

instance : Encode ReplicatedCommitmentSnapshot :=
  through (fun s => (s.toCommitmentFields, s.toEngineFields, s.id, s.createdAt, s.updatedAt,
    s.deletedAt)) (by rintro ⟨⟩ ⟨⟩ h; simpa using h)

instance : Encode SemanticState :=
  through (fun s => (s.toCommitmentFields, s.toEngineFields, s.id, s.deleted))
    (by rintro ⟨⟩ ⟨⟩ h; simpa using h)

instance : Encode ReplicatedCommitmentCreate :=
  through (fun c => (c.toCommitmentFields, c.id)) (by rintro ⟨⟩ ⟨⟩ h; simpa using h)

instance : Encode ReplicatedCommitmentPatch :=
  through (fun p => (p.title, p.description, p.nextAction, p.successCriteria, p.completionMode,
    p.priority, p.estimatedMinutes, p.scheduledAt, p.dueAt, p.recurrence, p.recurrenceInterval,
    p.recurrenceAnchor, p.metadata)) (by rintro ⟨⟩ ⟨⟩ h; simpa using h)

/-- A command as its kind and its content. -/
def ReplicationCommand.parts : ReplicationCommand → ℕ × Json
  | .createCommitment input => (0, encode input)
  | .updateCommitment id patch => (1, encode (id, patch))
  | .deleteCommitment id => (2, encode id)
  | .restoreCommitment id => (3, encode id)

instance : Encode ReplicationCommand :=
  through ReplicationCommand.parts fun a b h => by
    cases a <;> cases b <;> simp_all [ReplicationCommand.parts]

instance : Encode ReplicationRecordState :=
  through (fun s => (s.recordId, s.stateDigest, s.snapshot)) (by rintro ⟨⟩ ⟨⟩ h; simpa using h)

instance : Encode OperationOrigin :=
  through (fun o => (o.replicaId, o.generationId, o.counter, o.previousDigest))
    (by rintro ⟨⟩ ⟨⟩ h; simpa using h)

instance : Encode CausalBase :=
  through (fun c => (c.authorityReplicaId, c.authorityEpoch, c.observedSequence))
    (by rintro ⟨⟩ ⟨⟩ h; simpa using h)

instance : Encode UnsignedOperation :=
  through (fun o => (o.workspaceId, o.origin, o.causalBase, o.callerPrincipalId, o.command,
    o.preconditions, o.outcomes, o.occurredAt)) (by rintro ⟨⟩ ⟨⟩ h; simpa using h)

instance : Encode ReplicationConflict :=
  through (fun c => (c.id, c.workspaceId, c.authoritySequence, c.replicaId, c.generationId,
    c.counter, c.operationDigest, c.recordId, c.reason, c.baseSnapshot, c.authoritySnapshot,
    c.incomingSnapshot, c.principalId, c.recordedAt, c.resolvedByOperationDigest))
    (by rintro ⟨⟩ ⟨⟩ h; simpa using h)

instance : Encode ReplicationAcceptedFrontier :=
  through (fun f => (f.replicaId, f.generationId, f.acceptedCounter, f.acceptedDigest))
    (by rintro ⟨⟩ ⟨⟩ h; simpa using h)

instance : Encode ReplicationSnapshotRecord :=
  through (fun r => (r.recordId, r.stateDigest, r.snapshot)) (by rintro ⟨⟩ ⟨⟩ h; simpa using h)

instance : Encode ReplicationRetiredIdentity :=
  through (fun r => (r.recordId, r.retiredAt, r.tombstoneDigest)) (by rintro ⟨⟩ ⟨⟩ h; simpa using h)

instance : Encode UnsignedSnapshot :=
  through (fun s => (s.workspaceId, s.authorityReplicaId, s.authorityEpoch, s.coveredSequence,
    s.projectionDigest, s.acceptedFrontiers, s.records, s.retiredIdentities,
    s.unresolvedConflicts)) (by rintro ⟨⟩ ⟨⟩ h; simpa using h)

instance : Encode CursorContent :=
  through (fun c => (c.workspaceId, c.authorityReplicaId, c.authorityEpoch, c.authoritySequence))
    (by rintro ⟨⟩ ⟨⟩ h; simpa using h)

/-- A document as the number of its domain and its content. -/
def Document.parts : Document → ℕ × Json
  | .operation o => (0, encode o)
  | .commitmentState s => (1, encode s)
  | .snapshot s => (2, encode s)
  | .cursor c => (3, encode c)
  | .projectionDescriptor => (4, .null)

instance : Encode Document :=
  through Document.parts fun a b h => by cases a <;> cases b <;> simp_all [Document.parts]

/-! ### The platform -/

/-- The platform whose digests are the documents themselves. -/
def idealRuntime : Runtime where
  sha256 document := ⟨encode document⟩
  operationBytes _ := 0
  requestBytes _ := 0
  cursorLength _ := 1
  principalDigest tenantId «alias» := tenantId ++ ":" ++ «alias»

/-- A title. -/
def plainTitle : Title := ⟨"t", by decide⟩

/-- A commitment of one word. -/
def plainCommitment (id : UuidV7) (title : Title) (metadata : Metadata) :
    ReplicatedCommitmentCreate where
  id := id
  title := title
  description := none
  nextAction := none
  successCriteria := none
  completionMode := .assertion
  priority := none
  estimatedMinutes := none
  scheduledAt := none
  dueAt := none
  recurrence := none
  recurrenceInterval := 1
  recurrenceAnchor := .due
  metadata := metadata
  criteria_bounded := by simp [CriteriaBounded]

/-- The create of commitment 7. -/
def createSeven : ReplicationCommand :=
  .createCommitment (plainCommitment 7 ⟨"t", by decide⟩ ⟨[]⟩)

/-- A version of a schema or an operation. -/
def plainVersion : ℕ+ := 1

theorem idealRuntime_collisionFree : idealRuntime.CollisionFree := by
  intro a b h
  exact encode_injective (congrArg Digest.value h)

end Tasq
