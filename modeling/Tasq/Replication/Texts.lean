import Mathlib.Tactic
import Tasq.Lib.Size
import Tasq.Replication.Paging
import Tasq.Work.Store

/-! The documents of the replication contract as JSON, for the sizes of their texts.

    Only lengths matter here: an id and a digest have one length each, whatever they are. The text of
    a page is its frame with the texts of its items in it, and the text of a push request is its
    frame with the texts of its operations. -/

namespace Tasq

open Json (bytes serialize quote)

/-- The texts of ids and digests. -/
structure DocumentNames where
  uuid : UuidV7 → String
  digest : Digest → String

/-- The text of a unit. -/
def RecurrenceUnit.text : RecurrenceUnit → String
  | .daily => "daily"
  | .weekly => "weekly"
  | .monthly => "monthly"
  | .yearly => "yearly"

/-- The text of an anchor. -/
def RecurrenceAnchor.text : RecurrenceAnchor → String
  | .due => "due"
  | .scheduled => "scheduled"
  | .completion => "completion"

/-- The text of a mode. -/
def CompletionMode.text : CompletionMode → String
  | .assertion => "assertion"
  | .evidence => "evidence"

/-- The text of a reason. -/
def ConflictReason.text : ConflictReason → String
  | .concurrentMutation => "concurrent_mutation"
  | .retiredIdentity => "retired_identity"

/-- A value that may be null. -/
def nullable {α : Type} (json : α → Json) (o : Option α) : Json := o.elim .null json

/-- A number. -/
def natJson (n : ℕ) : Json := .num n

/-- The fields that a create or a patch may set, by name. -/
def CommitmentFields.entries (f : CommitmentFields) : List (String × Json) :=
  [("title", .str f.title.1),
    ("description", nullable .str f.description),
    ("nextAction", nullable .str f.nextAction),
    ("successCriteria", nullable .str f.successCriteria),
    ("completionMode", .str f.completionMode.text),
    ("priority", nullable (fun p : Priority => natJson p.1) f.priority),
    ("estimatedMinutes", nullable (fun n : ℕ+ => natJson n) f.estimatedMinutes),
    ("scheduledAt", nullable natJson f.scheduledAt),
    ("dueAt", nullable natJson f.dueAt),
    ("recurrence", nullable (fun u => .str u.text) f.recurrence),
    ("recurrenceInterval", natJson f.recurrenceInterval),
    ("recurrenceAnchor", .str f.recurrenceAnchor.text),
    ("metadata", .obj f.metadata.fields)]

/-- The fields of a patch that are there. -/
def ReplicatedCommitmentPatch.entries (p : ReplicatedCommitmentPatch) : List (String × Json) :=
  let entry {α : Type} (name : String) (json : α → Json) (o : Option α) : List (String × Json) :=
    o.toList.map fun a => (name, json a)
  entry "title" (fun t => .str t.1) p.title ++
    entry "description" (nullable .str) p.description ++
    entry "nextAction" (nullable .str) p.nextAction ++
    entry "successCriteria" (nullable fun c : Criteria => .str c.1) p.successCriteria ++
    entry "completionMode" (fun m => .str m.text) p.completionMode ++
    entry "priority" (nullable fun n : Priority => natJson n.1) p.priority ++
    entry "estimatedMinutes" (nullable fun n : ℕ+ => natJson n) p.estimatedMinutes ++
    entry "scheduledAt" (nullable natJson) p.scheduledAt ++
    entry "dueAt" (nullable natJson) p.dueAt ++
    entry "recurrence" (nullable fun u => .str u.text) p.recurrence ++
    entry "recurrenceInterval" (fun n : ℕ+ => natJson n) p.recurrenceInterval ++
    entry "recurrenceAnchor" (fun a => .str a.text) p.recurrenceAnchor ++
    entry "metadata" (fun m => .obj m.fields) p.metadata

namespace DocumentNames

variable (names : DocumentNames)

def id (id : UuidV7) : Json := .str (names.uuid id)

def sha (d : Digest) : Json := .str (names.digest d)

/-- The fields that only the engine sets, by name. -/
def engine (e : EngineFields) : List (String × Json) :=
  [("status", .str e.status.text),
    ("startedAt", nullable natJson e.startedAt),
    ("completedAt", nullable natJson e.completedAt),
    ("lastDoneAt", nullable natJson e.lastDoneAt),
    ("streak", natJson e.streak),
    ("recurrenceParentId", nullable names.id e.recurrenceParentId)]

/-- `ReplicatedCommitmentSnapshot` -/
def snapshot (s : ReplicatedCommitmentSnapshot) : Json :=
  .obj (s.toCommitmentFields.entries ++ names.engine s.toEngineFields ++
    [("id", names.id s.id),
      ("createdAt", natJson s.createdAt),
      ("updatedAt", natJson s.updatedAt),
      ("deletedAt", nullable natJson s.deletedAt)])

/-- `ReplicationCommand` -/
def command (c : ReplicationCommand) : Json :=
  let of (uri : String) (input : List (String × Json)) : Json :=
    .obj [("operationUri", .str uri), ("operationVersion", natJson 1), ("input", .obj input)]
  match c with
  | .createCommitment input => of "urn:tasq:replication:commitment.create.v1"
      (("id", names.id input.id) :: input.toCommitmentFields.entries)
  | .updateCommitment id patch => of "urn:tasq:replication:commitment.update.v1"
      [("id", names.id id), ("patch", .obj patch.1.entries)]
  | .deleteCommitment id => of "urn:tasq:replication:commitment.delete.v1" [("id", names.id id)]
  | .restoreCommitment id => of "urn:tasq:replication:commitment.restore.v1" [("id", names.id id)]

/-- `ReplicationRecordState` -/
def recordState (s : ReplicationRecordState) : Json :=
  .obj [("recordType", .str "commitment"),
    ("recordId", names.id s.recordId),
    ("stateDigest", nullable names.sha s.stateDigest),
    ("snapshot", nullable names.snapshot s.snapshot)]

/-- `ReplicationOperation` -/
def operation (o : ReplicationOperation) : Json :=
  .obj [("contractVersion", .str "tasq.replication-operation.v1"),
    ("workspaceId", .str o.workspaceId),
    ("origin", .obj [("replicaId", names.id o.origin.replicaId),
      ("generationId", names.id o.origin.generationId),
      ("counter", natJson o.origin.counter),
      ("previousDigest", nullable names.sha o.origin.previousDigest)]),
    ("causalBase", .obj [("authorityReplicaId", names.id o.causalBase.authorityReplicaId),
      ("authorityEpoch", names.id o.causalBase.authorityEpoch),
      ("observedSequence", natJson o.causalBase.observedSequence)]),
    ("caller", .obj [("principalId", .str o.callerPrincipalId)]),
    ("command", names.command o.command),
    ("preconditions", .arr (o.preconditions.map names.recordState)),
    ("outcomes", .arr (o.outcomes.map names.recordState)),
    ("occurredAt", natJson o.occurredAt),
    ("digestVersion", .str "tasq.replication-jcs.sha256.v1"),
    ("operationDigest", names.sha o.operationDigest)]

/-- `ReplicationConflict` -/
def conflict (c : ReplicationConflict) : Json :=
  .obj [("id", names.id c.id),
    ("workspaceId", .str c.workspaceId),
    ("authoritySequence", natJson c.authoritySequence),
    ("replicaId", names.id c.replicaId),
    ("generationId", names.id c.generationId),
    ("counter", natJson c.counter),
    ("operationDigest", names.sha c.operationDigest),
    ("recordType", .str "commitment"),
    ("recordId", names.id c.recordId),
    ("reason", .str c.reason.text),
    ("baseSnapshot", nullable names.snapshot c.baseSnapshot),
    ("authoritySnapshot", nullable names.snapshot c.authoritySnapshot),
    ("incomingSnapshot", nullable names.snapshot c.incomingSnapshot),
    ("principalId", .str c.principalId),
    ("recordedAt", natJson c.recordedAt),
    ("resolvedByOperationDigest", nullable names.sha c.resolvedByOperationDigest)]

/-- `ReplicationAcceptedFrontier` -/
def frontier (f : ReplicationAcceptedFrontier) : Json :=
  .obj [("replicaId", names.id f.replicaId),
    ("generationId", names.id f.generationId),
    ("acceptedCounter", natJson f.acceptedCounter),
    ("acceptedDigest", nullable names.sha f.acceptedDigest)]

/-- `ReplicationSnapshotRecord` -/
def record (r : ReplicationSnapshotRecord) : Json :=
  .obj [("recordType", .str "commitment"),
    ("recordId", names.id r.recordId),
    ("stateDigest", names.sha r.stateDigest),
    ("snapshot", names.snapshot r.snapshot)]

/-- `ReplicationRetiredIdentity` -/
def retired (r : ReplicationRetiredIdentity) : Json :=
  .obj [("recordType", .str "commitment"),
    ("recordId", names.id r.recordId),
    ("retiredAt", natJson r.retiredAt),
    ("tombstoneDigest", names.sha r.tombstoneDigest)]

/-- `ReplicationSnapshotPageItem` -/
def item (i : ReplicationSnapshotPageItem) : Json :=
  let of (kind : String) (value : Json) : Json := .obj [("kind", .str kind), ("value", value)]
  match i with
  | .acceptedFrontier value => of "accepted_frontier" (names.frontier value)
  | .record value => of "record" (names.record value)
  | .retiredIdentity value => of "retired_identity" (names.retired value)
  | .unresolvedConflict value => of "unresolved_conflict" (names.conflict value)

/-- `ReplicationSnapshotPage` -/
def page (p : ReplicationSnapshotPage) : Json :=
  .obj [("contractVersion", .str "tasq.replication-snapshot-page.v1"),
    ("snapshotDigest", names.sha p.snapshotDigest),
    ("pageIndex", natJson p.pageIndex),
    ("pageCount", natJson p.pageCount),
    ("items", .arr (p.items.map names.item)),
    ("pageDigest", names.sha p.pageDigest)]

/-- `ReplicationPushRequest` -/
def request (r : ReplicationPushRequest) : Json :=
  .obj [("contractVersion", .str "tasq.replication-push.v1"),
    ("workspaceId", .str r.workspaceId),
    ("replicaId", names.id r.replicaId),
    ("generationId", names.id r.generationId),
    ("operations", .arr (r.operations.map names.operation))]

/-- An id is a UUID, and a digest is `sha256:` with 64 hex digits: with their quotation marks they
    have 38 and 73 bytes. -/
structure Sized : Prop where
  uuid : ∀ id, bytes (quote (names.uuid id)) = 38
  digest : ∀ d, bytes (quote (names.digest d)) = 73

/-- The platform counts the bytes of canonical texts. -/
structure Measures (rt : PagingRuntime) : Prop where
  sized : names.Sized
  page : ∀ p, rt.pageBytes p = bytes (serialize (names.page p))
  operation : ∀ o, rt.operationBytes o = bytes (serialize (names.operation o))
  request : ∀ r, rt.requestBytes r = bytes (serialize (names.request r))

/-! ### Texts in frames -/

/-- The bytes of a list of texts, with the commas between them. -/
def listed (sizes : List ℕ) : ℕ := sizes.sum + (sizes.length - 1)

/-- The bytes of the text of an item. -/
def itemBytes (i : ReplicationSnapshotPageItem) : ℕ := bytes (serialize (names.item i))

/-- The bytes of the text of an operation. -/
def operationBytes (o : ReplicationOperation) : ℕ := bytes (serialize (names.operation o))

/-- The bytes of a page without its items: the names of the fields, two digests and two numbers. -/
def pageFrame (pageIndex pageCount : ℕ) : ℕ :=
  270 + (toString pageIndex).length + (toString pageCount).length

/-- The bytes of a push request without its operations. -/
def requestFrame (workspaceId : String) : ℕ := 182 + bytes (quote workspaceId)

theorem bytes_object (fields : List (String × Json)) : bytes (serialize (.obj fields)) =
    2 + (fields.map fun f => bytes (quote f.1) + 1 + bytes (serialize f.2)).sum +
      (fields.length - 1) := by
  have h := congrArg Json.Size.bytes (Json.size_obj fields)
  simpa [Json.size, Json.sizeFields, Function.comp_def] using h

theorem bytes_array (items : List Json) : bytes (serialize (.arr items)) =
    2 + listed (items.map fun a => bytes (serialize a)) := by
  have h := congrArg Json.Size.bytes (Json.size_arr items)
  simpa [Json.size, Json.sizeItems, Function.comp_def, listed, Nat.add_assoc] using h

theorem bytes_text (s : String) : bytes (serialize (.str s)) = bytes (quote s) := by
  rw [serialize]

theorem bytes_of_digits {cs : List Char} (h : ∀ c ∈ cs, c.isDigit = true) :
    bytes cs = cs.length := by
  induction cs with
  | nil => rfl
  | cons c cs ih =>
    obtain ⟨hc, hcs⟩ := List.forall_mem_cons.1 h
    have hsize : c.utf8Size = 1 := by
      have hdigit : c.val ≤ 57 := by
        simp only [Char.isDigit, Bool.and_eq_true, decide_eq_true_eq] at hc
        exact hc.2
      have hle : c.val ≤ 127 := UInt32.le_trans hdigit (by decide)
      simp [Char.utf8Size, hle]
    rw [Json.bytes_cons, ih hcs, hsize, List.length_cons, Nat.add_comm]

theorem bytes_nat (n : ℕ) : bytes (serialize (natJson n)) = (toString n).length := by
  have hrepr : (toString n).toList = Nat.toDigits 10 n := Nat.toList_repr
  have htext : serialize (natJson n) = (toString n).toList := by
    rw [natJson, serialize, Rat.num_natCast]
    rfl
  rw [htext, ← String.length_toList, bytes_of_digits]
  rw [hrepr]
  exact fun c hc => Nat.isDigit_of_mem_toDigits (n := n) (b := 10) (by decide) (by decide) hc

variable {names}

/-- The text of a page. -/
theorem bytes_page (hsized : names.Sized) (p : ReplicationSnapshotPage) :
    bytes (serialize (names.page p)) =
      pageFrame p.pageIndex p.pageCount + listed (p.items.map names.itemBytes) := by
  have hkeys : [bytes (quote "contractVersion"), bytes (quote "snapshotDigest"),
      bytes (quote "pageIndex"), bytes (quote "pageCount"), bytes (quote "items"),
      bytes (quote "pageDigest"), bytes (quote "tasq.replication-snapshot-page.v1")] =
      [17, 16, 11, 11, 7, 12, 35] := by decide +kernel
  simp only [List.cons.injEq, and_true] at hkeys
  simp only [page, sha, bytes_object, bytes_array, bytes_nat, bytes_text, hsized.digest, hkeys,
    List.map_cons, List.map_nil, List.map_map, List.sum_cons, List.sum_nil, List.length_cons,
    List.length_nil, Function.comp_def, pageFrame]
  have hitems : (fun i => bytes (serialize (names.item i))) = names.itemBytes := rfl
  rw [hitems]
  omega

/-- The text of a push request. -/
theorem bytes_request (hsized : names.Sized) (r : ReplicationPushRequest) :
    bytes (serialize (names.request r)) =
      requestFrame r.workspaceId + listed (r.operations.map names.operationBytes) := by
  have hkeys : [bytes (quote "contractVersion"), bytes (quote "workspaceId"),
      bytes (quote "replicaId"), bytes (quote "generationId"), bytes (quote "operations"),
      bytes (quote "tasq.replication-push.v1")] = [17, 13, 11, 14, 12, 26] := by decide +kernel
  simp only [List.cons.injEq, and_true] at hkeys
  simp only [request, id, bytes_object, bytes_array, bytes_text, hsized.uuid, hkeys,
    List.map_cons, List.map_nil, List.map_map, List.sum_cons, List.sum_nil, List.length_cons,
    List.length_nil, Function.comp_def, requestFrame]
  have hoperations : (fun o => bytes (serialize (names.operation o))) = names.operationBytes := rfl
  rw [hoperations]
  omega

/-- The text of a commitment under another id and with another description. -/
theorem bytes_snapshot (hsized : names.Sized) (s : ReplicatedCommitmentSnapshot) (id : UuidV7)
    (description : String) :
    bytes (serialize (names.snapshot { s with id := id, description := some description })) +
        bytes (serialize (nullable .str s.description)) =
      bytes (serialize (names.snapshot s)) + bytes (quote description) := by
  have hdescription : bytes (serialize (nullable Json.str (some description))) =
      bytes (quote description) := bytes_text _
  simp only [snapshot, CommitmentFields.entries, DocumentNames.id, bytes_object, bytes_text,
    hsized.uuid, List.map_append, List.map_cons, List.map_nil, List.sum_append, List.sum_cons,
    List.sum_nil, List.length_append, List.length_cons, List.length_nil]
  omega

/-- The texts of two records differ in length as their commitments do. -/
theorem bytes_record (hsized : names.Sized) (r r' : ReplicationSnapshotRecord) :
    names.itemBytes (.record r) + bytes (serialize (names.snapshot r'.snapshot)) =
      names.itemBytes (.record r') + bytes (serialize (names.snapshot r.snapshot)) := by
  simp only [itemBytes, item, record, DocumentNames.id, sha, bytes_object, bytes_text, hsized.uuid,
    hsized.digest, List.map_cons, List.map_nil, List.sum_cons, List.sum_nil, List.length_cons,
    List.length_nil]
  omega

end DocumentNames

end Tasq
