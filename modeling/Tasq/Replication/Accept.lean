import Mathlib.Tactic
import Tasq.Replication.Verify

/-! Acceptance at the authority: one operation in one transaction, and a push of several, whose
    earlier operations stay accepted when a later one is refused.

    A generated conflict id and the outcome of storing a signed origin proof come with the
    options, once for each operation of the push. -/

namespace Tasq

open Outcome

/-- `REPLICATION_RETENTION` -/
structure ReplicationRetention where
  activeReplicaMs : ℕ := 90 * 24 * 60 * 60 * 1000
  operationMinimumMs : ℕ := 30 * 24 * 60 * 60 * 1000
  fullTombstoneMinimumMs : ℕ := 90 * 24 * 60 * 60 * 1000

/-- `REPLICATION_RETENTION` -/
def replicationRetention : ReplicationRetention := {}

/-- A host-verified origin proof (`PreparedSignedStatementAcceptance`). -/
structure SignedOrigin where
  /-- `payload.subject.id` -/
  subjectId : Digest
  /-- `payload.subject.digest` -/
  subjectDigest : Digest
  /-- `payload.purpose.uri` is the purpose of replication origins. -/
  originPurpose : Bool
  /-- `payload.issuerPrincipalId` -/
  issuerPrincipalId : String
  /-- What storing the proof answers. -/
  persist : Call Unit

/-- `AcceptReplicationOptions`, with what the host supplies for the operation at each index. -/
structure AcceptReplicationOptions where
  authenticatedReplicaId : UuidV7
  authenticatedPrincipalId : String
  domainPrincipalId : Option String
  actor : String
  signedOrigins : Option (List SignedOrigin)
  clock : ℕ → UnixMs
  conflictId : ℕ → UuidV7

/-- The options of one operation. -/
structure AcceptContext where
  authenticatedPrincipalId : String
  domainPrincipalId : Option String
  actor : String
  now : UnixMs
  conflictId : UuidV7
  signedOrigin : Option SignedOrigin

/-- Contact with a replica generation. -/
def ReplicaRow.contacted (row : ReplicaRow) (now : UnixMs) : ReplicaRow :=
  { row with lastContactAt := now, updatedAt := now }

/-- How long a generation stays active without contact. -/
def ReplicaRow.Silent (row : ReplicaRow) (now : UnixMs) : Prop :=
  row.lastContactAt + replicationRetention.activeReplicaMs < now

instance (row : ReplicaRow) (now : UnixMs) : Decidable (row.Silent now) := by
  unfold ReplicaRow.Silent; infer_instance

/-- What a call says to a generation that it does not serve. -/
structure RegistrationTexts where
  foreign : String
  revoked : String
  stale : String

/-- The registration of a generation, checked for one call: registered, of this principal, neither
    revoked nor stale. -/
def Database.requireRegistration (db : Database) (texts : RegistrationTexts) (workspaceId : String)
    (key : Generation) (principalId : String) (now : UnixMs) : Call ReplicaRow := do
  let registration ← demand (db.within workspaceId db.replicas[key]?)
    (.protocol .replicaNotRegistered "Replica generation is not registered")
  refuse (registration.principalId ≠ principalId) (.protocol .unauthenticatedOrigin texts.foreign)
  refuse (registration.status = .revoked) (.protocol .replicaRevoked texts.revoked)
  refuse (registration.status = .stale ∨ registration.Silent now)
    (.protocol .replicaStale texts.stale)
  pure registration

/-- Store a signed origin proof, when there is one. -/
def persistSignedOrigin (origin : Option SignedOrigin) : Call Unit :=
  match origin with
  | none => pure ()
  | some o => o.persist

/-- The dot of an operation as a generation. -/
def OperationOrigin.generation (origin : OperationOrigin) : Generation :=
  Tasq.generation origin.replicaId origin.generationId

/-- The accepted row of a dot, while it is retained. -/
def Database.acceptedAt (db : Database) (origin : OperationOrigin) : Option AcceptedRow :=
  (Table.rows db.accepted fun _ row => row.replicaId = origin.replicaId &&
    row.generationId = origin.generationId && row.counter = origin.counter).head?.map Prod.snd

/-- The disposition of an operation at the frontier, with the workspace after its effect. -/
def classifyOperation (rt : Runtime) (db : Database) (operation : ReplicationOperation)
    (ctx : AcceptContext) (sequence : ℕ) (now : UnixMs) :
    Call (Database × ReplicationDisposition × Option ReplicationConflict) := do
  let recordId := operationRecordId operation.command
  let precondition ← demand operation.preconditions.head? (.invalid "ReplicationOperation")
  let intended ← demand operation.outcomes.head? (.invalid "ReplicationOperation")
  let current ← getProjection db.ledger recordId
  let currentState ← recordState rt recordId current
  let currentDigest := currentState.stateDigest
  let retired := recordId ∈ db.retired
  if currentDigest = intended.stateDigest ∧ currentDigest ≠ none then
    pure (db, .equivalent, none)
  else if retired ∨ currentDigest ≠ precondition.stateDigest then do
    let conflict ← ReplicationConflict.parse
      { id := ctx.conflictId
        workspaceId := operation.workspaceId
        authoritySequence := sequence
        replicaId := operation.origin.replicaId
        generationId := operation.origin.generationId
        counter := operation.origin.counter
        operationDigest := operation.operationDigest
        recordId := recordId
        reason := if retired then .retiredIdentity else .concurrentMutation
        baseSnapshot := precondition.snapshot
        authoritySnapshot := current
        incomingSnapshot := intended.snapshot
        principalId := ctx.authenticatedPrincipalId
        recordedAt := now
        resolvedByOperationDigest := none }
    let baseSnapshot ← replicationCanonicalJson conflict.baseSnapshot
    let authoritySnapshot ← replicationCanonicalJson conflict.authoritySnapshot
    let incomingSnapshot ← replicationCanonicalJson conflict.incomingSnapshot
    let db ← db.insertConflict { conflict with
      baseSnapshot := baseSnapshot
      authoritySnapshot := authoritySnapshot
      incomingSnapshot := incomingSnapshot }
    pure (db, .conflicted, some conflict)
  else do
    let (ledger, snapshot) ← applyCommandInTransaction rt db.ledger operation.command
      ⟨ctx.actor, some (ctx.domainPrincipalId.getD ctx.authenticatedPrincipalId), now⟩
    let digest ← stateDigest rt snapshot
    refuse (some digest ≠ intended.stateDigest)
      (.protocol .operationDigestMismatch "Service outcome differs from the declared canonical outcome")
    pure ({ db with ledger := ledger }, .applied, none)

/-- `acceptOneOperation` -/
def acceptOneOperation (rt : Runtime) (db : Database) (operation : ReplicationOperation)
    (ctx : AcceptContext) : Call (Database × ReplicationOperationResult) := do
  let now ← clockSnapshot ctx.now
  let authority ← db.requireAuthority operation.workspaceId
  refuse (operation.causalBase.authorityReplicaId ≠ authority.authorityReplicaId ∨
      operation.causalBase.authorityEpoch ≠ authority.authorityEpoch)
    (.protocol .authorityEpochMismatch "Operation targets another authority epoch")
  refuse (operation.causalBase.observedSequence > authority.currentSequence)
    (.protocol .authorityEpochMismatch "Operation observes a future authority sequence")
  let key := operation.origin.generation
  let registration ← db.requireRegistration
    ⟨"Authenticated principal does not own this replica generation", "Replica generation is revoked",
      "Replica generation must bootstrap from a snapshot"⟩
    operation.workspaceId key ctx.authenticatedPrincipalId now
  match db.acceptedAt operation.origin with
  | some prior => do
    refuse (prior.operationDigest ≠ operation.operationDigest)
      (.protocol .identityCorruption "One operation dot has two different digests")
    persistSignedOrigin ctx.signedOrigin
    let result ← ReplicationOperationResult.parse prior.result
    pure ({ db with replicas := db.replicas.insert key (registration.contacted now) }, result)
  | none => do
    refuse (operation.origin.counter ≠ registration.acceptedCounter + 1)
      (.protocol .originGap
        s!"Expected origin counter {registration.acceptedCounter + 1}, got {operation.origin.counter}")
    refuse (operation.origin.previousDigest ≠ registration.acceptedDigest)
      (.protocol .predecessorMismatch "Operation predecessor digest is not the accepted frontier")
    let sequence := authority.currentSequence + 1
    let (db, disposition, conflict) ← classifyOperation rt db operation ctx sequence now
    let acceptedResult ← ReplicationOperationResult.parse
      { replicaId := operation.origin.replicaId
        generationId := operation.origin.generationId
        counter := operation.origin.counter
        operationDigest := operation.operationDigest
        disposition := disposition
        authoritySequence := sequence
        conflict := conflict }
    let operationJson ← replicationCanonicalJson operation
    let resultJson ← replicationCanonicalJson acceptedResult
    let db ← db.insertAccepted sequence
      { replicaId := operation.origin.replicaId
        generationId := operation.origin.generationId
        counter := operation.origin.counter
        operationDigest := operation.operationDigest
        operation := operationJson
        disposition := disposition
        result := resultJson
        recordedAt := now }
    persistSignedOrigin ctx.signedOrigin
    let registration : ReplicaRow := { registration.contacted now with
      acceptedCounter := operation.origin.counter
      acceptedDigest := some operation.operationDigest }
    pure ({ db with
      authority := some { authority with currentSequence := sequence, updatedAt := now }
      replicas := db.replicas.insert key registration }, acceptedResult)

/-! ### A push of several operations -/

/-- The origin proof whose subject is the operation. -/
def AcceptReplicationOptions.signedOrigin (options : AcceptReplicationOptions) (digest : Digest) :
    Option SignedOrigin :=
  (options.signedOrigins.getD []).reverse.find? (·.subjectId = digest)

/-- The options of the operation at an index of the push. -/
def AcceptReplicationOptions.context (options : AcceptReplicationOptions) (index : ℕ)
    (operation : ReplicationOperation) : AcceptContext where
  authenticatedPrincipalId := options.authenticatedPrincipalId
  domainPrincipalId := options.domainPrincipalId
  actor := options.actor
  now := options.clock index
  conflictId := options.conflictId index
  signedOrigin := options.signedOrigin operation.operationDigest

/-- The checks on one operation of a push, before any is accepted. -/
def admitOperation (rt : Runtime) (request : ReplicationPushRequest)
    (options : AcceptReplicationOptions) (index : ℕ) (operation : ReplicationOperation) :
    Call Unit := do
  refuse (operation.workspaceId ≠ request.workspaceId ∨
      operation.origin.replicaId ≠ request.replicaId ∨
      operation.origin.generationId ≠ request.generationId)
    (.protocol .unauthenticatedOrigin s!"Operation {index} escapes the push origin")
  refuse (operation.callerPrincipalId ≠ options.authenticatedPrincipalId)
    (.protocol .unauthenticatedOrigin s!"Operation {index} principal is not authenticated")
  refuse (options.signedOrigins.isSome ∧
      ¬ ∃ o ∈ options.signedOrigin operation.operationDigest, o.originPurpose = true ∧
        o.subjectDigest = operation.operationDigest ∧
        o.issuerPrincipalId = options.authenticatedPrincipalId)
    (.protocol .unauthenticatedOrigin
      s!"Operation {index} lacks an exact signer/transport-bound origin proof")
  let operationJson ← replicationCanonicalJson operation
  refuse (rt.operationBytes operationJson > replicationLimits.operationBytes)
    (.protocol .payloadTooLarge s!"Operation {index} exceeds 1 MiB")
  verifyOperation rt operation

/-- The checks of a push that read no state, up to the parsed request. -/
def admitReplicationPush (rt : Runtime) (input : ReplicationPushRequest)
    (options : AcceptReplicationOptions) : Call ReplicationPushRequest := do
  assertNonBlank options.authenticatedPrincipalId "authenticatedPrincipalId"
  assertNonBlank options.actor "actor"
  let request ← ReplicationPushRequest.parse input
  let requestJson ← replicationCanonicalJson request
  refuse (rt.requestBytes requestJson > replicationLimits.pushBytes)
    (.protocol .payloadTooLarge "Replication push exceeds 8 MiB")
  refuse (request.replicaId ≠ options.authenticatedReplicaId)
    (.protocol .unauthenticatedOrigin "Authenticated replica does not match push origin")
  refuse (¬ ((options.signedOrigins.getD []).map (·.subjectId)).Nodup)
    (.protocol .identityCorruption "Signed replication origin identities must be unique")
  refuse (∃ origins ∈ options.signedOrigins, origins.length ≠ request.operations.length)
    (.protocol .unauthenticatedOrigin
      "Signed replication mode requires exactly one origin proof per operation")
  (request.operations.zipIdx.forM fun entry => admitOperation rt request options entry.2 entry.1)
  pure request

/-- The loop over the operations of a push: each in its own transaction, up to the first refusal. -/
def acceptOperations (rt : Runtime) (options : AcceptReplicationOptions) :
    ℕ → Database → List ReplicationOperation → Database × Call (List ReplicationOperationResult)
  | _, db, [] => (db, .ok [])
  | index, db, operation :: operations =>
    match acceptOneOperation rt db operation (options.context index operation) with
    | .error e => (db, .error e)
    | .ok (db, result) =>
      let (db, results) := acceptOperations rt options (index + 1) db operations
      (db, (result :: ·) <$> results)

/-- `encodeCursor` -/
def encodeCursor (rt : Runtime) (content : CursorContent) : Call Cursor := do
  let digest ← replicationDigest rt .cursor content
  pure (.payload { content with digest := digest })

/-- The length of the text of a cursor. -/
def Cursor.textLength (rt : Runtime) : Cursor → ℕ
  | .payload p => rt.cursorLength p
  | .other text => Text.utf16Length text

/-- What the response schema checks and the types do not carry. -/
def ReplicationPushResponse.WellFormed (rt : Runtime) (r : ReplicationPushResponse) : Prop :=
  NonBlank r.workspaceId ∧ (1 ≤ r.results.length ∧ r.results.length ≤ 500) ∧
    (∀ result ∈ r.results, result.WellFormed) ∧ IsCounter r.acknowledgedCounter ∧
    (1 ≤ r.cursor.textLength rt ∧ r.cursor.textLength rt ≤ 4096)

instance (rt : Runtime) (r : ReplicationPushResponse) : Decidable (r.WellFormed rt) := by
  unfold ReplicationPushResponse.WellFormed; infer_instance

/-- `ReplicationPushResponse.parse` -/
def ReplicationPushResponse.parse (rt : Runtime) (r : ReplicationPushResponse) :
    Call ReplicationPushResponse := do
  refuse (¬ r.WellFormed rt) (.invalid "ReplicationPushResponse")
  pure { r with
    workspaceId := Text.jsTrim r.workspaceId
    results := r.results.map ReplicationOperationResult.trimmed }

/-- The response to a push whose operations were all accepted. -/
def respondToPush (rt : Runtime) (db : Database) (request : ReplicationPushRequest)
    (results : List ReplicationOperationResult) : Call ReplicationPushResponse := do
  let authority ← demand (db.within request.workspaceId db.authority)
    (.protocol .authorityNotInitialized "Authority disappeared")
  let last ← demand results.getLast? (.invalid "ReplicationPushResponse")
  let cursor ← encodeCursor rt ⟨request.workspaceId, authority.authorityReplicaId,
    authority.authorityEpoch, authority.currentSequence⟩
  ReplicationPushResponse.parse rt
    { workspaceId := request.workspaceId
      authorityReplicaId := authority.authorityReplicaId
      authorityEpoch := authority.authorityEpoch
      results := results
      acknowledgedCounter := last.counter
      cursor := cursor }

/-- `acceptReplicationPush`: what it leaves in the store, and what it answers. -/
def acceptReplicationPush (rt : Runtime) (db : Database) (input : ReplicationPushRequest)
    (options : AcceptReplicationOptions) : Database × Call ReplicationPushResponse :=
  match admitReplicationPush rt input options with
  | .error e => (db, .error e)
  | .ok request =>
    let (db, results) := acceptOperations rt options 0 db request.operations
    (db, do respondToPush rt db request (← results))

end Tasq
