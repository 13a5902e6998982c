import Mathlib.Tactic
import Tasq.Authority.Runtime
import Tasq.Lib.Rows

/-! The tables of the authority store, and the wrapper that every mutation of a workspace goes
    through: one guarded transaction that replays a known operation, or checks the expected
    revision, applies the mutation, raises the revision, and records audit and result.

    A refused transaction is rolled back. Clock readings are inputs. -/

namespace Tasq.Authority

open Text Outcome Rows

/-- A row of `host_tenant`. -/
structure HostTenant where
  id : String
  createdAt : ℕ
  deriving DecidableEq, Repr

/-- A row of `hosted_workspace`. -/
structure HostedWorkspace where
  workspaceId : String
  hostTenantId : String
  storageBindingId : String
  status : EnabledStatus
  authorityRevision : ℕ
  createdAt : ℕ
  updatedAt : ℕ
  deriving DecidableEq, Repr

inductive PermissionSetStatus where
  | active | retired
  deriving DecidableEq, Repr

/-- A row of `permission_set`. -/
structure PermissionSetRow where
  workspaceId : String
  definition : PermissionSetDefinition
  status : PermissionSetStatus
  revision : ℕ
  deriving DecidableEq

/-- The tables that mutations of a workspace write. -/
structure AuthorityRows where
  principals : List AuthorityPrincipal
  bindings : List SubjectBinding
  permissionSets : List PermissionSetRow
  grants : List AuthorizationGrant
  delegations : List Delegation
  eligibilities : List AuthorityEligibility
  enrollments : List EnrollmentRecord
  credentials : List AccessCredentialRecord
  deriving DecidableEq

/-- A row of `authority_audit`. -/
structure AuditRow where
  eventId : String
  workspaceId : Option String
  occurredAt : ℕ
  actorPrincipalId : Option String
  eventType : String
  targetType : String
  targetId : String
  authorityRevision : Option ℕ
  requestDigest : Digest
  reason : String
  deriving DecidableEq

/-- A row of `authority_idempotency`. -/
structure IdempotencyRow where
  operationId : String
  workspaceId : Option String
  operation : String
  requestDigest : Digest
  result : AuthorityMutationResult
  createdAt : ℕ
  deriving DecidableEq

/-- A row of `authorization_decision`. -/
structure DecisionRow where
  workspaceId : String
  requestId : String
  authorityRevision : Option ℕ
  envelopeDigest : Digest
  decision : AuthorizationDecision
  deriving DecidableEq

/-- The authority store. -/
structure AuthorityStore extends AuthorityRows where
  tenants : List HostTenant
  workspaces : List HostedWorkspace
  audit : List AuditRow
  idempotency : List IdempotencyRow
  decisions : List DecisionRow
  deriving DecidableEq

/-- The tables of a new database. -/
def AuthorityStore.empty : AuthorityStore where
  principals := []
  bindings := []
  permissionSets := []
  grants := []
  delegations := []
  eligibilities := []
  enrollments := []
  credentials := []
  tenants := []
  workspaces := []
  audit := []
  idempotency := []
  decisions := []

/-! ### Refusals -/

/-- `mapAuthorityStoreError` of a failed uniqueness constraint. -/
def alreadyExists : AuthorityFailure := .store .alreadyExists "authority identity already exists"

/-- `mapAuthorityStoreError` of a failed foreign key. -/
def missingReference : AuthorityFailure :=
  .store .notFound "referenced authority record does not exist"

/-- `mapAuthorityStoreError` of a record that a schema does not admit. -/
def corruptRecord : AuthorityFailure :=
  .store .authorityCorrupt "stored authority record violates its strict contract"

/-- A column that `integer` refuses. -/
def corruptColumn (key : String) : AuthorityFailure :=
  .store .authorityCorrupt s!"authority column {key} is invalid"

/-! ### What the schemas admit -/

/-- `AuthorityMutationContext` -/
def IsMutationContext (context : AuthorityMutationContext) : Prop :=
  IsOpaqueId context.operationId ∧ (∀ id ∈ context.actorPrincipalId, IsOpaqueId id) ∧
    1 ≤ utf16Length context.reason ∧ utf16Length context.reason ≤ 1000

instance (context : AuthorityMutationContext) : Decidable (IsMutationContext context) := by
  unfold IsMutationContext; infer_instance

/-- `AuthorityMutationResultSchema` -/
def IsMutationResult (result : AuthorityMutationResult) : Prop :=
  IsOpaqueId result.operationId ∧ (∀ id ∈ result.workspaceId, IsWorkspaceId id) ∧
    IsOpaqueId result.operation ∧ IsOpaqueId result.targetType ∧ IsId 1000 result.targetId ∧
    IsUnixMs result.occurredAt

instance (result : AuthorityMutationResult) : Decidable (IsMutationResult result) := by
  unfold IsMutationResult; infer_instance

namespace AuthorityStore

variable (rt : AuthorityRuntime) (s : AuthorityStore)

/-! ### Replays -/

/-- `findIdempotent` -/
def findIdempotent (operationId : String) (requestDigest : Digest) :
    AuthorityCall (Option AuthorityMutationResult) :=
  match s.idempotency.find? (·.operationId = operationId) with
  | none => pure none
  | some row => do
    refuse (row.requestDigest ≠ requestDigest)
      (.store .idempotencyConflict s!"operation {operationId} was reused with different input")
    refuse (¬ IsMutationResult row.result) corruptRecord
    pure (some { row.result with replayed := true })

/-- The result of a mutation that is not a replay. -/
def mutationResult (m : Mutation) (context : AuthorityMutationContext) (revision now : ℕ) :
    AuthorityMutationResult where
  operationId := context.operationId
  workspaceId := some m.workspaceId
  operation := m.operation
  targetType := m.targetType
  targetId := m.targetId
  authorityRevision := some revision
  occurredAt := now
  replayed := false

/-- The audit row of a mutation. -/
def mutationAudit (m : Mutation) (context : AuthorityMutationContext) (requestDigest : Digest)
    (revision now : ℕ) : AuditRow where
  eventId := context.operationId
  workspaceId := some m.workspaceId
  occurredAt := now
  actorPrincipalId := context.actorPrincipalId
  eventType := m.operation
  targetType := m.targetType
  targetId := m.targetId
  authorityRevision := some revision
  requestDigest := requestDigest
  reason := context.reason

/-- The idempotency row of a result. -/
def idempotencyRow (result : AuthorityMutationResult) (requestDigest : Digest) : IdempotencyRow where
  operationId := result.operationId
  workspaceId := result.workspaceId
  operation := result.operation
  requestDigest := requestDigest
  result := result
  createdAt := result.occurredAt

/-- `workspaceFromRow` -/
def workspaceFromRow (workspace : HostedWorkspace) : AuthorityCall HostedWorkspace := do
  refuse (Json.maxSafeInteger < workspace.authorityRevision) (corruptColumn "authority_revision")
  pure workspace

/-- The part of `workspaceMutation` that a replay does not reach. -/
def commitMutation (m : Mutation) (context : AuthorityMutationContext) (expected : ℕ)
    (requestDigest : Digest) (now : ℕ) (apply : AuthorityRows → AuthorityCall AuthorityRows) :
    AuthorityCall (AuthorityStore × AuthorityMutationResult) := do
  let row ← demand (s.workspaces.find? (·.workspaceId = m.workspaceId))
    (.store .notFound s!"workspace {m.workspaceId} does not exist")
  let workspace ← workspaceFromRow row
  refuse (workspace.status ≠ .enabled)
    (.store .workspaceDisabled s!"workspace {m.workspaceId} is disabled")
  refuse (workspace.authorityRevision ≠ expected)
    (.store .revisionConflict s!"workspace authority revision is {workspace.authorityRevision}")
  let rows ← apply s.toAuthorityRows
  refuse (now < workspace.updatedAt) (.constraint "invalid hosted workspace lifecycle")
  let workspaces ← updateRow s.workspaces
    (fun w => w.workspaceId = m.workspaceId ∧ w.authorityRevision = workspace.authorityRevision ∧
      w.status = .enabled)
    (fun w => { w with authorityRevision := workspace.authorityRevision + 1, updatedAt := now })
    (.store .revisionConflict "workspace authority changed concurrently")
  let result := mutationResult m context (workspace.authorityRevision + 1) now
  refuse (¬ IsMutationResult result) corruptRecord
  let audit ← insertRow s.audit (·.eventId = context.operationId)
    (mutationAudit m context requestDigest (workspace.authorityRevision + 1) now) alreadyExists
  let idempotency ← insertRow s.idempotency (·.operationId = context.operationId)
    (idempotencyRow result requestDigest) alreadyExists
  pure ({ s with toAuthorityRows := rows, workspaces, audit, idempotency }, result)

/-- `workspaceMutation` -/
def workspaceMutation (m : Mutation) (context : AuthorityMutationContext) (now : ℕ)
    (apply : AuthorityRows → AuthorityCall AuthorityRows) :
    AuthorityCall (AuthorityStore × AuthorityMutationResult) := do
  refuse (¬ IsWorkspaceId m.workspaceId) (.invalid "WorkspaceId")
  refuse (¬ IsMutationContext context) (.invalid "AuthorityMutationContext")
  let expected ← demand context.expectedAuthorityRevision
    (.store .revisionConflict "workspace mutation requires expectedAuthorityRevision")
  refuse (¬ IsUnixMs now) (.invalid "UnixMs")
  let requestDigest ← rt.digestAuthorityValue (.mutation m context)
  let replay ← s.findIdempotent context.operationId requestDigest
  match replay with
  | some result => pure (s, result)
  | none => s.commitMutation m context expected requestDigest now apply

/-! ### Provisioning -/

/-- `provisionHostTenant` -/
def provisionHostTenant (id : String) (context : AuthorityMutationContext) (now : ℕ) :
    AuthorityCall (AuthorityStore × AuthorityMutationResult) := do
  refuse (¬ IsOpaqueId id) (.invalid "Id")
  let context := { context with expectedAuthorityRevision := none }
  refuse (¬ IsMutationContext context) (.invalid "AuthorityMutationContext")
  refuse (¬ IsUnixMs now) (.invalid "UnixMs")
  let requestDigest ← rt.digestAuthorityValue (.hostTenant id context)
  let replay ← s.findIdempotent context.operationId requestDigest
  match replay with
  | some result => pure (s, result)
  | none => do
    let tenants ← insertRow s.tenants (·.id = id) ⟨id, now⟩ alreadyExists
    let result : AuthorityMutationResult :=
      { operationId := context.operationId, workspaceId := none
        operation := "host_tenant.provision", targetType := "host_tenant", targetId := id
        authorityRevision := none, occurredAt := now, replayed := false }
    refuse (¬ IsMutationResult result) corruptRecord
    let audit ← insertRow s.audit (·.eventId = context.operationId)
      { eventId := context.operationId, workspaceId := none, occurredAt := now
        actorPrincipalId := context.actorPrincipalId, eventType := "host_tenant.provision"
        targetType := "host_tenant", targetId := id, authorityRevision := none
        requestDigest := requestDigest, reason := context.reason } alreadyExists
    let idempotency ← insertRow s.idempotency (·.operationId = context.operationId)
      (idempotencyRow result requestDigest) alreadyExists
    pure ({ s with tenants, audit, idempotency }, result)

/-- `provisionWorkspace` -/
def provisionWorkspace (workspaceId hostTenantId storageBindingId : String)
    (context : AuthorityMutationContext) (now : ℕ) :
    AuthorityCall (AuthorityStore × AuthorityMutationResult) := do
  refuse (¬ IsWorkspaceId workspaceId) (.invalid "WorkspaceId")
  refuse (¬ IsOpaqueId hostTenantId) (.invalid "Id")
  refuse (¬ IsOpaqueId storageBindingId) (.invalid "Id")
  let context := { context with expectedAuthorityRevision := none }
  refuse (¬ IsMutationContext context) (.invalid "AuthorityMutationContext")
  refuse (¬ IsUnixMs now) (.invalid "UnixMs")
  let requestDigest ← rt.digestAuthorityValue
    (.workspace workspaceId hostTenantId storageBindingId context)
  let replay ← s.findIdempotent context.operationId requestDigest
  match replay with
  | some result => pure (s, result)
  | none => do
    let workspaces ← insertRow s.workspaces
      (fun w => w.workspaceId = workspaceId ∨ w.storageBindingId = storageBindingId)
      { workspaceId, hostTenantId, storageBindingId, status := .enabled, authorityRevision := 0
        createdAt := now, updatedAt := now } alreadyExists
    refuse (¬ ∃ t ∈ s.tenants, t.id = hostTenantId) missingReference
    let result : AuthorityMutationResult :=
      { operationId := context.operationId, workspaceId := some workspaceId
        operation := "workspace.provision", targetType := "workspace", targetId := workspaceId
        authorityRevision := some 0, occurredAt := now, replayed := false }
    refuse (¬ IsMutationResult result) corruptRecord
    let audit ← insertRow s.audit (·.eventId = context.operationId)
      { eventId := context.operationId, workspaceId := some workspaceId, occurredAt := now
        actorPrincipalId := context.actorPrincipalId, eventType := "workspace.provision"
        targetType := "workspace", targetId := workspaceId, authorityRevision := some 0
        requestDigest := requestDigest, reason := context.reason } alreadyExists
    let idempotency ← insertRow s.idempotency (·.operationId = context.operationId)
      (idempotencyRow result requestDigest) alreadyExists
    pure ({ s with workspaces, audit, idempotency }, result)

end AuthorityStore

end Tasq.Authority
