import Mathlib.Tactic
import Tasq.Cloud.Hosting
import Tasq.Cloud.Users

/-! The first statement of every call, and the control plane as a program of threads. -/

namespace Tasq.Cloud

open Outcome Rows Threads

namespace ControlPlane

/-- `exact` -/
def exact (s : ControlPlane) (operationId : String) (action : OperationAction)
    (tenantId resourceId inputDigest : String) : Call (Option CallResult) := do
  refuse (isId operationId = false) .outside
  match s.operations.find? fun row => row.operationId = operationId with
  | none => pure none
  | some row => do
    refuse (row.action ≠ action ∨ row.tenantId ≠ tenantId ∨ row.resourceId ≠ resourceId ∨
      row.inputDigest ≠ inputDigest) (.error "cloud_idempotency_conflict")
    pure (some row.result)

/-- `commitExact` -/
def commitExact (s : ControlPlane) (row : OperationRow) : Call ControlPlane := do
  let operations ← insertRow s.operations (fun other => other.operationId = row.operationId) row
    .outside
  pure { s with operations := operations }

/-- The transaction of `createTenant`. -/
def createTenant (runtime : CloudRuntime) (s : ControlPlane) (input : CreateTenant) :
    Call (ControlPlane × CallResult) := do
  let digest := runtime.inputDigest (.createTenant input)
  match ← s.exact input.operationId .tenantCreate input.id input.id digest with
  | some prior => pure (s, prior)
  | none => do
    refuse (¬ (isTenantId input.slug ∧ isId input.plan ∧
      1 ≤ input.maxWorkspaces ∧ input.maxWorkspaces ≤ 10000 ∧
      1 ≤ input.retentionDays ∧ input.retentionDays ≤ 3650)) .outside
    let result := CallResult.tenant input.id .active
    let tenants ← insertRow s.tenants (fun row => row.id = input.id ∨ row.slug = input.slug)
      { id := input.id
        slug := input.slug
        status := .active
        plan := input.plan
        maxWorkspaces := input.maxWorkspaces
        retentionDays := input.retentionDays
        sessionEpoch := 1 } .outside
    let s ← { s with tenants := tenants }.commitExact
      ⟨input.operationId, .tenantCreate, input.id, input.id, digest, result⟩
    pure (s, result)

/-- A tenant suspended. -/
def suspendedTenant (row : TenantRow) : TenantRow :=
  { row with status := .suspended, sessionEpoch := row.sessionEpoch + 1 }

/-- The statuses that the suspension of a tenant suspends. -/
def suspendable (status : WorkspaceStatus) : Bool :=
  status = .provisioning || status = .ready || status = .failed

/-- The transaction of `suspendTenant`. -/
def suspendTenant (s : ControlPlane) (tenantId : String) (now : ℕ) : Call ControlPlane := do
  let tenants ← updateRow s.tenants (fun row => row.id = tenantId ∧ row.status = .active)
    suspendedTenant (.error "tenant_not_active")
  pure { s with
    tenants := tenants
    hosting := { s.hosting with
      workspaces := updateWhere s.hosting.workspaces
        (fun row => row.ref.tenantId = tenantId ∧ suspendable row.status) fun row =>
          { row with status := .suspended, suspendedAt := s.moment } }
    identities := s.identities.sweep (fun row => row.tenantId = tenantId) now }

/-- The workspaces of a tenant that are not deleted. -/
def workspaceCount (h : Hosting) (tenantId : String) : ℕ :=
  h.workspaces.countP fun row => row.ref.tenantId = tenantId ∧ row.status ≠ .deleted

/-- The transaction of `provisionWorkspace`: an earlier result, or the new row. -/
def provisionIntent (runtime : CloudRuntime) (s : ControlPlane) (input : ProvisionWorkspace)
    (fresh : String) : Call (ControlPlane × (CallResult ⊕ CloudWorkspace)) := do
  let digest := runtime.inputDigest (.provisionWorkspace input)
  match ← s.exact input.operationId .workspaceProvision input.workspace.tenantId
      input.workspace.workspaceId digest with
  | some prior => pure (s, .inl prior)
  | none => do
    let tenant ← demand (s.tenantOf input.workspace.tenantId) (.error "tenant_not_active")
    refuse (tenant.status ≠ .active) (.error "tenant_not_active")
    refuse (tenant.maxWorkspaces ≤ workspaceCount s.hosting input.workspace.tenantId)
      (.error "workspace_quota_exceeded")
    let pending : CloudWorkspace :=
      { ref := input.workspace
        region := input.region
        status := .provisioning
        storageBindingId := s!"cloud-binding:{fresh}"
        deploymentRef := none
        serverOrigin := none
        secretRefs := []
        suspendedAt := 0 }
    let workspaces ← insertRow s.hosting.workspaces
      (fun row => row.ref = pending.ref ∨ row.storageBindingId = pending.storageBindingId) pending
      .outside
    let s ← { s with hosting := { s.hosting with workspaces := workspaces } }.commitExact
      ⟨input.operationId, .workspaceProvision, input.workspace.tenantId,
        input.workspace.workspaceId, digest, .workspace (some pending)⟩
    pure (s, .inr pending)

/-- The read of `reconcileWorkspace`, and what the call does next. -/
def beginReconcile (h : Hosting) (ref : WorkspaceRef) : Call Thread := do
  let current ← demand (h.getWorkspace ref) (.error "workspace_not_found")
  if current.status = .ready then
    pure (.done (.workspace (some current)))
  else do
    refuse (current.status ≠ .provisioning ∧ current.status ≠ .failed)
      (.error "workspace_not_reconcilable")
    pure (.workspace (.reconcileMark current))

/-- A workspace that is ready and has a deployment, as rotation and backup demand. -/
def deployedWorkspace (h : Hosting) (ref : WorkspaceRef) : Call CloudWorkspace := do
  let current ← demand (h.getWorkspace ref) (.error "workspace_not_ready")
  refuse (current.deploymentRef = none ∨ current.status ≠ .ready) (.error "workspace_not_ready")
  pure current

/-- The update of `suspendWorkspace`, and the number of rows that it affects. -/
def suspendWorkspace (h : Hosting) (ref : WorkspaceRef) (moment : ℕ) : Hosting × ℕ :=
  (h.setWorkspace ref (· = .ready) fun row =>
      { row with status := .suspended, suspendedAt := moment },
    h.workspaces.countP fun row => row.ref = ref ∧ row.status = .ready)

/-- The read of `deleteWorkspace`, and what the call does next. -/
def beginDelete (h : Hosting) (ref : WorkspaceRef) : Call Thread := do
  let current ← demand (h.getWorkspace ref) (.error "workspace_not_deletable")
  refuse (current.deploymentRef = none ∨ (current.status ≠ .ready ∧ current.status ≠ .deleting))
    (.error "workspace_not_deletable")
  pure (.workspace (if current.status = .ready then .deleteMark current else .deleting current))

/-- The transaction of `registerPrincipal`. -/
def registerPrincipal (runtime : CloudRuntime) (s : ControlPlane) (input : RegisterPrincipal) :
    Call (ControlPlane × CallResult) := do
  let digest := runtime.inputDigest (.registerPrincipal input)
  match ← s.exact input.operationId .principalRegister input.tenantId input.principalId digest with
  | some prior => pure (s, prior)
  | none => do
    refuse (¬ (runtime.isOrigin input.issuer ∧ isId input.subject)) .outside
    refuse (s.tenantOf input.tenantId = none) .outside
    let result := CallResult.principal input.tenantId input.principalId 1
    let subjectDigest := runtime.subjectDigest input.issuer input.subject
    let principals ← insertRow s.identities.principals
      (fun row => row.tenantId = input.tenantId ∧ (row.id = input.principalId ∨
        row.issuer = input.issuer ∧ row.subjectDigest = subjectDigest))
      { tenantId := input.tenantId
        id := input.principalId
        kind := input.kind
        issuer := input.issuer
        subjectDigest := subjectDigest
        status := .active
        revision := 1
        recoveryRevision := 1 } .outside
    let s ← { s with identities := { s.identities with principals := principals } }.commitExact
      ⟨input.operationId, .principalRegister, input.tenantId, input.principalId, digest, result⟩
    pure (s, result)

/-- The read of `issueHumanSession`: an active human principal of an active tenant, with an active
    device. -/
def readIdentity (runtime : CloudRuntime) (s : ControlPlane) (input : IssueHumanSession)
    (now : ℕ) : Call IdentityRead := do
  let lifetime := input.lifetimeMs.getD (8 * 60 * 60 * 1000)
  refuse (lifetime < 60000 ∨ 24 * 60 * 60 * 1000 < lifetime) .outside
  refuse (¬ (runtime.isOrigin input.issuer ∧ isId input.subject ∧ isId input.deviceId)) .outside
  let subjectDigest := runtime.subjectDigest input.issuer input.subject
  let denied := CloudError.error "cloud_session_identity_denied"
  let principal ← demand (s.identities.principals.find? fun row => row.tenantId = input.tenantId ∧
    row.issuer = input.issuer ∧ row.subjectDigest = subjectDigest ∧ row.kind = .human ∧
    row.status = .active) denied
  let tenant ← demand (s.tenants.find? fun row => row.id = principal.tenantId ∧
    row.status = .active) denied
  let device ← demand (s.identities.devices.find? fun row => row.tenantId = principal.tenantId ∧
    row.principalId = principal.id ∧ row.id = input.deviceId ∧ row.status = .active) denied
  pure
    { tenantId := input.tenantId
      principalId := principal.id
      deviceId := device.id
      sessionEpoch := tenant.sessionEpoch
      recoveryRevision := principal.recoveryRevision
      issuedAt := now
      expiresAt := now + lifetime
      readAt := s.moment }

/-- The arguments of a call that are checked before its first statement. -/
def arguments : Request → Bool
  | .createTenant input => isTenantId input.id
  | .suspendTenant tenantId _ => isTenantId tenantId
  | .provisionWorkspace input => isWorkspaceRef input.workspace && isRegion input.region
  | .reconcileWorkspace ref => isWorkspaceRef ref
  | .suspendWorkspace ref => isWorkspaceRef ref
  | .rotateWorkspaceCredentials ref rotationId => isWorkspaceRef ref && isId rotationId
  | .createBackup ref backupId _ => isWorkspaceRef ref && isId backupId
  | .restoreBackup ref backupId => isWorkspaceRef ref && isId backupId
  | .deleteWorkspace ref _ => isWorkspaceRef ref
  | .registerPrincipal input => isTenantId input.tenantId && isId input.principalId
  | .enrollDevice input =>
    isTenantId input.tenantId && isId input.principalId && isId input.deviceId && isId input.label
  | .revokeDevice tenantId deviceId _ => isTenantId tenantId && isId deviceId
  | .issueHumanSession input => isTenantId input.tenantId
  | .recoverHuman tenantId principalId _ => isTenantId tenantId && isId principalId

/-- What a call checks before its first statement: its arguments, a confirmation, and the host's
    decision. A session is issued without asking the host. -/
def admitted (request : Request) (input : Input) : Call Unit := do
  refuse (arguments request = false) .outside
  match request with
  | .suspendTenant tenantId confirmation =>
    refuse (confirmation ≠ tenantId) (.error "tenant_suspend_confirmation_mismatch")
  | .deleteWorkspace ref confirmation =>
    refuse (confirmation ≠ s!"{ref.tenantId}/{ref.workspaceId}")
      (.error "workspace_delete_confirmation_mismatch")
  | _ => pure ()
  match request with
  | .issueHumanSession _ => pure ()
  | _ => refuse (input.allowed = false) (.error "cloud_access_denied")

/-- A step on the tables of the workspaces. -/
def onHosting (s : ControlPlane) (r : Hosting × Thread) : ControlPlane × Thread :=
  ({ s with hosting := r.1 }, r.2)

/-- A step on the tables of the users. -/
def onIdentities (s : ControlPlane) (r : Identities × Thread) : ControlPlane × Thread :=
  ({ s with identities := r.1 }, r.2)

/-- The first statement of a call that only reads the tables of the workspaces. -/
def readHosting (s : ControlPlane) (input : Input) (request : Request) (x : Call Thread) :
    ControlPlane × Thread :=
  statement s input.fault
    (do
      admitted request input
      let next ← x
      pure (s, next))
    id .thrown

/-- The first statement of a call, which began at the moment `began`. -/
def begin (runtime : CloudRuntime) (s : ControlPlane) (request : Request) (began : ℕ)
    (input : Input) : ControlPlane × Thread :=
  match request with
  | .createTenant create =>
    statement s input.fault
      (do
        admitted request input
        s.createTenant runtime create)
      .done .thrown
  | .suspendTenant tenantId _ =>
    statement s input.fault
      (do
        admitted request input
        let suspended ← s.suspendTenant tenantId input.now
        pure (suspended, ()))
      (fun _ => .done (.tenant tenantId .suspended)) .thrown
  | .provisionWorkspace provision =>
    statement s input.fault
      (do
        admitted request input
        s.provisionIntent runtime provision input.fresh)
      (fun answer => .workspace (answer.elim (.provisionReplay provision.workspace) fun pending =>
        .provisioning provision.workspace provision.region pending.storageBindingId)) .thrown
  | .reconcileWorkspace ref => s.readHosting input request (beginReconcile s.hosting ref)
  | .suspendWorkspace ref =>
    s.onHosting (statement s.hosting input.fault
      (do
        admitted request input
        pure (suspendWorkspace s.hosting ref s.moment))
      (fun affected => if affected = 1 then .workspace (.audit ref)
        else .thrown (.error "workspace_not_ready")) .thrown)
  | .rotateWorkspaceCredentials ref rotationId =>
    s.readHosting input request (do
      let current ← deployedWorkspace s.hosting ref
      pure (.workspace (.rotationLookup rotationId current)))
  | .createBackup ref backupId lifetimeMs =>
    s.readHosting input request (do
      let _ ← deployedWorkspace s.hosting ref
      pure (.workspace (.backupInsert ref backupId lifetimeMs)))
  | .restoreBackup ref backupId =>
    s.readHosting input request (do
      let backup ← s.hosting.restorable ref backupId input.now
      pure (.workspace (.restoreRead ref backup began)))
  | .deleteWorkspace ref _ => s.readHosting input request (beginDelete s.hosting ref)
  | .registerPrincipal register =>
    statement s input.fault
      (do
        admitted request input
        s.registerPrincipal runtime register)
      .done .thrown
  | .enrollDevice enroll =>
    s.onIdentities (statement s.identities input.fault
      (do
        admitted request input
        let enrolled ← s.identities.enrollDevice enroll
        pure (enrolled, ()))
      (fun _ => .identity (.audit none (.device enroll.deviceId 1 .active))) .thrown)
  | .revokeDevice tenantId deviceId expectedRevision =>
    s.onIdentities (statement s.identities input.fault
      (do
        admitted request input
        pure (s.identities.revokeDevice tenantId deviceId expectedRevision input.now))
      (fun affected =>
        if affected = 1 then
          .identity (.deviceSweep tenantId deviceId input.now expectedRevision)
        else .thrown (.error "device_revision_conflict")) .thrown)
  | .issueHumanSession issue =>
    statement s input.fault
      (do
        admitted request input
        let identity ← s.readIdentity runtime issue input.now
        pure (s, identity))
      (fun identity => .identity (.sessionInsert identity)) .thrown
  | .recoverHuman tenantId principalId proofId =>
    s.onIdentities (statement s.identities input.fault
      (do
        admitted request input
        pure (s.identities.recoverHuman tenantId principalId))
      (fun answer => answer.elim (.thrown (.error "principal_not_recoverable")) fun revision =>
        .identity (.principalSweep tenantId principalId proofId input.now revision)) .thrown)

/-- The next step of a call. -/
def move (runtime : CloudRuntime) (s : ControlPlane) (call : Thread) (input : Input) :
    ControlPlane × Thread :=
  match call with
  | .start request began => s.begin runtime request began input
  | .workspace call => s.onHosting (call.move runtime s.hosting input)
  | .identity call => s.onIdentities (call.move runtime s.identities input)
  | .done outcome => (s, .done outcome)
  | .thrown error => (s, .thrown error)

end ControlPlane

/-- The control plane: any number of calls, by any number of processes. Each step takes a moment. -/
def controlPlane (runtime : CloudRuntime) : Program ControlPlane Thread Request Input where
  start s request := .start request s.moment
  move s call input :=
    ({ (s.move runtime call input).1 with moment := s.moment + 1 }, (s.move runtime call input).2)

/-- A new control plane, without a call. -/
def opening : World ControlPlane Thread := ⟨.opening, []⟩

end Tasq.Cloud
