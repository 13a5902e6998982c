import Mathlib.Tactic
import Tasq.Cloud.Calls

/-! Workspace calls after their first statement. They read and write the tables of the workspaces,
    and nothing else. -/

namespace Tasq.Cloud

open Outcome Rows

/-- The checks of what the provider answers to `provision` and `restore`. -/
def checkProvisioned (runtime : CloudRuntime) (answer : Option CloudProvisioningResult) :
    Call CloudProvisioningResult := do
  let provisioned ← demand answer .outside
  refuse (¬ (runtime.isOrigin provisioned.serverOrigin ∧ isSecretRefs provisioned.secretRefs ∧
    isId provisioned.deploymentRef)) .outside
  pure provisioned

/-- A workspace that the provider has deployed. -/
def CloudWorkspace.deployed (row : CloudWorkspace) (provisioned : CloudProvisioningResult) :
    CloudWorkspace :=
  { row with
    status := .ready
    deploymentRef := some provisioned.deploymentRef
    serverOrigin := some provisioned.serverOrigin
    secretRefs := provisioned.secretRefs }

/-- A workspace that is deleted. -/
def CloudWorkspace.gone (row : CloudWorkspace) : CloudWorkspace :=
  { row with status := .deleted, deploymentRef := none, serverOrigin := none, secretRefs := [] }

namespace Hosting

/-- `getWorkspace` -/
def getWorkspace (h : Hosting) (ref : WorkspaceRef) : Option CloudWorkspace :=
  h.workspaces.find? fun row => row.ref = ref

/-- An update of one workspace, of any status that `guarded` takes. -/
def setWorkspace (h : Hosting) (ref : WorkspaceRef) (guarded : WorkspaceStatus → Bool)
    (f : CloudWorkspace → CloudWorkspace) : Hosting :=
  { h with workspaces := updateWhere h.workspaces (fun row => row.ref = ref ∧ guarded row.status) f }

/-- An update of one rotation. -/
def setRotation (h : Hosting) (id : String) (guarded : RotationStatus → Bool)
    (f : RotationRow → RotationRow) : Hosting :=
  { h with rotations := updateWhere h.rotations (fun row => row.id = id ∧ guarded row.status) f }

/-- An update of one backup. -/
def setBackup (h : Hosting) (id : String) (f : BackupRow → BackupRow) : Hosting :=
  { h with backups := updateWhere h.backups (fun row => row.id = id) f }

/-- The row that `rotateWorkspaceCredentials` reads of its rotation. -/
def findRotation (h : Hosting) (rotationId : String) : Option RotationRow :=
  h.rotations.find? fun row => row.id = rotationId

/-- The transaction that installs the references of a rotation. -/
def commitRotation (h : Hosting) (rotationId : String) (current : CloudWorkspace)
    (secretRefs : List String) : Hosting :=
  let updated := h.setWorkspace current.ref (· = .ready) fun row =>
    { row with secretRefs := secretRefs }
  let recorded := updated.setRotation rotationId (fun _ => true) fun row =>
    { row with status := .ready, replacementRefs := some secretRefs }
  { recorded with commits := h.commits ++ [⟨rotationId, current.ref, current.secretRefs⟩] }

/-- The references that the provider hands out for a rotation, checked. -/
def checkRotated (runtime : CloudRuntime) (rotationId : String) (current : CloudWorkspace)
    (answered : Bool) : Call (List String) := do
  refuse (answered = false) .outside
  let secretRefs := runtime.rotated rotationId
  refuse (¬ isSecretRefs secretRefs) .outside
  refuse (∃ reference ∈ secretRefs, reference ∈ current.secretRefs)
    (.error "credential_rotation_reused_previous_reference")
  pure secretRefs

/-- What a call finds of its rotation: one that is ready, one to retry, or none. -/
def lookupRotation (h : Hosting) (rotationId : String) (current : CloudWorkspace) : Call Thread :=
  match h.findRotation rotationId with
  | none => pure (.workspace (.rotationInsert rotationId current))
  | some prior => do
    refuse (prior.workspace ≠ current.ref) (.error "credential_rotation_identity_conflict")
    if prior.status = .ready then
      let secretRefs ← demand prior.replacementRefs (.error "invalid replacement_refs_json")
      pure (.done (.rotation rotationId .ready secretRefs))
    else
      pure (.workspace (.rotating rotationId current))

/-- The insertion of a rotation that begins. -/
def insertRotation (runtime : CloudRuntime) (h : Hosting) (rotationId : String)
    (current : CloudWorkspace) : Call Hosting := do
  let rotations ← insertRow h.rotations (fun row => row.id = rotationId)
    { id := rotationId
      workspace := current.ref
      status := .running
      previousRefDigests := current.secretRefs.map runtime.sha
      replacementRefs := none } .outside
  pure { h with rotations := rotations }

/-- `INSERT INTO cloud_backup … ON CONFLICT(id) DO NOTHING`, and whether it inserted. -/
def requestBackup (h : Hosting) (ref : WorkspaceRef) (backupId : String) (lifetimeMs : Option ℕ)
    (now : ℕ) : Call (Hosting × Bool × ℕ) := do
  let retention := lifetimeMs.getD (30 * 24 * 60 * 60 * 1000)
  refuse (retention < 60000 ∨ 365 * 24 * 60 * 60 * 1000 < retention) .outside
  let expiresAt := now + retention
  if ∃ row ∈ h.backups, row.id = backupId then
    pure (h, false, expiresAt)
  else
    pure ({ h with backups := h.backups ++ [⟨backupId, ref, .requested, none, none, expiresAt⟩] },
      true, expiresAt)

/-- What `createBackup` finds of a backup that it did not insert. -/
def lookupBackup (h : Hosting) (ref : WorkspaceRef) (backupId : String) (expiresAt : ℕ) :
    Call Thread := do
  let row ← demand (h.backups.find? fun row => row.id = backupId)
    (.error "backup_identity_conflict")
  refuse (row.workspace ≠ ref) (.error "backup_identity_conflict")
  if row.status = .ready ∨ row.status = .restored then
    let digest ← demand row.artifactDigest (.error "invalid artifact_digest")
    pure (.done (.backup backupId .ready (some digest) row.expiresAt))
  else
    pure (.workspace (.backingUp backupId expiresAt))

/-- The artifact that the provider made, checked. -/
def checkArtifact (artifact : Option Artifact) : Call Artifact := do
  let created ← demand artifact .outside
  refuse (¬ (isDigest created.artifactDigest ∧ isId created.artifactRef)) .outside
  pure created

/-- The backup that `restoreBackup` reads. -/
def restorable (h : Hosting) (ref : WorkspaceRef) (backupId : String) (now : ℕ) :
    Call BackupRow :=
  demand (h.backups.find? fun row => row.id = backupId ∧ row.workspace = ref ∧
    (row.status = .ready ∨ row.status = .restored) ∧ now < row.expiresAt)
    (.error "backup_not_restorable")

/-- The transaction that installs a restored deployment. -/
def commitRestore (h : Hosting) (current : CloudWorkspace) (backup : BackupRow)
    (provisioned : CloudProvisioningResult) : Hosting :=
  (h.setWorkspace current.ref (fun _ => true) fun row => row.deployed provisioned).setBackup
    backup.id fun row => { row with status := .restored }

end Hosting

/-- The next step of a workspace call. -/
def WorkspaceCall.move (runtime : CloudRuntime) (h : Hosting) (call : WorkspaceCall)
    (input : Input) : Hosting × Thread :=
  match call with
  | .provisioning ref _ _ =>
    statement h input.fault
      (do
        let provisioned ← checkProvisioned runtime input.provisioned
        pure (h.setWorkspace ref (· = .provisioning) fun row => row.deployed provisioned, ()))
      (fun _ => .workspace (.provisionRead ref)) (fun _ => .workspace (.provisionFailed ref))
  | .provisionFailed ref =>
    statement h input.fault
      (pure (h.setWorkspace ref (· = .provisioning) fun row => { row with status := .failed }, ()))
      (fun _ => .workspace (.provisionRead ref)) .thrown
  | .provisionRead ref =>
    statement h input.fault
      (do
        let row ← demand (h.getWorkspace ref) (.error "workspace_provisioning_intent_disappeared")
        pure (h, row))
      (fun row => .done (.workspace (some row))) .thrown
  | .provisionReplay ref prior =>
    statement h input.fault (pure (h, h.getWorkspace ref))
      (fun row => .done (if row = none then prior else .workspace row)) .thrown
  | .reconcileMark current =>
    statement h input.fault
      (pure (h.setWorkspace current.ref (fun _ => true) fun row =>
        { row with status := .provisioning }, ()))
      (fun _ => .workspace (.reconciling current)) .thrown
  | .reconciling current =>
    statement h input.fault
      (do
        let provisioned ← checkProvisioned runtime input.provisioned
        pure (h.setWorkspace current.ref (fun _ => true) fun row => row.deployed provisioned, ()))
      (fun _ => .workspace (.readBack current.ref))
      (fun _ => .workspace (.reconcileFailed current.ref))
  | .reconcileFailed ref =>
    statement h input.fault
      (pure (h.setWorkspace ref (fun _ => true) fun row => { row with status := .failed }, ()))
      (fun _ => .workspace (.readBack ref)) .thrown
  | .audit ref =>
    statement h input.fault (pure (h, ())) (fun _ => .workspace (.readBack ref)) .thrown
  | .readBack ref =>
    statement h input.fault (pure (h, h.getWorkspace ref)) (fun row => .done (.workspace row))
      .thrown
  | .rotationLookup rotationId current =>
    statement h input.fault
      (do
        let found ← h.lookupRotation rotationId current
        pure (h, found))
      id .thrown
  | .rotationInsert rotationId current =>
    statement h input.fault
      (do
        let inserted ← Hosting.insertRotation runtime h rotationId current
        pure (inserted, ()))
      (fun _ => .workspace (.rotating rotationId current)) .thrown
  | .rotating rotationId current =>
    statement h input.fault
      (do
        let secretRefs ← Hosting.checkRotated runtime rotationId current input.answered
        pure (h.commitRotation rotationId current secretRefs, secretRefs))
      (fun secretRefs => .workspace (.rotationAudit rotationId current secretRefs))
      (fun _ => .workspace (.rotationFailed rotationId current))
  | .rotationAudit rotationId current secretRefs =>
    statement h input.fault (pure (h, ()))
      (fun _ => .done (.rotation rotationId .ready secretRefs))
      (fun _ => .workspace (.rotationFailed rotationId current))
  | .rotationFailed rotationId current =>
    statement h input.fault
      (pure (h.setRotation rotationId (· ≠ .ready) fun row => { row with status := .failed }, ()))
      (fun _ => .done (.rotation rotationId .failed current.secretRefs)) .thrown
  | .backupInsert ref backupId lifetimeMs =>
    statement h input.fault (h.requestBackup ref backupId lifetimeMs input.now)
      (fun answer => .workspace (if answer.1 then .backingUp backupId answer.2
        else .backupLookup ref backupId answer.2)) .thrown
  | .backupLookup ref backupId expiresAt =>
    statement h input.fault
      (do
        let found ← h.lookupBackup ref backupId expiresAt
        pure (h, found))
      id .thrown
  | .backingUp backupId expiresAt =>
    statement h input.fault
      (do
        let created ← Hosting.checkArtifact input.artifact
        pure (h.setBackup backupId fun row =>
          { row with
            status := .ready
            artifactRef := some created.artifactRef
            artifactDigest := some created.artifactDigest }, created.artifactDigest))
      (fun digest => .workspace (.backupAudit backupId digest expiresAt))
      (fun _ => .workspace (.backupFailed backupId expiresAt))
  | .backupAudit backupId digest expiresAt =>
    statement h input.fault (pure (h, ()))
      (fun _ => .done (.backup backupId .ready (some digest) expiresAt))
      (fun _ => .workspace (.backupFailed backupId expiresAt))
  | .backupFailed backupId expiresAt =>
    statement h input.fault
      (pure (h.setBackup backupId fun row => { row with status := .failed }, ()))
      (fun _ => .done (.backup backupId .failed none expiresAt)) .thrown
  | .restoreRead ref backup began =>
    statement h input.fault
      (do
        let current ← demand (h.getWorkspace ref) (.error "workspace_not_found")
        pure (h, current))
      (fun current => .workspace (.restoring current backup began)) .thrown
  | .restoring current backup _ =>
    statement h input.fault
      (do
        let _ ← demand backup.artifactRef (.error "invalid artifact_ref")
        let provisioned ← checkProvisioned runtime input.provisioned
        pure (h.commitRestore current backup provisioned, ()))
      (fun _ => .workspace (.audit current.ref)) .thrown
  | .deleteMark current =>
    statement h input.fault
      (pure (h.setWorkspace current.ref (· = .ready) fun row =>
        { row with status := .deleting }, ()))
      (fun _ => .workspace (.deleting current)) .thrown
  | .deleting current =>
    statement h input.fault
      (do
        refuse (input.answered = false) .outside
        pure (h.setWorkspace current.ref (· = .deleting) CloudWorkspace.gone, ()))
      (fun _ => .workspace (.deleteAudit current.ref)) .thrown
  | .deleteAudit ref =>
    statement h input.fault (pure (h, ())) (fun _ => .done (.workspaceDeleted ref)) .thrown

end Tasq.Cloud
