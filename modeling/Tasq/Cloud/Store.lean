import Mathlib.Tactic
import Tasq.Lib.Rows
import Tasq.Lib.Text

/-! The control plane's database: tenants, their workspaces with credential rotations and backups,
    and the principals, devices and sessions of their users.

    Each definition is one statement, or one transaction, of a call of the control plane. Times of
    creation and update, error codes, audit rows and the tables of exports, workloads, support,
    incidents and billing are left out. -/

namespace Tasq.Cloud

open Text Outcome Rows

/-- What a call throws: an error of its own, or one of the database, the provider or a parser. -/
inductive CloudError where
  | error (message : String)
  | outside
  deriving DecidableEq, Repr

abbrev Call := Except CloudError

/-- `status` of `cloud_tenant` -/
inductive TenantStatus where
  | active | suspended | deleting | deleted
  deriving DecidableEq, Repr

/-- `status` of `cloud_workspace` -/
inductive WorkspaceStatus where
  | provisioning | ready | failed | suspended | deleting | deleted
  deriving DecidableEq, Repr

/-- `kind` of `cloud_principal` -/
inductive PrincipalKind where
  | human | workload | support
  deriving DecidableEq, Repr

/-- `status` of `cloud_principal` and `cloud_device` -/
inductive IdentityStatus where
  | active | revoked
  deriving DecidableEq, Repr

/-- `status` of `cloud_credential_rotation` -/
inductive RotationStatus where
  | running | ready | failed
  deriving DecidableEq, Repr

/-- `status` of `cloud_backup` -/
inductive BackupStatus where
  | requested | ready | failed | restored | expired
  deriving DecidableEq, Repr

/-- A row of `cloud_tenant`. -/
structure TenantRow where
  id : String
  slug : String
  status : TenantStatus
  plan : String
  maxWorkspaces : ℕ
  retentionDays : ℕ
  sessionEpoch : ℕ
  deriving DecidableEq, Repr

/-- The primary key of `cloud_workspace`. -/
structure WorkspaceRef where
  tenantId : String
  workspaceId : String
  deriving DecidableEq, Repr

/-- A row of `cloud_workspace`, with the moment of its last suspension as history. -/
structure CloudWorkspace where
  ref : WorkspaceRef
  region : String
  status : WorkspaceStatus
  storageBindingId : String
  deploymentRef : Option String
  serverOrigin : Option String
  secretRefs : List String
  suspendedAt : ℕ
  deriving DecidableEq, Repr

/-- A row of `cloud_credential_rotation`. -/
structure RotationRow where
  id : String
  workspace : WorkspaceRef
  status : RotationStatus
  previousRefDigests : List String
  replacementRefs : Option (List String)
  deriving DecidableEq, Repr

/-- History: a rotation that became ready, and the references that it replaced. -/
structure RotationCommit where
  rotationId : String
  workspace : WorkspaceRef
  previous : List String
  deriving DecidableEq, Repr

/-- A row of `cloud_backup`. -/
structure BackupRow where
  id : String
  workspace : WorkspaceRef
  status : BackupStatus
  artifactRef : Option String
  artifactDigest : Option String
  expiresAt : ℕ
  deriving DecidableEq, Repr

/-- A row of `cloud_principal`. -/
structure PrincipalRow where
  tenantId : String
  id : String
  kind : PrincipalKind
  issuer : String
  subjectDigest : String
  status : IdentityStatus
  revision : ℕ
  recoveryRevision : ℕ
  deriving DecidableEq, Repr

/-- A row of `cloud_device`. -/
structure DeviceRow where
  tenantId : String
  principalId : String
  id : String
  label : String
  status : IdentityStatus
  revision : ℕ
  revokedAt : Option ℕ
  deriving DecidableEq, Repr

/-- A row of `cloud_session`, with the moment as history at which its identity row was read. -/
structure SessionRow where
  tokenDigest : String
  csrfDigest : String
  tenantId : String
  principalId : String
  deviceId : String
  tenantSessionEpoch : ℕ
  principalRecoveryRevision : ℕ
  issuedAt : ℕ
  expiresAt : ℕ
  revokedAt : Option ℕ
  readAt : ℕ
  deriving DecidableEq, Repr

/-- `CloudAction`, of the calls that keep their result for a retry. -/
inductive OperationAction where
  | tenantCreate | workspaceProvision | principalRegister
  deriving DecidableEq, Repr

/-- What a call returns. -/
inductive CallResult where
  | tenant (tenantId : String) (status : TenantStatus)
  | workspace (row : Option CloudWorkspace)
  | rotation (rotationId : String) (status : RotationStatus) (secretRefs : List String)
  | backup (backupId : String) (status : BackupStatus) (artifactDigest : Option String)
      (expiresAt : ℕ)
  | workspaceDeleted (workspace : WorkspaceRef)
  | principal (tenantId principalId : String) (revision : ℕ)
  | device (deviceId : String) (revision : ℕ) (status : IdentityStatus)
  | session (token csrfToken : String) (expiresAt : ℕ) (tenantId principalId deviceId : String)
  | recovered (principalId : String) (recoveryRevision : ℕ)
  deriving DecidableEq, Repr

/-- A row of `cloud_operation`. -/
structure OperationRow where
  operationId : String
  action : OperationAction
  tenantId : String
  resourceId : String
  inputDigest : String
  result : CallResult
  deriving DecidableEq, Repr

/-- The tables of the workspaces, and the rotations that became ready. -/
structure Hosting where
  workspaces : List CloudWorkspace
  rotations : List RotationRow
  backups : List BackupRow
  commits : List RotationCommit

/-- The tables of the users. -/
structure Identities where
  principals : List PrincipalRow
  devices : List DeviceRow
  sessions : List SessionRow

/-- The database, and the number of steps taken so far as history. -/
structure ControlPlane where
  tenants : List TenantRow
  hosting : Hosting
  identities : Identities
  operations : List OperationRow
  moment : ℕ

/-- The database of a new control plane. -/
def ControlPlane.opening : ControlPlane where
  tenants := []
  hosting := ⟨[], [], [], []⟩
  identities := ⟨[], [], []⟩
  operations := []
  moment := 0

/-- `UPDATE … SET … WHERE …` -/
def updateWhere {ρ : Type} (rows : List ρ) (p : ρ → Prop) [DecidablePred p] (f : ρ → ρ) : List ρ :=
  rows.map fun r => if p r then f r else r

section

variable {ρ κ : Type} {rows : List ρ} {p : ρ → Prop} [DecidablePred p] {f : ρ → ρ}

/-- Every row is as it was after an update, or updated. -/
theorem updateWhere_keeps {R : ρ → ρ → Prop} (hrefl : ∀ r, R r r) (hf : ∀ r, p r → R r (f r)) :
    ∀ r ∈ rows, ∃ r' ∈ updateWhere rows p f, R r r' := by
  intro r hr
  refine ⟨if p r then f r else r, List.mem_map_of_mem hr, ?_⟩
  split
  · exact hf r ‹_›
  · exact hrefl r

/-- Every row after an update was there before, or comes of a row that it met. -/
theorem mem_updateWhere {r : ρ} (h : r ∈ updateWhere rows p f) :
    (r ∈ rows ∧ ¬ p r) ∨ ∃ old ∈ rows, p old ∧ r = f old := by
  obtain ⟨old, hold, rfl⟩ := List.mem_map.1 h
  split
  · exact .inr ⟨old, hold, ‹_›, rfl⟩
  · exact .inl ⟨hold, ‹_›⟩

/-- What an update leaves of a key. -/
theorem updateWhere_map (rows : List ρ) (p : ρ → Prop) [DecidablePred p] (key : ρ → κ)
    (hkey : ∀ r, key (f r) = key r) : (updateWhere rows p f).map key = rows.map key := by
  rw [updateWhere, List.map_map]
  refine List.map_congr_left fun r _ => ?_
  rw [Function.comp_apply]
  split
  · exact hkey r
  · rfl

end

/-! ### Checks of input -/

/-- `[a-z0-9]` -/
def isLowerOrDigit (c : Char) : Bool := ('a' ≤ c && c ≤ 'z') || ('0' ≤ c && c ≤ '9')

/-- `Id` -/
def isId (value : String) : Bool :=
  value ≠ "" && utf16Length value ≤ 500 && value = jsTrim value

/-- A name of at most `bound` lower case letters, digits and, after the first, dashes. -/
def isName (bound : ℕ) (value : String) : Bool :=
  match value.toList with
  | [] => false
  | c :: cs => isLowerOrDigit c && cs.all (fun d => isLowerOrDigit d || d = '-') && cs.length < bound

/-- `TenantId` -/
def isTenantId (value : String) : Bool := isName 120 value

/-- `Region` -/
def isRegion (value : String) : Bool := isName 80 value

/-- `WorkspaceId` -/
def isWorkspaceId (value : String) : Bool :=
  match value.toList with
  | [] => false
  | c :: cs => c.isAlphanum && cs.length < 200 &&
      cs.all fun d => d.isAlphanum || d = '.' || d = '_' || d = '/' || d = '-'

/-- The two ids of a workspace. -/
def isWorkspaceRef (ref : WorkspaceRef) : Bool :=
  isTenantId ref.tenantId && isWorkspaceId ref.workspaceId

/-- `Digest` -/
def isDigest (value : String) : Bool :=
  "sha256:".toList.isPrefixOf value.toList && (value.toList.drop 7).length = 64 &&
    (value.toList.drop 7).all fun c => ('0' ≤ c && c ≤ '9') || ('a' ≤ c && c ≤ 'f')

/-- `z.array(Id).min(1).max(32)` -/
def isSecretRefs (refs : List String) : Bool :=
  refs ≠ [] && refs.length ≤ 32 && refs.all isId

/-- `CloudProvisioningResult` -/
structure CloudProvisioningResult where
  deploymentRef : String
  serverOrigin : String
  secretRefs : List String
  deriving DecidableEq, Repr

/-- What the provider answers to `backup`. -/
structure Artifact where
  artifactRef : String
  artifactDigest : String
  deriving DecidableEq, Repr

end Tasq.Cloud
