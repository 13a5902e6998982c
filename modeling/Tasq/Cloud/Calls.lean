import Mathlib.Tactic
import Tasq.Cloud.Store
import Tasq.Lib.Threads

/-! The calls of the control plane as threads over its database: every statement or transaction of a
    call is one step, and so is every answer of the provider together with the statement after it.

    Before its first statement a call checks its arguments and asks the host for a decision. A
    statement may fail before it commits, and its answer may be lost after it committed. -/

namespace Tasq.Cloud

open Outcome Rows Threads

/-- `createTenant` -/
structure CreateTenant where
  id : String
  slug : String
  plan : String
  maxWorkspaces : ℕ
  retentionDays : ℕ
  operationId : String
  deriving DecidableEq, Repr

/-- `provisionWorkspace` -/
structure ProvisionWorkspace where
  workspace : WorkspaceRef
  region : String
  operationId : String
  deriving DecidableEq, Repr

/-- `registerPrincipal` -/
structure RegisterPrincipal where
  tenantId : String
  principalId : String
  kind : PrincipalKind
  issuer : String
  subject : String
  operationId : String
  deriving DecidableEq, Repr

/-- `enrollDevice` -/
structure EnrollDevice where
  tenantId : String
  principalId : String
  deviceId : String
  label : String
  deriving DecidableEq, Repr

/-- `issueHumanSession` -/
structure IssueHumanSession where
  tenantId : String
  issuer : String
  subject : String
  deviceId : String
  lifetimeMs : Option ℕ
  deriving DecidableEq, Repr

/-- The calls, with their arguments. -/
inductive Request where
  | createTenant (input : CreateTenant)
  | suspendTenant (tenantId confirmation : String)
  | provisionWorkspace (input : ProvisionWorkspace)
  | reconcileWorkspace (workspace : WorkspaceRef)
  | suspendWorkspace (workspace : WorkspaceRef)
  | rotateWorkspaceCredentials (workspace : WorkspaceRef) (rotationId : String)
  | createBackup (workspace : WorkspaceRef) (backupId : String) (lifetimeMs : Option ℕ)
  | restoreBackup (workspace : WorkspaceRef) (backupId : String)
  | deleteWorkspace (workspace : WorkspaceRef) (confirmation : String)
  | registerPrincipal (input : RegisterPrincipal)
  | enrollDevice (input : EnrollDevice)
  | revokeDevice (tenantId deviceId : String) (expectedRevision : ℕ)
  | issueHumanSession (input : IssueHumanSession)
  | recoverHuman (tenantId principalId verifiedRecoveryProofId : String)
  deriving DecidableEq, Repr

/-- What the control plane relies on: the origins that a URL parser takes for canonical, digests of
    inputs, references, subjects and secrets, and a provider that hands out the same references
    whenever a rotation is retried. -/
structure CloudRuntime where
  isOrigin : String → Bool
  inputDigest : Request → String
  sha : String → String
  subjectDigest : String → String → String
  secretDigest : String → String
  rotated : String → List String

/-- What becomes of a statement that the database would carry out. -/
inductive Fault where
  | none | before | after
  deriving DecidableEq, Repr

/-- What one step of a call receives from the host, the clock, the provider and the database. -/
structure Input where
  allowed : Bool
  now : ℕ
  fault : Fault
  provisioned : Option CloudProvisioningResult
  answered : Bool
  artifact : Option Artifact
  fresh : String
  token : String
  csrfToken : String
  deriving DecidableEq, Repr

/-- A runtime whose digests are the texts themselves, and a provider that names the references of a
    rotation after it. -/
def plainRuntime : CloudRuntime where
  isOrigin _ := true
  inputDigest _ := ""
  sha := id
  subjectDigest _ subject := subject
  secretDigest := id
  rotated rotationId := [rotationId]

/-- A step at the time 0 that the host allows and the database carries out. -/
def quiet : Input := ⟨true, 0, .none, none, false, none, "", "", ""⟩

/-- A workspace call after its first statement: what it has read, and what it does next. -/
inductive WorkspaceCall where
  | provisioning (ref : WorkspaceRef) (region storageBindingId : String)
  | provisionFailed (ref : WorkspaceRef)
  | provisionRead (ref : WorkspaceRef)
  | provisionReplay (ref : WorkspaceRef) (prior : CallResult)
  | reconcileMark (current : CloudWorkspace)
  | reconciling (current : CloudWorkspace)
  | reconcileFailed (ref : WorkspaceRef)
  | audit (ref : WorkspaceRef)
  | readBack (ref : WorkspaceRef)
  | rotationLookup (rotationId : String) (current : CloudWorkspace)
  | rotationInsert (rotationId : String) (current : CloudWorkspace)
  | rotating (rotationId : String) (current : CloudWorkspace)
  | rotationAudit (rotationId : String) (current : CloudWorkspace) (secretRefs : List String)
  | rotationFailed (rotationId : String) (current : CloudWorkspace)
  | backupInsert (ref : WorkspaceRef) (backupId : String) (lifetimeMs : Option ℕ)
  | backupLookup (ref : WorkspaceRef) (backupId : String) (expiresAt : ℕ)
  | backingUp (backupId : String) (expiresAt : ℕ)
  | backupAudit (backupId artifactDigest : String) (expiresAt : ℕ)
  | backupFailed (backupId : String) (expiresAt : ℕ)
  | restoreRead (ref : WorkspaceRef) (backup : BackupRow) (began : ℕ)
  | restoring (current : CloudWorkspace) (backup : BackupRow) (began : ℕ)
  | deleteMark (current : CloudWorkspace)
  | deleting (current : CloudWorkspace)
  | deleteAudit (ref : WorkspaceRef)
  deriving DecidableEq, Repr

/-- What `issueHumanSession` has read of its user, and when. -/
structure IdentityRead where
  tenantId : String
  principalId : String
  deviceId : String
  sessionEpoch : ℕ
  recoveryRevision : ℕ
  issuedAt : ℕ
  expiresAt : ℕ
  readAt : ℕ
  deriving DecidableEq, Repr

/-- An identity call after its first statement. -/
inductive IdentityCall where
  | deviceSweep (tenantId deviceId : String) (now expectedRevision : ℕ)
  | principalSweep (tenantId principalId proofId : String) (now recoveryRevision : ℕ)
  | audit (proofId : Option String) (outcome : CallResult)
  | sessionInsert (identity : IdentityRead)
  deriving DecidableEq, Repr

/-- A call: where it stands, or how it ended. -/
inductive Thread where
  | start (request : Request) (began : ℕ)
  | workspace (call : WorkspaceCall)
  | identity (call : IdentityCall)
  | done (outcome : CallResult)
  | thrown (error : CloudError)
  deriving DecidableEq, Repr

/-- Run a statement: the call goes on with its answer, or with an error. -/
def statement {σ α : Type} (s : σ) (fault : Fault) (x : Call (σ × α)) (next : α → Thread)
    (failed : CloudError → Thread) : σ × Thread :=
  match x, fault with
  | .error e, _ => (s, failed e)
  | .ok _, .before => (s, failed .outside)
  | .ok (s', a), .none => (s', next a)
  | .ok (s', _), .after => (s', failed .outside)

section

variable {σ α : Type} {s : σ} {fault : Fault} {x : Call (σ × α)} {next : α → Thread}
  {failed : CloudError → Thread}

/-- STATEMENT RULE, where what the statement writes may use that the database carries it out. -/
theorem statement_writes_rule {P : σ → Prop} (hs : P s)
    (h : ∀ s' a, x = .ok (s', a) → fault ≠ .before → P s') :
    P (statement s fault x next failed).1 := by
  cases x with
  | error e => exact hs
  | ok result =>
    obtain ⟨s', a⟩ := result
    cases fault with
    | none => exact h s' a rfl (by decide)
    | before => exact hs
    | after => exact h s' a rfl (by decide)

/-- STATEMENT RULE: what holds before a statement and after it completes, holds of what it
    leaves. -/
theorem statement_rule {P : σ → Prop} (hs : P s) (h : ∀ s' a, x = .ok (s', a) → P s') :
    P (statement s fault x next failed).1 :=
  statement_writes_rule hs fun s' a hx _ => h s' a hx

/-- A statement that is not stopped before it commits. -/
theorem statement_commits {s' : σ} {a : α} (h : x = .ok (s', a)) (hfault : fault ≠ .before) :
    (statement s fault x next failed).1 = s' := by
  subst h
  cases fault with
  | none => rfl
  | before => exact absurd rfl hfault
  | after => rfl

/-- STATEMENT RULE, for what the call does next. -/
theorem statement_thread_rule {P : Thread → Prop} (hfailed : ∀ e, P (failed e))
    (hnext : ∀ s' a, x = .ok (s', a) → P (next a)) : P (statement s fault x next failed).2 := by
  cases x with
  | error e => exact hfailed e
  | ok result =>
    obtain ⟨s', a⟩ := result
    cases fault with
    | none => exact hnext s' a rfl
    | before => exact hfailed .outside
    | after => exact hfailed .outside

end

end Tasq.Cloud
