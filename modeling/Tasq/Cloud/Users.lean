import Mathlib.Tactic
import Tasq.Cloud.Calls

/-! Identity calls after their first statement, and the authentication of a session. They write the
    tables of the users, and nothing else. -/

namespace Tasq.Cloud

open Outcome Rows

namespace Identities

/-- `UPDATE cloud_session SET revoked_at=? WHERE … AND revoked_at IS NULL` -/
def sweep (u : Identities) (p : SessionRow → Prop) [DecidablePred p] (now : ℕ) : Identities :=
  { u with
    sessions := updateWhere u.sessions (fun row => p row ∧ row.revokedAt = none) fun row =>
      { row with revokedAt := some now } }

/-- The device that `revokeDevice` updates. -/
def Revocable (tenantId deviceId : String) (expectedRevision : ℕ) (row : DeviceRow) : Prop :=
  row.tenantId = tenantId ∧ row.id = deviceId ∧ row.status = .active ∧
    row.revision = expectedRevision

instance (tenantId deviceId : String) (expectedRevision : ℕ) :
    DecidablePred (Revocable tenantId deviceId expectedRevision) :=
  fun _ => inferInstanceAs (Decidable (_ ∧ _ ∧ _ ∧ _))

/-- The first statement of `revokeDevice`, and the number of rows that it affects. -/
def revokeDevice (u : Identities) (tenantId deviceId : String) (expectedRevision now : ℕ) :
    Identities × ℕ :=
  let p := Revocable tenantId deviceId expectedRevision
  ({ u with
      devices := updateWhere u.devices p fun row =>
        { row with status := .revoked, revision := row.revision + 1, revokedAt := some now } },
    u.devices.countP fun row => p row)

/-- The principal that `recoverHuman` updates. -/
def Recoverable (tenantId principalId : String) (row : PrincipalRow) : Prop :=
  row.tenantId = tenantId ∧ row.id = principalId ∧ row.kind = .human ∧ row.status = .active

instance (tenantId principalId : String) : DecidablePred (Recoverable tenantId principalId) :=
  fun _ => inferInstanceAs (Decidable (_ ∧ _ ∧ _ ∧ _))

/-- A principal recovered once more. -/
def recovered (row : PrincipalRow) : PrincipalRow :=
  { row with recoveryRevision := row.recoveryRevision + 1, revision := row.revision + 1 }

/-- The first statement of `recoverHuman`, and the recovery revision that it returns. -/
def recoverHuman (u : Identities) (tenantId principalId : String) : Identities × Option ℕ :=
  let p := Recoverable tenantId principalId
  ({ u with principals := updateWhere u.principals p recovered },
    (u.principals.find? fun row => p row).map fun row => row.recoveryRevision + 1)

/-- The insertion of `enrollDevice`. -/
def enrollDevice (u : Identities) (input : EnrollDevice) : Call Identities := do
  refuse (¬ ∃ row ∈ u.principals, row.tenantId = input.tenantId ∧ row.id = input.principalId)
    .outside
  let devices ← insertRow u.devices
    (fun row => row.tenantId = input.tenantId ∧ row.id = input.deviceId)
    { tenantId := input.tenantId
      principalId := input.principalId
      id := input.deviceId
      label := input.label
      status := .active
      revision := 1
      revokedAt := none } .outside
  pure { u with devices := devices }

/-- The insertion of `issueHumanSession`. -/
def insertSession (runtime : CloudRuntime) (u : Identities) (identity : IdentityRead)
    (token csrfToken : String) : Call Identities := do
  let sessions ← insertRow u.sessions
    (fun row => row.tokenDigest = runtime.secretDigest token)
    { tokenDigest := runtime.secretDigest token
      csrfDigest := runtime.secretDigest csrfToken
      tenantId := identity.tenantId
      principalId := identity.principalId
      deviceId := identity.deviceId
      tenantSessionEpoch := identity.sessionEpoch
      principalRecoveryRevision := identity.recoveryRevision
      issuedAt := identity.issuedAt
      expiresAt := identity.expiresAt
      revokedAt := none
      readAt := identity.readAt } .outside
  pure { u with sessions := sessions }

end Identities

/-- The next step of an identity call. -/
def IdentityCall.move (runtime : CloudRuntime) (u : Identities) (call : IdentityCall)
    (input : Input) : Identities × Thread :=
  match call with
  | .deviceSweep tenantId deviceId now expectedRevision =>
    statement u input.fault
      (pure (u.sweep (fun row => row.tenantId = tenantId ∧ row.deviceId = deviceId) now, ()))
      (fun _ => .identity (.audit none (.device deviceId (expectedRevision + 1) .revoked))) .thrown
  | .principalSweep tenantId principalId proofId now recoveryRevision =>
    statement u input.fault
      (pure (u.sweep (fun row => row.tenantId = tenantId ∧ row.principalId = principalId) now, ()))
      (fun _ => .identity (.audit (some proofId) (.recovered principalId recoveryRevision))) .thrown
  | .audit proofId outcome =>
    statement u input.fault
      (do
        refuse (proofId.any fun id => isId id = false) .outside
        pure (u, ()))
      (fun _ => .done outcome) .thrown
  | .sessionInsert identity =>
    statement u input.fault
      (do
        let inserted ← Identities.insertSession runtime u identity input.token input.csrfToken
        pure (inserted, ()))
      (fun _ => .done (.session input.token input.csrfToken identity.expiresAt identity.tenantId
        identity.principalId identity.deviceId)) .thrown

/-- What `authenticateSession` answers. -/
structure Authenticated where
  tenantId : String
  principalId : String
  deviceId : String
  expiresAt : ℕ
  deriving DecidableEq, Repr

namespace ControlPlane

/-- The session of a token. -/
def sessionOf (runtime : CloudRuntime) (s : ControlPlane) (token : String) : Option SessionRow :=
  s.identities.sessions.find? fun row => row.tokenDigest = runtime.secretDigest token

/-- The tenant of an id. -/
def tenantOf (s : ControlPlane) (tenantId : String) : Option TenantRow :=
  s.tenants.find? fun row => row.id = tenantId

/-- The principal of an id. -/
def principalOf (s : ControlPlane) (tenantId principalId : String) : Option PrincipalRow :=
  s.identities.principals.find? fun row => row.tenantId = tenantId ∧ row.id = principalId

/-- The device of an id. -/
def deviceOf (s : ControlPlane) (tenantId deviceId : String) : Option DeviceRow :=
  s.identities.devices.find? fun row => row.tenantId = tenantId ∧ row.id = deviceId

/-- `authenticateSession`, which is one statement, at the clock reading `now`. -/
def authenticateSession (runtime : CloudRuntime) (s : ControlPlane) (token : String)
    (csrfToken : Option String) (now : ℕ) : Option Authenticated := do
  let session ← s.sessionOf runtime token
  let tenant ← s.tenantOf session.tenantId
  let principal ← s.principalOf session.tenantId session.principalId
  let device ← s.deviceOf session.tenantId session.deviceId
  if session.revokedAt ≠ none ∨ session.expiresAt ≤ now ∨ tenant.status ≠ .active ∨
      principal.status ≠ .active ∨ device.status ≠ .active ∨
      session.tenantSessionEpoch ≠ tenant.sessionEpoch ∨
      session.principalRecoveryRevision ≠ principal.recoveryRevision then
    none
  else if csrfToken.any fun csrf => session.csrfDigest ≠ runtime.secretDigest csrf then
    none
  else
    some ⟨session.tenantId, session.principalId, session.deviceId, session.expiresAt⟩

end ControlPlane

end Tasq.Cloud
