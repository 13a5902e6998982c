import Mathlib.Tactic
import Tasq.Signing.Store

/-! Enrollment and transition of signing credentials: one transaction each, after which the
    credential is read back, and the system of these calls beside those of the authority store. -/

namespace Tasq.Signing

open Text Outcome Rows Authority

/-- The bytes that a proof of possession signs. -/
def possessionText (input : Enrollment) : String :=
  "\x00".intercalate ["tasq-credential-enrollment-v1", input.workspaceId, input.principalId,
    input.credentialId, input.challenge]

/-- The row of a credential that is enrolled. -/
def enrolledRow (srt : SigningRuntime) (input : Enrollment) (now : ℕ) : CredentialRow where
  credentialId := input.credentialId
  workspaceId := input.workspaceId
  principalId := input.principalId
  profileUri := "https://schemas.tasq.dev/signatures/ed25519/v1"
  profileVersion := 1
  publicMaterial := input.publicMaterial
  publicMaterialDigest := srt.digest (.material input.publicMaterial)
  trustRootDigest := input.trustRootDigest
  isolationClass := input.isolationClass
  status := .active
  revision := 1
  validFrom := input.validFrom.getD now
  expiresAt := input.expiresAt
  replaces := input.replaces
  replacedBy := none
  enrollmentMethod := input.enrollmentMethod
  enrollmentEvidenceDigest := input.enrollmentEvidenceDigest

/-- What the replacement by another sets of a credential. -/
def CredentialRow.retiredFor (id : String) (row : CredentialRow) : CredentialRow :=
  { row with
    status := .retired
    revision := row.revision + 1
    replacedBy := some id }

/-- What a transition sets of a credential. -/
def CredentialRow.moved (next : SigningStatus) (row : CredentialRow) : CredentialRow :=
  { row with
    status := next
    revision := row.revision + 1 }

/-- An event of a credential. -/
def eventOf (credentialId workspaceId principalId : String) (eventType : SigningEventType)
    (priorStatus : Option SigningStatus) (nextStatus : SigningStatus) (revision now : ℕ)
    (context : SigningContext) : CredentialEvent where
  eventId := s!"credential:{credentialId}:{revision}"
  credentialId := credentialId
  workspaceId := workspaceId
  principalId := principalId
  eventType := eventType
  priorStatus := priorStatus
  nextStatus := nextStatus
  revision := revision
  occurredAt := now
  actorPrincipalId := context.actorPrincipalId
  authorityDecisionId := context.authorityDecisionId
  reason := context.reason

/-- What `enrollEd25519` checks before its transaction, and the digest of the operation. -/
def checkEnrollment (srt : SigningRuntime) (input : Enrollment) (context : SigningContext)
    (now : ℕ) : AuthorityCall Digest := do
  refuse (¬ IsSigningContext context) (.invalid "Context")
  refuse (context.expectedRevision ≠ none)
    (.error "new signing credential enrollment requires expectedRevision null")
  refuse (¬ IsText 500 input.credentialId) (.invalid "Id")
  refuse (¬ IsText 200 input.workspaceId) (.invalid "Workspace")
  refuse (¬ IsText 500 input.principalId) (.invalid "Id")
  refuse (¬ (32 ≤ utf16Length input.challenge ∧ utf16Length input.challenge ≤ 500))
    (.invalid "challenge")
  refuse (¬ IsBase64 86 input.proofOfPossession) (.invalid "proofOfPossession")
  refuse (¬ IsKeyText input.publicMaterial) (.error "invalid Ed25519 public material")
  refuse (srt.verify input.publicMaterial (possessionText input) input.proofOfPossession = false)
    (.error "credential proof of possession failed")
  let validFrom := input.validFrom.getD now
  refuse (¬ IsSafeInteger validFrom ∨ ∃ n ∈ input.expiresAt, ¬ IsSafeInteger n)
    (.error "Effect canonicalization accepts safe integers only and rejects negative zero")
  pure (srt.digest (.enroll input (srt.digest (.material input.publicMaterial)) validFrom))

/-- A replacement is there when it is a text that is not empty. -/
def Enrollment.replaced (input : Enrollment) : Option String :=
  input.replaces.filter (· ≠ "")

/-- What a transition calls its event. -/
def transitionType : SigningStatus → SigningEventType
  | .pending => .activated
  | .active => .resumed
  | .suspended => .suspended
  | .revoked => .revoked
  | .compromised => .compromised
  | .retired => .retired

namespace SigningStore

variable (rt : AuthorityRuntime) (srt : SigningRuntime) (s : SigningStore)

/-- The retirement of a credential that is replaced. -/
def retireReplaced (old : String) (input : Enrollment) (context : SigningContext) (now : ℕ) :
    AuthorityCall SigningStore := do
  let row ← demand (s.credentialRow old) (.error "replacement credential disappeared")
  let s ← s.updateCredential old (·.retiredFor input.credentialId)
  s.insertEvent (eventOf old input.workspaceId input.principalId .retired (some row.status) .retired
    (row.revision + 1) now context)

/-- The transaction of `enrollEd25519`. -/
def enrollment (input : Enrollment) (context : SigningContext) (now : ℕ) :
    AuthorityCall SigningStore := do
  let operationDigest ← checkEnrollment srt input context now
  let s ← s.consumeCredentialAuthority rt input.workspaceId input.credentialId operationDigest now
    context
  refuse (¬ ∃ p ∈ s.authority.principals, p.workspaceId = input.workspaceId ∧
    p.id = input.principalId ∧ p.status = .enabled) (.error "credential principal is not enabled")
  refuse (∃ old ∈ input.replaced, ¬ ∃ row ∈ s.credentials, row.credentialId = old ∧
    row.workspaceId = input.workspaceId ∧ row.principalId = input.principalId)
    (.error "replacement credential does not match principal")
  refuse (¬ IsText 200 input.enrollmentMethod) (.invalid "enrollmentMethod")
  let s ← s.insertCredential (enrolledRow srt input now)
  let s ← match input.replaced with
    | none => pure s
    | some old => s.retireReplaced old input context now
  s.insertEvent (eventOf input.credentialId input.workspaceId input.principalId
    (if input.replaced = none then .enrolled else .recovered) none .active 1 now context)

/-- The transaction of `transition`. -/
def transitionIn (id : String) (next : SigningStatus) (context : SigningContext)
    (compromiseEffectiveAt : Option ℤ) (now : ℕ) : AuthorityCall SigningStore := do
  refuse (¬ IsSigningContext context) (.invalid "Context")
  refuse (next = .pending) (.invalid "Lifecycle")
  refuse (¬ IsText 500 id) (.invalid "Id")
  let row ← demand (s.credentialRow id) (.error "signing credential not found")
  let prior ← parse row
  refuse (context.expectedRevision ≠ some prior.revision)
    (.error "signing credential revision conflict")
  refuse (∃ n ∈ compromiseEffectiveAt, ¬ IsSafeInteger n)
    (.error "Effect canonicalization accepts safe integers only and rejects negative zero")
  let operationDigest := srt.digest (.transition prior.credentialId prior.workspaceId prior.status
    next prior.revision compromiseEffectiveAt)
  let s ← s.consumeCredentialAuthority rt prior.workspaceId prior.credentialId operationDigest now
    context
  let s ← s.updateCredential id (·.moved next)
  refuse (next = .compromised ∧ compromiseEffectiveAt = none ∧ ¬ IsSafeInteger now)
    (.error "Effect canonicalization accepts safe integers only and rejects negative zero")
  s.insertEvent (eventOf id prior.workspaceId prior.principalId (transitionType next)
    (some prior.status) next (prior.revision + 1) now context)

/-- A transaction, and the credential read back when it was committed. -/
def answer (id : String) (outcome : AuthorityCall SigningStore) :
    SigningStore × AuthorityCall (Option Credential) :=
  match outcome with
  | .error e => (s, .error e)
  | .ok s' => (s', s'.get id)

/-- `enrollEd25519` -/
def enrollEd25519 (input : Enrollment) (context : SigningContext) (now : ℕ) :
    SigningStore × AuthorityCall (Option Credential) :=
  s.answer input.credentialId (s.enrollment rt srt input context now)

/-- `transition` -/
def transition (id : String) (next : SigningStatus) (context : SigningContext)
    (compromiseEffectiveAt : Option ℤ) (now : ℕ) :
    SigningStore × AuthorityCall (Option Credential) :=
  s.answer id (s.transitionIn rt srt id next context compromiseEffectiveAt now)

end SigningStore

/-- A mutation of a signing credential, with its reading of the clock. -/
inductive SigningMutation where
  | enroll (input : Enrollment) (context : SigningContext) (now : ℕ)
  | transition (id : String) (next : SigningStatus) (context : SigningContext)
      (compromiseEffectiveAt : Option ℤ) (now : ℕ)
  deriving DecidableEq

namespace SigningMutation

/-- The context of a mutation. -/
def context : SigningMutation → SigningContext
  | enroll _ context _ => context
  | transition _ _ context _ _ => context

/-- The reading of the clock of a mutation. -/
def now : SigningMutation → ℕ
  | enroll _ _ now => now
  | transition _ _ _ _ now => now

/-- The credential that a mutation is asked for. -/
def credentialId : SigningMutation → String
  | enroll input _ _ => input.credentialId
  | transition id _ _ _ _ => id

end SigningMutation

/-- A call that writes: one of the authority store, or a mutation of a signing credential. -/
inductive SigningAction where
  | authority (action : AuthorityAction)
  | mutate (mutation : SigningMutation)

namespace SigningStore

variable (rt : AuthorityRuntime) (srt : SigningRuntime)

/-- The transaction of a mutation. -/
def transact (s : SigningStore) : SigningMutation → AuthorityCall SigningStore
  | .enroll input context now => s.enrollment rt srt input context now
  | .transition id next context compromise now =>
    s.transitionIn rt srt id next context compromise now

/-- A mutation: the state after it, and what it answers. -/
def perform (s : SigningStore) : SigningMutation → SigningStore × AuthorityCall (Option Credential)
  | .enroll input context now => s.enrollEd25519 rt srt input context now
  | .transition id next context compromise now =>
    s.transition rt srt id next context compromise now

/-- The state after a call. -/
def step (s : SigningStore) : SigningAction → SigningStore
  | .authority action => { s with authority := s.authority.step rt action }
  | .mutate mutation => (s.perform rt srt mutation).1

/-- The state after a run of calls. -/
abbrev run (s : SigningStore) (actions : List SigningAction) : SigningStore :=
  Run.run (step rt srt) s actions

end SigningStore

end Tasq.Signing
