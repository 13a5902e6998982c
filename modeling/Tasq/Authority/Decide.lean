import Mathlib.Tactic
import Tasq.Authority.Evaluate
import Tasq.Authority.Store

/-! Authorization against the store: the request is loaded from the tables, evaluated and recorded
    in one transaction, and a guarded callback runs while that transaction is open. A request id
    that was decided before is answered from its row. -/

namespace Tasq.Authority

open Text Outcome Rows

/-- The text of a reason code. -/
def AuthorizationReason.text : AuthorizationReason → String
  | allowed => "allowed"
  | unknownAction => "unknown_action"
  | actionIdentityMismatch => "action_identity_mismatch"
  | actionResourceMismatch => "action_resource_mismatch"
  | serviceAudienceMismatch => "service_audience_mismatch"
  | identityNotYetValid => "identity_not_yet_valid"
  | identityExpired => "identity_expired"
  | membershipRequired => "membership_required"
  | subjectBindingMismatch => "subject_binding_mismatch"
  | subjectBindingNotYetValid => "subject_binding_not_yet_valid"
  | subjectBindingDisabled => "subject_binding_disabled"
  | subjectPrincipalDisabled => "subject_principal_disabled"
  | actorBindingRequired => "actor_binding_required"
  | actorBindingMismatch => "actor_binding_mismatch"
  | actorBindingNotYetValid => "actor_binding_not_yet_valid"
  | actorBindingDisabled => "actor_binding_disabled"
  | actorPrincipalDisabled => "actor_principal_disabled"
  | senderConstraintRequired => "sender_constraint_required"
  | tokenUpperBoundDenied => "token_upper_bound_denied"
  | authoritySnapshotInvalid => "authority_snapshot_invalid"
  | subjectGrantDenied => "subject_grant_denied"
  | actorGrantDenied => "actor_grant_denied"
  | delegationDenied => "delegation_denied"
  | effectEligibilityRequired => "effect_eligibility_required"

/-- `WorkspaceAuthorizationResult` -/
structure WorkspaceAuthorizationResult where
  decision : AuthorizationDecision
  authorityRevision : Option ℕ
  storageBindingId : Option String
  replayed : Bool
  deriving DecidableEq

/-- The callback runs for this result. -/
def WorkspaceAuthorizationResult.Guarded (result : WorkspaceAuthorizationResult) : Prop :=
  result.decision.decision = .allow ∧ result.storageBindingId ≠ none

instance (result : WorkspaceAuthorizationResult) : Decidable result.Guarded := by
  unfold WorkspaceAuthorizationResult.Guarded; infer_instance

/-- `mapAuthorityStoreError`: a value that a schema does not admit is a corrupt record. -/
def mapAuthorityStoreError : AuthorityFailure → AuthorityFailure
  | .invalid _ => corruptRecord
  | e => e

namespace AuthorityRows

variable (rt : AuthorityRuntime) (rows : AuthorityRows)

/-- Records read from rows: all of them admissible, or the store is corrupt. -/
def parseAll {α : Type} (admits : α → Prop) [DecidablePred admits] (values : List α) :
    AuthorityCall (List α) := do
  refuse (¬ ∀ value ∈ values, admits value) corruptRecord
  pure values

/-- `loadBoundPrincipal` -/
def loadBoundPrincipal (workspaceId issuer subject : String) :
    AuthorityCall (Option BoundPrincipal) :=
  match rows.bindings.find? fun b => b.workspaceId = workspaceId ∧ b.issuer = issuer ∧
      b.subject = subject with
  | none => pure none
  | some binding =>
    match rows.principals.find? fun p => p.workspaceId = binding.workspaceId ∧
        p.id = binding.principalId with
    | none => pure none
    | some principal => do
      let bound : BoundPrincipal := ⟨binding, principal⟩
      refuse (¬ rt.IsBoundPrincipal bound) corruptRecord
      pure (some bound)

/-- `ORDER BY uri, version` -/
def byKey (permissionSets : List PermissionSetDefinition) : List PermissionSetDefinition :=
  permissionSets.mergeSort fun a b => a.uri < b.uri ∨ a.uri = b.uri ∧ a.version ≤ b.version

/-- `loadPermissionSets` -/
def loadPermissionSets (workspaceId : String) : AuthorityCall (List PermissionSetDefinition) :=
  parseAll rt.IsPermissionSetDefinition (byKey ((rows.permissionSets.filter fun p =>
    p.workspaceId = workspaceId ∧ p.status = .active).map PermissionSetRow.definition))

/-- The permission set of a grant is active. -/
def GrantActive (grant : AuthorizationGrant) : Prop :=
  ∃ p ∈ rows.permissionSets, p.workspaceId = grant.workspaceId ∧
    p.definition.uri = grant.permissionSet.uri ∧
    p.definition.version = grant.permissionSet.version ∧
    p.definition.implementationDigest = grant.permissionSet.implementationDigest ∧
    p.status = .active

instance (grant : AuthorizationGrant) : Decidable (rows.GrantActive grant) := by
  unfold GrantActive; infer_instance

/-- `loadGrants` -/
def loadGrants (workspaceId : String) (principalId : Option String) :
    AuthorityCall (List AuthorizationGrant) :=
  match principalId with
  | none => pure []
  | some id => parseAll rt.IsAuthorizationGrant ((rows.grants.filter fun g =>
      g.workspaceId = workspaceId ∧ g.granteePrincipalId = id ∧ rows.GrantActive g).mergeSort
        fun a b => a.id ≤ b.id)

/-- The delegation is for the action and over the resource. -/
def DelegationFor (action : ActionIdentity) (resource : ResourceRef) (delegation : Delegation) :
    Prop :=
  action ∈ delegation.actions ∧ covers delegation.scope resource

instance (action : ActionIdentity) (resource : ResourceRef) (delegation : Delegation) :
    Decidable (DelegationFor action resource delegation) := by
  unfold DelegationFor; infer_instance

/-- `loadDelegation`: the first live one for the action and the resource, or else the first. -/
def loadDelegation (workspaceId : String) (subjectPrincipalId actorPrincipalId : Option String)
    (action : ActionIdentity) (resource : ResourceRef) (now : ℕ) :
    AuthorityCall (Option Delegation) :=
  match subjectPrincipalId, actorPrincipalId with
  | some subjectId, some actorId => do
    let parsed ← parseAll rt.IsDelegation ((rows.delegations.filter fun d =>
      d.workspaceId = workspaceId ∧ d.subjectPrincipalId = subjectId ∧
        d.actorPrincipalId = actorId).mergeSort fun a b => a.id ≤ b.id)
    pure ((parsed.find? fun d => DelegationFor action resource d ∧ d.live now) <|>
      parsed.find? fun d => DelegationFor action resource d)
  | _, _ => pure none

/-- `loadEligibilities` -/
def loadEligibilities (workspaceId : String) (principalId : Option String) :
    AuthorityCall (List AuthorityEligibility) :=
  match principalId with
  | none => pure []
  | some id => parseAll AuthorityRuntime.IsAuthorityEligibility ((rows.eligibilities.filter fun e =>
      e.workspaceId = workspaceId ∧ e.principalId = id).mergeSort fun a b => a.id ≤ b.id)

/-- What a workspace that is not enabled answers with nothing. -/
def whenEnabled {α : Type} (enabled : Bool) (nothing : α) (load : AuthorityCall α) :
    AuthorityCall α :=
  if enabled then load else pure nothing

/-- The binding of the actor that the identity may name. -/
def loadActor (enabled : Bool) (input : WorkspaceAuthorizationInput) :
    AuthorityCall (Option BoundPrincipal) :=
  match input.identity.actor with
  | some actor =>
    whenEnabled enabled none (rows.loadBoundPrincipal rt input.workspaceId actor.issuer actor.subject)
  | none => pure none

/-- The request that the evaluator is shown. -/
def loadRequest (enabled : Bool) (input : WorkspaceAuthorizationInput) (now : ℕ) :
    AuthorityCall AuthorizationRequest := do
  let subject ← whenEnabled enabled none
    (rows.loadBoundPrincipal rt input.workspaceId input.identity.issuer input.identity.subject)
  let actor ← rows.loadActor rt enabled input
  let permissionSets ← whenEnabled enabled [] (rows.loadPermissionSets rt input.workspaceId)
  let subjectId := subject.map fun b => b.principal.id
  let actorId := actor.map fun b => b.principal.id
  let subjectGrants ← rows.loadGrants rt input.workspaceId subjectId
  let actorGrants ← rows.loadGrants rt input.workspaceId actorId
  let delegation ← rows.loadDelegation rt input.workspaceId subjectId actorId input.action
    input.resource now
  let eligibilities ← rows.loadEligibilities input.workspaceId
    (if input.identity.actor.isSome then actorId else subjectId)
  pure
    { requestId := input.requestId
      workspaceId := input.workspaceId
      serviceAudience := input.serviceAudience
      action := input.action
      resource := input.resource
      identity := input.identity
      subject, actor, permissionSets, subjectGrants, actorGrants, delegation, eligibilities }

end AuthorityRows

namespace AuthorityStore

variable (rt : AuthorityRuntime) (s : AuthorityStore)

/-- The row of a workspace. -/
def workspaceRow (workspaceId : String) : Option HostedWorkspace :=
  s.workspaces.find? (·.workspaceId = workspaceId)

/-- The row of a decided request. -/
def decisionRow (workspaceId requestId : String) : Option DecisionRow :=
  s.decisions.find? fun d => d.workspaceId = workspaceId ∧ d.requestId = requestId

/-- `authorizeAndExecuteAt`, for a request that was decided before. -/
def replayDecision (input : WorkspaceAuthorizationInput) (envelopeDigest : Digest)
    (previous : DecisionRow) : AuthorityCall WorkspaceAuthorizationResult := do
  refuse (previous.envelopeDigest ≠ envelopeDigest)
    (.store .idempotencyConflict s!"request {input.requestId} was reused with different input")
  refuse (¬ rt.IsAuthorizationDecision previous.decision) corruptRecord
  if previous.decision.decision = .allow then do
    let conflict := AuthorityFailure.store .revisionConflict
      "the authority revision changed after this request was allowed; retry with a new requestId"
    let current ← demand (s.workspaceRow input.workspaceId) conflict
    refuse (current.status ≠ .enabled) conflict
    refuse (Json.maxSafeInteger < current.authorityRevision) (corruptColumn "authority_revision")
    refuse (some current.authorityRevision ≠ previous.authorityRevision) conflict
    pure ⟨previous.decision, previous.authorityRevision, some current.storageBindingId, true⟩
  else
    pure ⟨previous.decision, previous.authorityRevision, none, true⟩

/-- `loadWorkspace`: the row of the workspace, when there is one. -/
def loadWorkspace (workspaceId : String) : AuthorityCall (Option HostedWorkspace) :=
  match s.workspaceRow workspaceId with
  | none => pure none
  | some row => some <$> workspaceFromRow row

/-- The request that the store shows the evaluator. -/
def requestAt (input : WorkspaceAuthorizationInput) (now : ℕ) :
    AuthorityCall AuthorizationRequest := do
  let workspace ← s.loadWorkspace input.workspaceId
  s.toAuthorityRows.loadRequest rt (workspace.any (·.status = .enabled)) input now

/-- The audit row of a decision. -/
def decisionAudit (decision : AuthorizationDecision) (workspace : Option HostedWorkspace)
    (now : ℕ) : AuditRow where
  eventId := "decision:sha256:" ++ rt.hex decision.decisionId
  workspaceId := workspace.map fun _ => decision.workspaceId
  occurredAt := now
  actorPrincipalId := decision.actorPrincipalId
  eventType := match decision.decision with
    | .allow => "authorization.allow"
    | .deny => "authorization.deny"
  targetType := "authorization_decision"
  targetId := "sha256:" ++ rt.hex decision.decisionId
  authorityRevision := workspace.map HostedWorkspace.authorityRevision
  requestDigest := decision.requestDigest
  reason := decision.reasonCode.text

/-- `authorizeAndExecuteAt`, for a request id that is new. -/
def decide (input : WorkspaceAuthorizationInput) (envelopeDigest : Digest) (now : ℕ) :
    AuthorityCall (AuthorityStore × WorkspaceAuthorizationResult) := do
  let workspace ← s.loadWorkspace input.workspaceId
  let request ← s.requestAt rt input now
  let decision ← (rt.evaluateAuthorization request now).mapError mapAuthorityStoreError
  let authorityRevision := workspace.map HostedWorkspace.authorityRevision
  let decisions ← insertRow s.decisions
    (fun d => d.decision.decisionId = decision.decisionId ∨
      d.workspaceId = decision.workspaceId ∧ d.requestId = decision.requestId)
    ⟨decision.workspaceId, decision.requestId, authorityRevision, envelopeDigest, decision⟩
    alreadyExists
  let row := decisionAudit rt decision workspace now
  let audit ← insertRow s.audit (·.eventId = row.eventId) row alreadyExists
  pure ({ s with decisions, audit }, ⟨decision, authorityRevision,
    if decision.decision = .allow then workspace.map HostedWorkspace.storageBindingId else none,
    false⟩)

/-- `authorizeAndExecuteAt`, up to the call of the callback. -/
def authorizeIn (input : WorkspaceAuthorizationInput) (evaluatedAt : ℕ) :
    AuthorityCall (AuthorityStore × WorkspaceAuthorizationResult) := do
  refuse (¬ IsUnixMs evaluatedAt) (.invalid "UnixMs")
  refuse (¬ IsOpaqueId input.requestId) (.invalid "Id")
  refuse (¬ IsWorkspaceId input.workspaceId) (.invalid "WorkspaceId")
  let envelopeDigest ← rt.digestAuthorityValue (.envelope input)
  match s.decisionRow input.workspaceId input.requestId with
  | some previous => do
    let authorization ← s.replayDecision rt input envelopeDigest previous
    pure (s, authorization)
  | none => s.decide rt input envelopeDigest evaluatedAt

/-- `authorizeAndExecuteAt`: the transaction is committed when the callback, if it runs, ends. -/
def authorizeAndExecuteAt {τ : Type} (input : WorkspaceAuthorizationInput) (evaluatedAt : ℕ)
    (execute : WorkspaceAuthorizationResult → AuthorityCall τ) :
    AuthorityCall (AuthorityStore × WorkspaceAuthorizationResult × Option τ) := do
  let (s, authorization) ← s.authorizeIn rt input evaluatedAt
  let execution ← if authorization.Guarded then some <$> execute authorization else pure none
  pure (s, authorization, execution)

/-- `authorizeAt` -/
def authorizeAt (input : WorkspaceAuthorizationInput) (evaluatedAt : ℕ) :
    AuthorityCall (AuthorityStore × WorkspaceAuthorizationResult) := do
  let (s, authorization, _) ← s.authorizeAndExecuteAt rt input evaluatedAt fun _ => pure ()
  pure (s, authorization)

/-- The callback of `authorizeAndExecuteAt` runs. -/
def Executes (input : WorkspaceAuthorizationInput) (evaluatedAt : ℕ) : Prop :=
  Ends (s.authorizeIn rt input evaluatedAt) fun outcome => outcome.2.Guarded

instance (input : WorkspaceAuthorizationInput) (evaluatedAt : ℕ) :
    Decidable (s.Executes rt input evaluatedAt) := by unfold Executes; infer_instance

end AuthorityStore

end Tasq.Authority
