import Mathlib.Tactic
import Tasq.Authority.Runtime
import Tasq.Ideal
import Tasq.Lib.Print

/-! An ideal platform for hosted authority: the digest of a value is its encoding, and every text
    is a URL of its own. -/

namespace Tasq.Authority

open Encode

/-! ### Values as JSON -/

instance encodeResourceKind : Encode ResourceKind :=
  through _ (Function.LeftInverse.injective ResourceKind.ofNat_ctorIdx)

instance encodeSenderConstraint : Encode SenderConstraint :=
  through _ (Function.LeftInverse.injective SenderConstraint.ofNat_ctorIdx)

instance encodeEligibilityKind : Encode EligibilityKind :=
  through _ (Function.LeftInverse.injective EligibilityKind.ofNat_ctorIdx)

instance encodeAuthenticationMethod : Encode AuthenticationMethod :=
  through _ (Function.LeftInverse.injective AuthenticationMethod.ofNat_ctorIdx)

instance encodeEnabledStatus : Encode EnabledStatus :=
  through _ (Function.LeftInverse.injective EnabledStatus.ofNat_ctorIdx)

instance encodePrincipalKind : Encode PrincipalKind :=
  through _ (Function.LeftInverse.injective PrincipalKind.ofNat_ctorIdx)

instance encodeRecordStatus : Encode RecordStatus :=
  through _ (Function.LeftInverse.injective RecordStatus.ofNat_ctorIdx)

instance encodeAuthorizationReason : Encode AuthorizationReason :=
  through _ (Function.LeftInverse.injective AuthorizationReason.ofNat_ctorIdx)

instance encodeVerdict : Encode Verdict :=
  through _ (Function.LeftInverse.injective Verdict.ofNat_ctorIdx)

instance encodeClientKind : Encode ClientKind :=
  through _ (Function.LeftInverse.injective ClientKind.ofNat_ctorIdx)

instance encodeResourceRef : Encode ResourceRef :=
  through (fun r => (r.kind, r.id)) (by rintro ⟨⟩ ⟨⟩ h; simpa using h)

instance encodeActionIdentity : Encode ActionIdentity :=
  through (fun a => (a.uri, a.version, a.implementationDigest))
    (by rintro ⟨⟩ ⟨⟩ h; simpa using h)

instance encodeActionDefinition : Encode ActionDefinition :=
  through (fun a => (a.uri, a.version, a.implementationDigest, a.resourceKinds,
    a.senderConstraint, a.eligibility)) (by rintro ⟨⟩ ⟨⟩ h; simpa using h)

/-- A credential binding as its kind and its content. -/
def CredentialBinding.parts : CredentialBinding → ℕ × Json
  | .none => (0, .null)
  | .dpop d => (1, encode d)
  | .mtlsSpiffe uri d => (2, encode (uri, d))

instance encodeCredentialBinding : Encode CredentialBinding :=
  through CredentialBinding.parts fun a b h => by
    cases a <;> cases b <;> simp_all [CredentialBinding.parts]

instance encodeActorSubject : Encode ActorSubject :=
  through (fun a => (a.issuer, a.subject)) (by rintro ⟨⟩ ⟨⟩ h; simpa using h)

instance encodeVerifiedIdentity : Encode VerifiedIdentity :=
  through (fun i => (i.issuer, i.subject, i.audience, i.authenticationMethod, i.authenticatedAt,
    i.notBefore, i.expiresAt, i.clientId, i.actor, i.credentialBinding, i.tokenIdDigest,
    i.issuerConfigurationDigest, i.credentialKeyDigest, i.actionUpperBound))
    (by rintro ⟨⟩ ⟨⟩ h; simpa using h)

instance encodeSubjectBinding : Encode SubjectBinding :=
  through (fun b => (b.id, b.workspaceId, b.principalId, b.issuer, b.subject, b.method, b.status,
    b.revision, b.createdAt, b.disabledAt, b.replacedByBindingId))
    (by rintro ⟨⟩ ⟨⟩ h; simpa using h)

instance encodeAuthorityPrincipal : Encode AuthorityPrincipal :=
  through (fun p => (p.id, p.workspaceId, p.kind, p.status, p.revision))
    (by rintro ⟨⟩ ⟨⟩ h; simpa using h)

instance encodeBoundPrincipal : Encode BoundPrincipal :=
  through (fun b => (b.binding, b.principal)) (by rintro ⟨⟩ ⟨⟩ h; simpa using h)

instance encodePermissionSetDefinition : Encode PermissionSetDefinition :=
  through (fun d => (d.uri, d.version, d.implementationDigest, d.actions))
    (by rintro ⟨⟩ ⟨⟩ h; simpa using h)

/-- A scope as the resource it names. -/
def GrantScope.resource? : GrantScope → Option ResourceRef
  | .workspace => none
  | .exact r => some r

instance encodeGrantScope : Encode GrantScope :=
  through GrantScope.resource? fun a b h => by
    cases a <;> cases b <;> simp_all [GrantScope.resource?]

instance encodeLifetime : Encode Lifetime :=
  through (fun l => (l.notBefore, l.expiresAt, l.status, l.revision))
    (by rintro ⟨⟩ ⟨⟩ h; simpa using h)

instance encodePermissionSetRef : Encode PermissionSetRef :=
  through (fun p => (p.uri, p.version, p.implementationDigest))
    (by rintro ⟨⟩ ⟨⟩ h; simpa using h)

instance encodeAuthorizationGrant : Encode AuthorizationGrant :=
  through (fun g => (g.toLifetime, g.id, g.workspaceId, g.grantorPrincipalId,
    g.granteePrincipalId, g.permissionSet, g.scope)) (by rintro ⟨⟩ ⟨⟩ h; simpa using h)

instance encodeDelegation : Encode Delegation :=
  through (fun d => (d.toLifetime, d.id, d.workspaceId, d.subjectPrincipalId, d.actorPrincipalId,
    d.actions, d.scope)) (by rintro ⟨⟩ ⟨⟩ h; simpa using h)

instance encodeAuthorityEligibility : Encode AuthorityEligibility :=
  through (fun e => (e.toLifetime, e.id, e.workspaceId, e.principalId, e.kind))
    (by rintro ⟨⟩ ⟨⟩ h; simpa using h)

instance encodeAuthorizationRequest : Encode AuthorizationRequest :=
  through (fun r => (r.requestId, r.workspaceId, r.serviceAudience, r.action, r.resource,
    r.identity, r.subject, r.actor, r.permissionSets, r.subjectGrants, r.actorGrants,
    r.delegation, r.eligibilities)) (by rintro ⟨⟩ ⟨⟩ h; simpa using h)

instance encodeAuthorityMutationContext : Encode AuthorityMutationContext :=
  through (fun c => (c.operationId, c.actorPrincipalId, c.reason, c.expectedAuthorityRevision))
    (by rintro ⟨⟩ ⟨⟩ h; simpa using h)

instance encodeWorkspaceAuthorizationInput : Encode WorkspaceAuthorizationInput :=
  through (fun i => (i.requestId, i.workspaceId, i.serviceAudience, i.action, i.resource,
    i.identity)) (by rintro ⟨⟩ ⟨⟩ h; simpa using h)

instance encodeEnrollmentRecord : Encode EnrollmentRecord :=
  through (fun e => (e.id, e.workspaceId, e.principalId, e.issuer, e.subject, e.clientKind,
    e.tokenDigest, e.actionUpperBound, e.createdAt, e.expiresAt, e.accessExpiresAt, e.consumedAt,
    e.revokedAt)) (by rintro ⟨⟩ ⟨⟩ h; simpa using h)

instance encodeMandateIntent : Encode MandateIntent :=
  through (fun i => (i.id, i.workspaceId, i.grantorPrincipalId, i.subjectPrincipalId,
    i.actorPrincipalId, i.actions, i.target, i.notBefore, i.expiresAt, i.maxOperations, i.budget))
    (by rintro ⟨⟩ ⟨⟩ h; simpa using h)

/-- A mutation as the number of its operation and its content. -/
def Mutation.parts : Mutation → ℕ × Json
  | registerPrincipal p => (0, encode p)
  | disablePrincipal w id n => (1, encode (w, id, n))
  | bindSubject b => (2, encode b)
  | disableBinding w id n r => (3, encode (w, id, n, r))
  | activatePermissionSet w p => (4, encode (w, p))
  | retirePermissionSet w u v n => (5, encode (w, u, v, n))
  | createGrant g => (6, encode g)
  | revokeGrant w id n => (7, encode (w, id, n))
  | createDelegation d => (8, encode d)
  | revokeDelegation w id n => (9, encode (w, id, n))
  | grantEligibility e => (10, encode e)
  | revokeEligibility w id n => (11, encode (w, id, n))
  | createEnrollment e => (12, encode e)
  | revokeEnrollment w id => (13, encode (w, id))
  | revokeAccessCredential w id n => (14, encode (w, id, n))
  | issueMandate i => (15, encode i)
  | revokeMandate w id n => (16, encode (w, id, n))

theorem Mutation.parts_injective : Function.Injective Mutation.parts := by
  intro a b h
  have hidx : a.parts.1 = b.parts.1 := congrArg Prod.fst h
  cases a <;> cases b <;> first | (simp [Mutation.parts] at hidx; done) | simp_all [Mutation.parts]

instance encodeMutation : Encode Mutation := through Mutation.parts Mutation.parts_injective

/-- A value as the number of its kind and its content. -/
def AuthorityValue.parts : AuthorityValue → ℕ × Json
  | action u v k s e => (0, encode (u, v, k, s, e))
  | policy as => (1, encode as)
  | permissionSet u v as => (2, encode (u, v, as))
  | request r => (3, encode r)
  | decision p r t d c g s => (4, encode (p, r, t, d, c, g, s))
  | hostTenant id c => (5, encode (id, c))
  | workspace w t s c => (6, encode (w, t, s, c))
  | mutation m c => (7, encode (m, c))
  | envelope i => (8, encode i)
  | redemption e c d t => (9, encode (e, c, d, t))
  | mandate w m => (10, encode (w, m))
  | grant g => (11, encode g)
  | delegation d => (12, encode d)
  | issuerConfiguration i a => (13, encode (i, a))
  | credentialKey => (14, .null)

theorem AuthorityValue.parts_injective : Function.Injective AuthorityValue.parts := by
  intro a b h
  have hidx : a.parts.1 = b.parts.1 := congrArg Prod.fst h
  cases a <;> cases b <;>
    first | (simp [AuthorityValue.parts] at hidx; done) | simp_all [AuthorityValue.parts]

instance encodeAuthorityValue : Encode AuthorityValue :=
  through AuthorityValue.parts AuthorityValue.parts_injective

/-! ### The platform -/

/-- The platform whose digests are the values themselves. -/
def idealAuthority : AuthorityRuntime where
  digest value := ⟨encode value⟩
  hex d := d.value.text
  url text := some ⟨text, "", "", String.ofList (text.toList.takeWhile (· ≠ ':')) ++ ":", "", ""⟩
  localeCompare a b := compare (Text.utf16 a) (Text.utf16 b)
  secretDigest secret := ⟨encode secret⟩

theorem idealAuthority_collisionFree : idealAuthority.CollisionFree where
  digest a b h := encode_injective (congrArg Digest.value h)
  hex a b h := by
    have h : a.value = b.value := Json.text_injective h
    cases a
    cases b
    exact congrArg Digest.mk h

end Tasq.Authority
