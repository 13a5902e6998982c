import Mathlib.Tactic
import Tasq.Authority.Store

/-! Mandates: an intent is compiled to a permission set, a grant of the subject and, with an actor,
    a grant of the actor and a delegation. No table holds a mandate: `inspectMandate` projects it
    back from those records. -/

namespace Tasq.Authority

open Text Outcome

/-- The text of a resource kind. -/
def ResourceKind.text : ResourceKind → String
  | workspace => "workspace"
  | commitment => "commitment"
  | resource => "resource"
  | effect => "effect"
  | replica => "replica"

/-- What `mandateRecordIds` answers. -/
structure MandateRecordIds where
  permissionUri : String
  subjectGrantId : String
  actorGrantId : String
  delegationId : String
  deriving DecidableEq, Repr

/-- `CompiledMandate` -/
structure CompiledMandate where
  intent : MandateIntent
  permissionSet : PermissionSetDefinition
  subjectGrant : AuthorizationGrant
  actorGrant : Option AuthorizationGrant
  delegation : Option Delegation
  deriving DecidableEq

namespace AuthorityRuntime

variable (rt : AuthorityRuntime)

/-- `MandateIntent` -/
def IsMandateIntent (intent : MandateIntent) : Prop :=
  IsId 400 intent.id ∧ IsWorkspaceId intent.workspaceId ∧ IsId 400 intent.grantorPrincipalId ∧
    IsId 400 intent.subjectPrincipalId ∧ (∀ id ∈ intent.actorPrincipalId, IsId 400 id) ∧
    (∀ identity ∈ intent.actions, rt.IsActionIdentity identity) ∧ 1 ≤ intent.actions.length ∧
    intent.actions.length ≤ 21 ∧ IsGrantScope intent.target ∧
    (∀ n ∈ intent.notBefore, IsUnixMs n) ∧ (∀ n ∈ intent.expiresAt, IsUnixMs n) ∧
    intent.maxOperations = none ∧ intent.budget = none ∧
    SortedUnique (intent.actions.map ActionIdentity.uri) ∧
    intent.actorPrincipalId ≠ some intent.subjectPrincipalId ∧
    ∀ start ∈ intent.notBefore, ∀ stop ∈ intent.expiresAt, start < stop

instance (intent : MandateIntent) : Decidable (rt.IsMandateIntent intent) := by
  unfold IsMandateIntent; infer_instance

/-- `mandateRecordIds` -/
def mandateRecordIds (workspaceId mandateId : String) : MandateRecordIds where
  permissionUri := "urn:tasq:mandate:" ++ rt.hex (rt.digest (.mandate workspaceId mandateId))
  subjectGrantId := "mandate:" ++ mandateId ++ ":subject"
  actorGrantId := "mandate:" ++ mandateId ++ ":actor"
  delegationId := "mandate:" ++ mandateId ++ ":delegation"

/-- `definePermissionSet` -/
def definePermissionSet (uri : String) (version : ℕ) (actions : List ActionDefinition) :
    AuthorityCall PermissionSetDefinition := do
  let actions := (actions.map ActionDefinition.identity).mergeSort fun a b =>
    rt.localeCompare a.uri b.uri ≠ .gt
  let implementationDigest ← rt.digestAuthorityValue (.permissionSet uri version actions)
  let definition : PermissionSetDefinition := { uri, version, implementationDigest, actions }
  refuse (¬ rt.IsPermissionSetDefinition definition) (.invalid "PermissionSetDefinition")
  pure definition

/-- The checks of one action of an intent; the definition of the action. -/
def compileAction (target : GrantScope) (identity : ActionIdentity) :
    AuthorityCall ActionDefinition := do
  let action ← demand (rt.getRegisteredAction identity.uri)
    (.mandate .unknownAction s!"unknown action {identity.uri}")
  refuse (action.version ≠ identity.version ∨
      action.implementationDigest ≠ identity.implementationDigest)
    (.mandate .actionIdentityMismatch s!"stale or conflicting action identity {identity.uri}")
  refuse (identity.uri = "urn:tasq:action:effect.dispatch")
    (.mandate .remoteEffectDispatchDisabled
      "remote effect dispatch remains disabled through TQ-906")
  match target with
  | .workspace => pure action
  | .exact resource => do
    refuse (resource.kind ∉ action.resourceKinds)
      (.mandate .actionTargetMismatch
        s!"{identity.uri} does not accept {resource.kind.text} targets")
    pure action

/-- The registered action under the URI of an identity, when there is one. -/
def registeredAction (identity : ActionIdentity) : ActionDefinition :=
  (rt.getRegisteredAction identity.uri).getD (rt.actionDefinition ("", [], .none, none))

/-- The action takes the target. -/
def TargetFits : GrantScope → ActionDefinition → Prop
  | .workspace, _ => True
  | .exact resource, action => resource.kind ∈ action.resourceKinds

/-- An action that an intent may name. -/
def Compilable (target : GrantScope) (identity : ActionIdentity) : Prop :=
  rt.Registered identity ∧ identity.uri ≠ "urn:tasq:action:effect.dispatch" ∧
    TargetFits target (rt.registeredAction identity)

theorem compileAction_eq_ok {target : GrantScope} {identity : ActionIdentity}
    {action : ActionDefinition} : rt.compileAction target identity = .ok action ↔
      rt.Compilable target identity ∧ rt.registeredAction identity = action := by
  simp only [compileAction, bind_eq_ok, demand_eq_ok, refuse_eq_ok, exists_const, not_or, not_not,
    ne_eq]
  constructor
  · rintro ⟨found, hfound, ⟨hversion, hdigest⟩, hdispatch, h⟩
    have hregistered : rt.registeredAction identity = found := by
      rw [registeredAction, hfound, Option.getD_some]
    have hexact : exactAction identity found :=
      ⟨(rt.getRegisteredAction_uri hfound).symm, hversion.symm, hdigest.symm⟩
    cases target with
    | workspace =>
      obtain rfl := (pure_eq_ok _ _).1 h
      exact ⟨⟨⟨found, hfound, hexact⟩, hdispatch, trivial⟩, hregistered⟩
    | exact resource =>
      simp only [bind_eq_ok, refuse_eq_ok, exists_const, not_not, pure_eq_ok] at h
      obtain ⟨hkind, rfl⟩ := h
      exact ⟨⟨⟨found, hfound, hexact⟩, hdispatch, by rw [hregistered]; exact hkind⟩, hregistered⟩
  · rintro ⟨⟨⟨found, hfound, hexact⟩, hdispatch, hfits⟩, rfl⟩
    have hregistered : rt.registeredAction identity = found := by
      rw [registeredAction, Option.mem_def.1 hfound, Option.getD_some]
    refine ⟨found, hfound, ⟨hexact.2.1.symm, hexact.2.2.symm⟩, hdispatch, ?_⟩
    rw [hregistered] at hfits ⊢
    cases target with
    | workspace => rfl
    | exact resource =>
      simp only [bind_eq_ok, refuse_eq_ok, exists_const, not_not, pure_eq_ok, and_true]
      exact hfits

/-- An action that an intent may name is the identity of its registered action. -/
theorem Compilable.identity {target : GrantScope} {identity : ActionIdentity}
    (h : rt.Compilable target identity) :
    (rt.registeredAction identity).identity = identity := by
  obtain ⟨⟨found, hfound, hexact⟩, -, -⟩ := h
  rw [registeredAction, Option.mem_def.1 hfound, Option.getD_some]
  exact ((exactAction_iff _ _).1 hexact).symm

/-- The actions of an intent compile to definitions whose identities they are. -/
theorem compileActions_eq_ok {target : GrantScope} {identities : List ActionIdentity}
    {actions : List ActionDefinition} :
    identities.mapM (rt.compileAction target) = .ok actions ↔
      (∀ identity ∈ identities, rt.Compilable target identity) ∧
        identities.map rt.registeredAction = actions :=
  mapM_eq_ok (fun _ _ _ => rt.compileAction_eq_ok) actions

theorem compileActions_identity {target : GrantScope} {identities : List ActionIdentity}
    {actions : List ActionDefinition}
    (h : identities.mapM (rt.compileAction target) = .ok actions) :
    actions.map ActionDefinition.identity = identities := by
  obtain ⟨hcompilable, rfl⟩ := rt.compileActions_eq_ok.1 h
  rw [List.map_map]
  conv_rhs => rw [← List.map_id identities]
  exact List.map_congr_left fun identity hidentity => (hcompilable identity hidentity).identity

/-- The lifetime of the records of a new mandate. -/
def intentLifetime (intent : MandateIntent) : Lifetime where
  notBefore := intent.notBefore
  expiresAt := intent.expiresAt
  status := .active
  revision := 1

/-- The grant of a compiled mandate to one of its principals. -/
def mandateGrant (intent : MandateIntent) (permissionSet : PermissionSetDefinition)
    (id granteePrincipalId : String) : AuthorizationGrant :=
  { intentLifetime intent with
    id := id
    workspaceId := intent.workspaceId
    grantorPrincipalId := intent.grantorPrincipalId
    granteePrincipalId := granteePrincipalId
    permissionSet := ⟨permissionSet.uri, permissionSet.version, permissionSet.implementationDigest⟩
    scope := intent.target }

/-- The delegation of a compiled mandate. -/
def mandateDelegation (intent : MandateIntent) (id actorPrincipalId : String) : Delegation :=
  { intentLifetime intent with
    id := id
    workspaceId := intent.workspaceId
    subjectPrincipalId := intent.subjectPrincipalId
    actorPrincipalId := actorPrincipalId
    actions := intent.actions
    scope := intent.target }

/-- `AuthorizationGrant.parse` -/
def parseGrant (grant : AuthorizationGrant) : AuthorityCall AuthorizationGrant := do
  refuse (¬ rt.IsAuthorizationGrant grant) (.invalid "AuthorizationGrant")
  pure grant

/-- `Delegation.parse` -/
def parseDelegation (delegation : Delegation) : AuthorityCall Delegation := do
  refuse (¬ rt.IsDelegation delegation) (.invalid "Delegation")
  pure delegation

/-- `compileMandate` -/
def compileMandate (intent : MandateIntent) : AuthorityCall CompiledMandate := do
  refuse (intent.maxOperations ≠ none)
    (.mandate .genericUsageLimitUnsupported
      "generic use counters are not enforced by authority v1")
  refuse (intent.budget ≠ none)
    (.mandate .genericBudgetUnsupported
      "generic budgets require an enforcing ledger; use effect approval limits")
  refuse (¬ rt.IsMandateIntent intent) (.invalid "MandateIntent")
  let actions ← intent.actions.mapM (rt.compileAction intent.target)
  let ids := rt.mandateRecordIds intent.workspaceId intent.id
  let permissionSet ← rt.definePermissionSet ids.permissionUri 1 actions
  let subjectGrant ← rt.parseGrant
    (mandateGrant intent permissionSet ids.subjectGrantId intent.subjectPrincipalId)
  match intent.actorPrincipalId with
  | none =>
    pure { intent, permissionSet, subjectGrant, actorGrant := none, delegation := none }
  | some actorPrincipalId => do
    let actorGrant ← rt.parseGrant
      (mandateGrant intent permissionSet ids.actorGrantId actorPrincipalId)
    let delegation ← rt.parseDelegation
      (mandateDelegation intent ids.delegationId actorPrincipalId)
    pure { intent, permissionSet, subjectGrant, actorGrant := some actorGrant
           delegation := some delegation }

theorem definePermissionSet_eq_ok {uri : String} {version : ℕ} {actions : List ActionDefinition}
    {p : PermissionSetDefinition} (h : rt.definePermissionSet uri version actions = .ok p) :
    rt.IsPermissionSetDefinition p ∧ p.uri = uri ∧ p.version = version ∧
      p.actions = (actions.map ActionDefinition.identity).mergeSort
        (fun a b => rt.localeCompare a.uri b.uri ≠ .gt) ∧
      (AuthorityValue.permissionSet p.uri p.version p.actions).Safe ∧
      rt.digest (.permissionSet p.uri p.version p.actions) = p.implementationDigest := by
  simp only [definePermissionSet, bind_eq_ok, refuse_eq_ok, pure_eq_ok, exists_const, not_not,
    digestAuthorityValue_eq_ok] at h
  obtain ⟨_, ⟨hsafe, rfl⟩, hdefinition, rfl⟩ := h
  exact ⟨hdefinition, rfl, rfl, rfl, hsafe, rfl⟩

/-- What a compiled mandate is made of. -/
structure Compiles (intent : MandateIntent) (compiled : CompiledMandate) : Prop where
  source : compiled.intent = intent
  isIntent : rt.IsMandateIntent intent
  permissionSet : ∃ actions, intent.actions.mapM (rt.compileAction intent.target) = .ok actions ∧
    rt.definePermissionSet (rt.mandateRecordIds intent.workspaceId intent.id).permissionUri 1
      actions = .ok compiled.permissionSet
  subjectGrant : compiled.subjectGrant = mandateGrant intent compiled.permissionSet
    (rt.mandateRecordIds intent.workspaceId intent.id).subjectGrantId intent.subjectPrincipalId
  isSubjectGrant : rt.IsAuthorizationGrant compiled.subjectGrant
  actorGrant : compiled.actorGrant = intent.actorPrincipalId.map
    (mandateGrant intent compiled.permissionSet
      (rt.mandateRecordIds intent.workspaceId intent.id).actorGrantId)
  isActorGrant : ∀ g ∈ compiled.actorGrant, rt.IsAuthorizationGrant g
  delegation : compiled.delegation = intent.actorPrincipalId.map
    (mandateDelegation intent (rt.mandateRecordIds intent.workspaceId intent.id).delegationId)
  isDelegation : ∀ d ∈ compiled.delegation, rt.IsDelegation d

variable {rt}

theorem parseGrant_eq_ok {g g' : AuthorizationGrant} :
    rt.parseGrant g = .ok g' ↔ rt.IsAuthorizationGrant g ∧ g = g' := by
  simp only [parseGrant, bind_eq_ok, refuse_eq_ok, pure_eq_ok, exists_const, not_not]

theorem parseDelegation_eq_ok {d d' : Delegation} :
    rt.parseDelegation d = .ok d' ↔ rt.IsDelegation d ∧ d = d' := by
  simp only [parseDelegation, bind_eq_ok, refuse_eq_ok, pure_eq_ok, exists_const, not_not]

/-- COMPILE: an intent is compiled exactly to its records, when they are admissible. -/
theorem compileMandate_eq_ok {intent : MandateIntent} {compiled : CompiledMandate} :
    rt.compileMandate intent = .ok compiled ↔ rt.Compiles intent compiled := by
  simp only [compileMandate, bind_eq_ok, refuse_eq_ok, exists_const, not_not, ne_eq,
    parseGrant_eq_ok]
  constructor
  · rintro ⟨-, -, hintent, actions, hactions, p, hset, _, ⟨hsubject, rfl⟩, h⟩
    cases hactor : intent.actorPrincipalId with
    | none =>
      rw [hactor] at h
      obtain rfl := (pure_eq_ok _ _).1 h
      exact ⟨rfl, hintent, ⟨actions, hactions, hset⟩, rfl, hsubject, by rw [hactor]; rfl, nofun,
        by rw [hactor]; rfl, nofun⟩
    | some actorId =>
      rw [hactor] at h
      simp only [bind_eq_ok, parseGrant_eq_ok, parseDelegation_eq_ok, pure_eq_ok] at h
      obtain ⟨_, ⟨hgrant, rfl⟩, _, ⟨hdelegation, rfl⟩, rfl⟩ := h
      exact ⟨rfl, hintent, ⟨actions, hactions, hset⟩, rfl, hsubject, by rw [hactor]; rfl,
        by simpa using hgrant, by rw [hactor]; rfl, by simpa using hdelegation⟩
  · rintro ⟨rfl, hintent, ⟨actions, hactions, hset⟩, hgrant, hsubject, hactorGrant, hactor,
      hdelegation, hdelegated⟩
    have hnull := hintent.2.2.2.2.2.2.2.2.2.2.2
    refine ⟨hnull.1, hnull.2.1, hintent, actions, hactions, compiled.permissionSet, hset, _,
      ⟨hgrant ▸ hsubject, rfl⟩, ?_⟩
    cases hid : compiled.intent.actorPrincipalId with
    | none =>
      rw [hid, Option.map_none] at hactorGrant hdelegation
      rw [pure_eq_ok, ← hgrant]
      cases compiled
      simp_all
    | some actorId =>
      rw [hid, Option.map_some] at hactorGrant hdelegation
      simp only [bind_eq_ok, parseGrant_eq_ok, parseDelegation_eq_ok, pure_eq_ok]
      refine ⟨_, ⟨hactor _ hactorGrant, rfl⟩, _, ⟨hdelegated _ hdelegation, rfl⟩, ?_⟩
      rw [← hgrant]
      cases compiled
      simp_all

end AuthorityRuntime

/-! ### The projection -/

namespace AuthorityStore

variable (rt : AuthorityRuntime) (s : AuthorityStore)

/-- A refusal of `inspectMandate`. -/
def corruptMandate (message : String) : AuthorityFailure := .store .authorityCorrupt message

/-- The grant of a workspace under an id. -/
def grantRow (workspaceId id : String) : Option AuthorizationGrant :=
  s.grants.find? fun g => g.workspaceId = workspaceId ∧ g.id = id

/-- The delegation of a workspace under an id. -/
def delegationRow (workspaceId id : String) : Option Delegation :=
  s.delegations.find? fun d => d.workspaceId = workspaceId ∧ d.id = id

/-- The permission set that a grant is joined with. -/
def permissionSetRow (workspaceId uri : String) (version : ℕ) : Option PermissionSetRow :=
  s.permissionSets.find? fun p => p.workspaceId = workspaceId ∧ p.definition.uri = uri ∧
    p.definition.version = version

/-- The lifetime that compiled records take from the stored ones. -/
def withLifecycle (value : Lifetime) (status : RecordStatus) (revision : ℕ) : Lifetime :=
  { value with status, revision }

/-- The digests of a stored grant and of the compiled one agree. -/
def sameGrant (stored compiled : AuthorizationGrant) (subject : Lifetime) (message : String) :
    AuthorityCall Unit := do
  let stored ← rt.parseGrant stored
  let storedDigest ← rt.digestAuthorityValue (.grant stored)
  let compiledDigest ← rt.digestAuthorityValue
    (.grant { compiled with
      toLifetime := withLifecycle compiled.toLifetime subject.status subject.revision })
  refuse (storedDigest ≠ compiledDigest) (corruptMandate message)

/-- The digests of a stored delegation and of the compiled one agree. -/
def sameDelegation (stored compiled : Delegation) (subject : Lifetime) : AuthorityCall Unit := do
  let stored ← rt.parseDelegation stored
  let storedDigest ← rt.digestAuthorityValue (.delegation stored)
  let compiledDigest ← rt.digestAuthorityValue
    (.delegation { compiled with
      toLifetime := withLifecycle compiled.toLifetime subject.status subject.revision })
  refuse (storedDigest ≠ compiledDigest)
    (corruptMandate "mandate delegation differs from compiled intent")

/-- A comparison of what is stored with what is compiled, where there are both. -/
def sameWhenBoth {α : Type} (stored compiled : Option α) (same : α → α → AuthorityCall Unit) :
    AuthorityCall Unit :=
  match stored, compiled with
  | some stored, some compiled => same stored compiled
  | _, _ => pure ()

/-- The grant of the actor and the delegation of a mandate coexist and agree with its subject. -/
def checkDelegated (subject : AuthorizationGrant) (permission : PermissionSetRow)
    (actor : Option AuthorizationGrant) (delegation : Option Delegation) : AuthorityCall Unit :=
  match actor, delegation with
  | none, none => pure ()
  | some actor, some delegation =>
    refuse (actor.granteePrincipalId ≠ delegation.actorPrincipalId ∨
        subject.granteePrincipalId ≠ delegation.subjectPrincipalId ∨
        actor.scope ≠ delegation.scope ∨ permission.definition.actions ≠ delegation.actions)
      (corruptMandate "mandate delegation differs from its grants")
  | _, _ => .error (corruptMandate "mandate actor grant and delegation must coexist")

/-- The intent that the records of a mandate say. -/
def projectedIntent (workspaceId mandateId : String) (subject : AuthorizationGrant)
    (permission : PermissionSetRow) (actor : Option AuthorizationGrant) : MandateIntent where
  id := mandateId
  workspaceId := workspaceId
  grantorPrincipalId := subject.grantorPrincipalId
  subjectPrincipalId := subject.granteePrincipalId
  actorPrincipalId := actor.map AuthorizationGrant.granteePrincipalId
  actions := permission.definition.actions
  target := subject.scope
  notBefore := subject.notBefore
  expiresAt := subject.expiresAt
  maxOperations := none
  budget := none

/-- `inspectMandate` -/
def inspectMandate (workspaceId mandateId : String) : AuthorityCall MandateView := do
  refuse (¬ IsWorkspaceId workspaceId) (.invalid "WorkspaceId")
  refuse (¬ IsOpaqueId mandateId) (.invalid "Id")
  let ids := rt.mandateRecordIds workspaceId mandateId
  let missing : AuthorityFailure := .store .notFound s!"mandate {mandateId} does not exist"
  let subject ← demand (s.grantRow workspaceId ids.subjectGrantId) missing
  let permission ← demand
    (s.permissionSetRow workspaceId subject.permissionSet.uri subject.permissionSet.version) missing
  refuse (subject.permissionSet.uri ≠ ids.permissionUri ∨ permission.status ≠ .active)
    (corruptMandate "mandate permission projection is inconsistent")
  let actor := s.grantRow workspaceId ids.actorGrantId
  let delegation := s.delegationRow workspaceId ids.delegationId
  checkDelegated subject permission actor delegation
  refuse (¬ ((∀ a ∈ actor, a.status = subject.status) ∧
      ∀ d ∈ delegation, d.status = subject.status))
    (corruptMandate "mandate component lifecycle diverged")
  refuse (¬ ((∀ a ∈ actor, a.revision = subject.revision) ∧
      ∀ d ∈ delegation, d.revision = subject.revision))
    (corruptMandate "mandate component revisions diverged")
  let intent := projectedIntent workspaceId mandateId subject permission actor
  refuse (¬ rt.IsMandateIntent intent) (.invalid "MandateIntent")
  let compiled ← rt.compileMandate intent
  refuse (compiled.permissionSet.implementationDigest ≠ subject.permissionSet.implementationDigest)
    (corruptMandate "mandate permission digest is inconsistent")
  sameGrant rt subject compiled.subjectGrant subject.toLifetime
    "mandate subject grant differs from compiled intent"
  sameWhenBoth actor compiled.actorGrant fun stored compiled =>
    sameGrant rt stored compiled subject.toLifetime
      "mandate actor grant differs from compiled intent"
  sameWhenBoth delegation compiled.delegation fun stored compiled =>
    sameDelegation rt stored compiled subject.toLifetime
  let workspace ← demand (s.workspaces.find? (·.workspaceId = workspaceId))
    (corruptMandate "mandate workspace disappeared")
  let workspace ← workspaceFromRow workspace
  pure
    { intent
      status := subject.status
      revision := subject.revision
      authorityRevision := workspace.authorityRevision
      permissionUri := ids.permissionUri
      subjectGrantId := ids.subjectGrantId
      actorGrantId := actor.map fun _ => ids.actorGrantId
      delegationId := delegation.map fun _ => ids.delegationId }

end AuthorityStore

end Tasq.Authority
