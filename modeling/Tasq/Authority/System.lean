import Mathlib.Tactic
import Tasq.Authority.Decide
import Tasq.Authority.Enroll
import Tasq.Lib.Run

/-! The authority store as a system: mutations, provisioning, redemptions and authorizations, one
    transaction after another, in any order and at any readings of the clock.

    Every call is inverted once: what the state was found to be, and what it is afterwards. -/

namespace Tasq.Authority

open Text Outcome Rows

/-- A call of the authority store that writes. -/
inductive AuthorityAction where
  | mutate (m : Mutation) (context : AuthorityMutationContext) (now : ℕ)
  | provisionHostTenant (id : String) (context : AuthorityMutationContext) (now : ℕ)
  | provisionWorkspace (workspaceId hostTenantId storageBindingId : String)
      (context : AuthorityMutationContext) (now : ℕ)
  | redeem (input : Redemption) (now : ℕ)
  /-- The callback throws when `fails`. -/
  | authorize (input : WorkspaceAuthorizationInput) (evaluatedAt : ℕ) (fails : Bool)
  deriving DecidableEq

namespace AuthorityStore

variable (rt : AuthorityRuntime) (s : AuthorityStore)

/-- The transaction of a mutation, and the view that the calls of a mandate read after it. -/
def transact (m : Mutation) (context : AuthorityMutationContext) (now : ℕ) :
    AuthorityCall (AuthorityStore × AuthorityMutationResult × Option (AuthorityCall MandateView)) :=
  match m with
  | .issueMandate intent => do
    let (s, result, view) ← s.issueMandate rt intent context now
    pure (s, result, some view)
  | .revokeMandate workspaceId mandateId expected => do
    let (s, result, view) ← s.revokeMandate rt workspaceId mandateId expected context now
    pure (s, result, some view)
  | m => do
    let (s, result) ← s.mutate rt m context now
    pure (s, result, none)

/-- What a call answers after its transaction: it fails when its view does. -/
def answered (result : AuthorityMutationResult) :
    Option (AuthorityCall MandateView) → AuthorityCall (AuthorityMutationResult × Option MandateView)
  | none => pure (result, none)
  | some view => (fun view => (result, some view)) <$> view

/-- The public call of a mutation: the store that it leaves, and what it answers. -/
def perform (m : Mutation) (context : AuthorityMutationContext) (now : ℕ) :
    AuthorityStore × AuthorityCall (AuthorityMutationResult × Option MandateView) :=
  match s.transact rt m context now with
  | .error e => (s, .error e)
  | .ok (s', result, view) => (s', answered result view)

/-- The state after a call. -/
def step (s : AuthorityStore) : AuthorityAction → AuthorityStore
  | .mutate m context now => (s.perform rt m context now).1
  | .provisionHostTenant id context now =>
    settle s (Prod.fst <$> s.provisionHostTenant rt id context now)
  | .provisionWorkspace workspaceId hostTenantId storageBindingId context now =>
    settle s (Prod.fst <$>
      s.provisionWorkspace rt workspaceId hostTenantId storageBindingId context now)
  | .redeem input now => settle s (Prod.fst <$> s.redeemEnrollment rt input now)
  | .authorize input evaluatedAt fails =>
    settle s (Prod.fst <$> s.authorizeAndExecuteAt rt input evaluatedAt fun _ =>
      if fails then .error (.error "the guarded callback failed") else pure ())

/-- The state after a run of calls. -/
abbrev run (actions : List AuthorityAction) : AuthorityStore := Run.run (step rt) s actions

/-! ### Mutations -/

/-- What a mutation does to the row of its workspace. -/
def raised (m : Mutation) (revision now : ℕ) (w : HostedWorkspace) : HostedWorkspace :=
  if w.workspaceId = m.workspaceId ∧ w.authorityRevision = revision ∧ w.status = .enabled
  then { w with authorityRevision := revision + 1, updatedAt := now } else w

/-- The store after a mutation that is not a replay. -/
def committed (m : Mutation) (context : AuthorityMutationContext) (now revision : ℕ)
    (rows : AuthorityRows) : AuthorityStore :=
  { s with
    toAuthorityRows := rows
    workspaces := s.workspaces.map (raised m revision now)
    audit := s.audit ++
      [mutationAudit m context (rt.digest (.mutation m context)) (revision + 1) now]
    idempotency := s.idempotency ++ [idempotencyRow (mutationResult m context (revision + 1) now)
      (rt.digest (.mutation m context))] }

/-- What `workspaceMutation` checks of its input. -/
structure Admitted (m : Mutation) (context : AuthorityMutationContext) (now : ℕ) : Prop where
  workspaceId : IsWorkspaceId m.workspaceId
  isContext : IsMutationContext context
  hasExpected : context.expectedAuthorityRevision ≠ none
  isNow : IsUnixMs now
  safe : (AuthorityValue.mutation m context).Safe

/-- What a commit finds. -/
structure Commits (m : Mutation) (context : AuthorityMutationContext) (now : ℕ)
    (apply : AuthorityRows → AuthorityCall AuthorityRows) (w : HostedWorkspace)
    (rows : AuthorityRows) : Prop where
  fresh : s.idempotency.find? (·.operationId = context.operationId) = none
  row : s.workspaceRow w.workspaceId = some w
  workspace : w.workspaceId = m.workspaceId
  enabled : w.status = .enabled
  expected : context.expectedAuthorityRevision = some w.authorityRevision
  revision : w.authorityRevision ≤ Json.maxSafeInteger
  apply : apply s.toAuthorityRows = .ok rows
  time : w.updatedAt ≤ now
  result : IsMutationResult (mutationResult m context (w.authorityRevision + 1) now)
  audit : ∀ r ∈ s.audit, r.eventId ≠ context.operationId

/-- What a replay finds. -/
structure Replays (m : Mutation) (context : AuthorityMutationContext)
    (result : AuthorityMutationResult) (row : IdempotencyRow) : Prop where
  found : s.idempotency.find? (·.operationId = context.operationId) = some row
  digest : row.requestDigest = rt.digest (.mutation m context)
  admitted : IsMutationResult row.result
  result : result = { row.result with replayed := true }

section

variable {rt : AuthorityRuntime} {s s' : AuthorityStore} {m : Mutation}
  {context : AuthorityMutationContext} {now : ℕ}
  {apply : AuthorityRows → AuthorityCall AuthorityRows} {result : AuthorityMutationResult}

theorem findIdempotent_eq_ok {operationId : String} {d : Digest}
    {replay : Option AuthorityMutationResult} :
    s.findIdempotent operationId d = .ok replay ↔
      (s.idempotency.find? (·.operationId = operationId) = none ∧ replay = none) ∨
      ∃ row, s.idempotency.find? (·.operationId = operationId) = some row ∧
        row.requestDigest = d ∧ IsMutationResult row.result ∧
        replay = some { row.result with replayed := true } := by
  unfold findIdempotent
  split
  · rename_i hnone
    simp only [pure_eq_ok, hnone, true_and, reduceCtorEq, false_and, exists_false, or_false]
    exact eq_comm
  · rename_i row hrow
    simp only [hrow, reduceCtorEq, false_and, false_or, bind_eq_ok, refuse_eq_ok, pure_eq_ok,
      exists_const, ne_eq, not_not, Option.some.injEq, exists_eq_left']
    exact and_congr_right fun _ => and_congr_right fun _ => eq_comm

/-- A mutation that commits: what it found, and the store it leaves. -/
theorem commitMutation_eq_ok {expected : ℕ} {d : Digest} (hd : d = rt.digest (.mutation m context))
    (hexpected : context.expectedAuthorityRevision = some expected)
    (hfresh : s.idempotency.find? (·.operationId = context.operationId) = none)
    (h : s.commitMutation m context expected d now apply = .ok (s', result)) :
    ∃ w rows, s.Commits m context now apply w rows ∧
      s' = s.committed rt m context now w.authorityRevision rows ∧
      result = mutationResult m context (w.authorityRevision + 1) now := by
  subst hd
  simp only [commitMutation, workspaceFromRow, bind_eq_ok, demand_eq_ok, refuse_eq_ok, pure_eq_ok,
    exists_const, not_not, ne_eq, insertRow_eq_ok, updateRow_eq_ok, Prod.mk.injEq] at h
  obtain ⟨w, hrow, _, ⟨hsafe, rfl⟩, henabled, hrev, rows, happly, htime, _, ⟨-, rfl⟩, hresult, _,
    ⟨haudit, rfl⟩, _, ⟨-, rfl⟩, rfl, rfl⟩ := h
  have hid : w.workspaceId = m.workspaceId := by simpa using List.find?_some hrow
  refine ⟨w, rows, ?_, rfl, rfl⟩
  exact
    { fresh := hfresh
      row := by rw [workspaceRow, hid]; exact hrow
      workspace := hid
      enabled := henabled
      expected := by rw [hexpected, hrev]
      revision := not_lt.1 hsafe
      apply := happly
      time := not_lt.1 htime
      result := hresult
      audit := haudit }

/-- CORRECT: a mutation that completes is a replay, which changes nothing, or a commit. -/
theorem workspaceMutation_eq_ok (h : s.workspaceMutation rt m context now apply = .ok (s', result)) :
    Admitted m context now ∧
      ((∃ row, s.Replays rt m context result row ∧ s' = s) ∨
        ∃ w rows, s.Commits m context now apply w rows ∧
          s' = s.committed rt m context now w.authorityRevision rows ∧
          result = mutationResult m context (w.authorityRevision + 1) now) := by
  simp only [workspaceMutation, bind_eq_ok, refuse_eq_ok, demand_eq_ok, not_not, exists_const,
    AuthorityRuntime.digestAuthorityValue_eq_ok] at h
  obtain ⟨hworkspace, hcontext, expected, hexpected, hnow, d, ⟨hsafe, rfl⟩, replay, hreplay, h⟩ := h
  have hadmitted : Admitted m context now :=
    ⟨hworkspace, hcontext, by rw [hexpected]; simp, hnow, hsafe⟩
  refine ⟨hadmitted, ?_⟩
  rcases findIdempotent_eq_ok.1 hreplay with ⟨hfresh, rfl⟩ | ⟨row, hrow, hdigest, hresult, rfl⟩
  · exact .inr (commitMutation_eq_ok rfl hexpected hfresh h)
  · simp only [pure_eq_ok, Prod.mk.injEq] at h
    exact .inl ⟨row, ⟨hrow, hdigest, hresult, h.2.symm⟩, h.1.symm⟩

/-- A replay is answered from its row. -/
theorem workspaceMutation_of_replays {row : IdempotencyRow} (hadmitted : Admitted m context now)
    (h : s.Replays rt m context result row) :
    s.workspaceMutation rt m context now apply = .ok (s, result) := by
  obtain ⟨hworkspace, hcontext, hexpected, hnow, hsafe⟩ := hadmitted
  obtain ⟨expected, hexpected⟩ := Option.ne_none_iff_exists'.1 hexpected
  simp only [workspaceMutation, bind_eq_ok, refuse_eq_ok, demand_eq_ok, not_not, exists_const,
    AuthorityRuntime.digestAuthorityValue_eq_ok]
  refine ⟨hworkspace, hcontext, expected, hexpected, hnow, _, ⟨hsafe, rfl⟩,
    some result, ?_, rfl⟩
  rw [findIdempotent_eq_ok]
  exact .inr ⟨row, h.found, h.digest, h.admitted, by rw [h.result]⟩

end

/-! ### The public mutations -/

/-- What the public call of a mutation hands to `workspaceMutation`: the mutation, and what it
    writes. -/
inductive Hands (m : Mutation) (now : ℕ) :
    Mutation → (AuthorityRows → AuthorityCall AuthorityRows) → Prop where
  | direct (m' : Mutation) (hprepare : m.prepare rt = .ok m')
      (hm : ∀ workspaceId mandateId expected, m ≠ .revokeMandate workspaceId mandateId expected) :
      Hands m now m' fun rows => rows.apply rt m' now
  | revokeMandate (workspaceId mandateId : String) (expected : ℕ) (before : MandateView)
      (hm : m = .revokeMandate workspaceId mandateId expected)
      (hbefore : s.inspectMandate rt workspaceId mandateId = .ok before)
      (hrevision : before.revision = expected) (hstatus : before.status = .active) :
      Hands m now m fun rows => rows.revokeMandateRows workspaceId
        (rt.mandateRecordIds workspaceId mandateId) before.actorGrantId.isSome
        before.delegationId.isSome expected

section

variable {rt : AuthorityRuntime} {s s' : AuthorityStore} {m : Mutation}
  {context : AuthorityMutationContext} {now : ℕ} {result : AuthorityMutationResult}

theorem mutate_eq_ok (h : s.mutate rt m context now = .ok (s', result)) :
    ∃ m', m.prepare rt = .ok m' ∧
      s.workspaceMutation rt m' context now (fun rows => rows.apply rt m' now) =
        .ok (s', result) := by
  simpa only [mutate, bind_eq_ok] using h

/-- CORRECT: the transaction of a public mutation that commits is a call of `workspaceMutation`. -/
theorem transact_eq_ok {view : Option (AuthorityCall MandateView)}
    (h : s.transact rt m context now = .ok (s', result, view)) :
    ∃ m' apply, s.Hands rt m now m' apply ∧
      s.workspaceMutation rt m' context now apply = .ok (s', result) := by
  cases m with
  | issueMandate intent =>
    simp only [transact, AuthorityStore.issueMandate, bind_eq_ok, refuse_eq_ok, pure_eq_ok,
      exists_const, Prod.mk.injEq] at h
    obtain ⟨_, ⟨_, -, -, ⟨t, r⟩, hmutate, rfl⟩, rfl, rfl, -⟩ := h
    obtain ⟨m', hprepare, hcall⟩ := mutate_eq_ok hmutate
    exact ⟨m', _, .direct m' hprepare (by simp), hcall⟩
  | revokeMandate workspaceId mandateId expected =>
    simp only [transact, AuthorityStore.revokeMandate, bind_eq_ok, refuse_eq_ok, pure_eq_ok,
      exists_const, Prod.mk.injEq, not_or, not_not] at h
    obtain ⟨_, ⟨before, hbefore, -, ⟨hrevision, hstatus⟩, ⟨t, r⟩, hcall, rfl⟩, rfl, rfl, -⟩ := h
    exact ⟨_, _, .revokeMandate workspaceId mandateId expected before rfl hbefore hrevision
      hstatus, hcall⟩
  | _ =>
    simp only [transact, bind_eq_ok, pure_eq_ok, Prod.mk.injEq] at h
    obtain ⟨⟨t, r⟩, hmutate, rfl, rfl, -⟩ := h
    obtain ⟨m', hprepare, hcall⟩ := mutate_eq_ok hmutate
    exact ⟨m', _, .direct m' hprepare (by simp), hcall⟩

/-- A call leaves what its transaction leaves, whatever its view answers. -/
theorem perform_fst : (s.perform rt m context now).1 =
    settle s (Prod.fst <$> s.transact rt m context now) := by
  unfold perform
  cases s.transact rt m context now <;> rfl

/-- Preparing a mutation keeps its workspace. -/
theorem prepare_workspaceId {m' : Mutation} (h : m.prepare rt = .ok m') :
    m'.workspaceId = m.workspaceId := by
  cases m with
  | createEnrollment input =>
    simp only [Mutation.prepare, bind_eq_ok, refuse_eq_ok, pure_eq_ok, exists_const] at h
    obtain ⟨bound, -, -, -, rfl⟩ := h
    rfl
  | _ =>
    simp only [Mutation.prepare, Mutation.checkId, bind_eq_ok, refuse_eq_ok, pure_eq_ok,
      exists_const] at h
    obtain ⟨-, -, rfl⟩ := h
    rfl

end

/-! ### Provisioning -/

section

variable {rt : AuthorityRuntime} {s s' : AuthorityStore} {context : AuthorityMutationContext}
  {now : ℕ} {result : AuthorityMutationResult}

theorem provisionHostTenant_eq_ok {id : String}
    (h : s.provisionHostTenant rt id context now = .ok (s', result)) :
    s' = s ∨ ∃ tenants row operation,
      s.idempotency.find? (·.operationId = context.operationId) = none ∧
      row.workspaceId = none ∧ row.eventId = context.operationId ∧
      operation.operationId = context.operationId ∧
      s' = { s with
        tenants, audit := s.audit ++ [row], idempotency := s.idempotency ++ [operation] } := by
  simp only [provisionHostTenant, bind_eq_ok, refuse_eq_ok, exists_const] at h
  obtain ⟨-, -, -, _, -, replay, hreplay, h⟩ := h
  rcases findIdempotent_eq_ok.1 hreplay with ⟨hfresh, rfl⟩ | ⟨row, -, -, -, rfl⟩
  · simp only [bind_eq_ok, refuse_eq_ok, pure_eq_ok, exists_const, insertRow_eq_ok,
      Prod.mk.injEq] at h
    obtain ⟨_, ⟨-, rfl⟩, -, _, ⟨-, rfl⟩, _, ⟨-, rfl⟩, rfl, -⟩ := h
    exact .inr ⟨_, _, _, hfresh, rfl, rfl, rfl, rfl⟩
  · simp only [pure_eq_ok, Prod.mk.injEq] at h
    exact .inl h.1.symm

theorem provisionWorkspace_eq_ok {workspaceId hostTenantId storageBindingId : String}
    (h : s.provisionWorkspace rt workspaceId hostTenantId storageBindingId context now =
      .ok (s', result)) :
    s' = s ∨ ∃ w row operation,
      s.idempotency.find? (·.operationId = context.operationId) = none ∧
      (∀ v ∈ s.workspaces, v.workspaceId ≠ w.workspaceId) ∧ w.authorityRevision = 0 ∧
      row.workspaceId = some w.workspaceId ∧ row.eventType = "workspace.provision" ∧
      row.eventId = context.operationId ∧ operation.operationId = context.operationId ∧
      s' = { s with
        workspaces := s.workspaces ++ [w], audit := s.audit ++ [row]
        idempotency := s.idempotency ++ [operation] } := by
  simp only [provisionWorkspace, bind_eq_ok, refuse_eq_ok, exists_const] at h
  obtain ⟨-, -, -, -, -, _, -, replay, hreplay, h⟩ := h
  rcases findIdempotent_eq_ok.1 hreplay with ⟨hfresh, rfl⟩ | ⟨row, -, -, -, rfl⟩
  · simp only [bind_eq_ok, refuse_eq_ok, pure_eq_ok, exists_const, insertRow_eq_ok,
      Prod.mk.injEq, not_or] at h
    obtain ⟨_, ⟨hclash, rfl⟩, -, -, _, ⟨-, rfl⟩, _, ⟨-, rfl⟩, rfl, -⟩ := h
    exact .inr ⟨_, _, _, hfresh, fun v hv => (hclash v hv).1, rfl, rfl, rfl, rfl, rfl, rfl⟩
  · simp only [pure_eq_ok, Prod.mk.injEq] at h
    exact .inl h.1.symm

end

/-! ### Redemptions -/

/-- What a redemption finds. -/
structure Redeems (input : Redemption) (now : ℕ) (e : EnrollmentRecord) : Prop where
  found : s.enrollmentRow input.workspaceId input.enrollmentTokenDigest = some e
  admitted : rt.IsEnrollmentRecord e
  revoked : e.revokedAt = none
  consumed : e.consumedAt = none
  expires : now < e.expiresAt
  accessExpires : now < e.accessExpiresAt
  unique : s.enrollments.countP (fun f => f.id = e.id ∧ f.consumedAt = none ∧ f.revokedAt = none)
    = 1
  fresh : ∀ c ∈ s.credentials, ¬ (c.id = input.credentialId ∨ c.enrollmentId = e.id ∨
    c.tokenDigest = input.credentialTokenDigest)
  audit : ∀ r ∈ s.audit, r.eventId ≠ input.auditEventId

/-- What a redemption does to the row of its enrollment. -/
def spent (e : EnrollmentRecord) (now : ℕ) (f : EnrollmentRecord) : EnrollmentRecord :=
  if f.id = e.id ∧ f.consumedAt = none ∧ f.revokedAt = none then { f with consumedAt := some now }
  else f

section

variable {rt : AuthorityRuntime} {s s' : AuthorityStore} {now : ℕ}

theorem redeemEnrollment_eq_ok {input : Redemption} {credential : AccessCredentialRecord}
    (h : s.redeemEnrollment rt input now = .ok (s', credential)) :
    ∃ e row, s.Redeems rt input now e ∧ credential = credentialFor e input now ∧
      row.eventType = "enrollment.redeem" ∧ row.eventId = input.auditEventId ∧
      s' = { s with
        enrollments := s.enrollments.map (spent e now)
        credentials := s.credentials ++ [credential], audit := s.audit ++ [row] } := by
  simp only [redeemEnrollment, bind_eq_ok, refuse_eq_ok, demand_eq_ok, pure_eq_ok, exists_const,
    not_not, ne_eq, insertRow_eq_ok, updateRow_eq_ok, Prod.mk.injEq, not_le] at h
  obtain ⟨-, -, -, -, e, hfound, hadmitted, hrevoked, hconsumed, hexpires, haccess, _,
    ⟨hunique, rfl⟩, _, ⟨hfresh, rfl⟩, -, _, -, w, -, _, ⟨haudit, rfl⟩, rfl, rfl⟩ := h
  exact ⟨e, _, ⟨hfound, hadmitted, hrevoked, hconsumed, hexpires, haccess, hunique, hfresh,
    haudit⟩, rfl, rfl, rfl, rfl⟩

end

/-! ### Authorizations -/

/-- The row of a decision. -/
def decided (input : WorkspaceAuthorizationInput) (workspace : Option HostedWorkspace)
    (decision : AuthorizationDecision) : DecisionRow where
  workspaceId := decision.workspaceId
  requestId := decision.requestId
  authorityRevision := workspace.map HostedWorkspace.authorityRevision
  envelopeDigest := rt.digest (.envelope input)
  decision := decision

/-- What a new decision finds. -/
structure Decides (input : WorkspaceAuthorizationInput) (now : ℕ)
    (workspace : Option HostedWorkspace) (request : AuthorizationRequest)
    (decision : AuthorizationDecision) : Prop where
  loaded : s.loadWorkspace input.workspaceId = .ok workspace
  asked : s.requestAt rt input now = .ok request
  evaluated : rt.evaluateAuthorization request now = .ok decision
  fresh : ∀ d ∈ s.decisions, ¬ (d.decision.decisionId = decision.decisionId ∨
    d.workspaceId = decision.workspaceId ∧ d.requestId = decision.requestId)
  audit : ∀ r ∈ s.audit, r.eventId ≠ (decisionAudit rt decision workspace now).eventId

/-- What an authorization checks of its input. -/
structure Asks (input : WorkspaceAuthorizationInput) (now : ℕ) : Prop where
  isNow : IsUnixMs now
  requestId : IsOpaqueId input.requestId
  workspaceId : IsWorkspaceId input.workspaceId
  safe : (AuthorityValue.envelope input).Safe

section

variable {rt : AuthorityRuntime} {s s' : AuthorityStore} {now : ℕ}
  {input : WorkspaceAuthorizationInput} {result : WorkspaceAuthorizationResult}

theorem mapError_eq_ok {α ε ε' : Type} {f : ε → ε'} {x : Except ε α} {a : α} :
    x.mapError f = .ok a ↔ x = .ok a := by
  cases x <;> simp [Except.mapError]

theorem decide_eq_ok : s.decide rt input (rt.digest (.envelope input)) now = .ok (s', result) ↔
    ∃ workspace request decision, s.Decides rt input now workspace request decision ∧
      s' = { s with
        decisions := s.decisions ++ [decided rt input workspace decision]
        audit := s.audit ++ [decisionAudit rt decision workspace now] } ∧
      result = ⟨decision, workspace.map HostedWorkspace.authorityRevision,
        if decision.decision = .allow then workspace.map HostedWorkspace.storageBindingId
        else none, false⟩ := by
  simp only [decide, bind_eq_ok, insertRow_eq_ok, pure_eq_ok, mapError_eq_ok, Prod.mk.injEq]
  constructor
  · rintro ⟨workspace, hworkspace, request, hrequest, decision, hdecision, _, ⟨hfresh, rfl⟩, _,
      ⟨haudit, rfl⟩, rfl, rfl⟩
    exact ⟨workspace, request, decision, ⟨hworkspace, hrequest, hdecision, hfresh, haudit⟩, rfl,
      rfl⟩
  · rintro ⟨workspace, request, decision, h, rfl, rfl⟩
    exact ⟨workspace, h.loaded, request, h.asked, decision, h.evaluated, _, ⟨h.fresh, rfl⟩, _,
      ⟨h.audit, rfl⟩, rfl, rfl⟩

theorem authorizeIn_eq_ok : s.authorizeIn rt input now = .ok (s', result) ↔
    Asks input now ∧
      ((∃ previous, s.decisionRow input.workspaceId input.requestId = some previous ∧
          s.replayDecision rt input (rt.digest (.envelope input)) previous = .ok result ∧
          s = s') ∨
        s.decisionRow input.workspaceId input.requestId = none ∧
          s.decide rt input (rt.digest (.envelope input)) now = .ok (s', result)) := by
  simp only [authorizeIn, bind_eq_ok, refuse_eq_ok, exists_const, not_not,
    AuthorityRuntime.digestAuthorityValue_eq_ok]
  constructor
  · rintro ⟨hnow, hrequest, hworkspace, _, ⟨hsafe, rfl⟩, h⟩
    refine ⟨⟨hnow, hrequest, hworkspace, hsafe⟩, ?_⟩
    split at h
    · rename_i previous hprevious
      simp only [bind_eq_ok, pure_eq_ok, Prod.mk.injEq] at h
      obtain ⟨_, hreplay, rfl, rfl⟩ := h
      exact .inl ⟨previous, hprevious, hreplay, rfl⟩
    · exact .inr ⟨‹_›, h⟩
  · rintro ⟨⟨hnow, hrequest, hworkspace, hsafe⟩, h⟩
    refine ⟨hnow, hrequest, hworkspace, _, ⟨hsafe, rfl⟩, ?_⟩
    rcases h with ⟨previous, hprevious, hreplay, rfl⟩ | ⟨hnone, h⟩
    · rw [hprevious]
      simp [hreplay]
    · rw [hnone]
      exact h

/-- The store after an authorization that completes is the one before its callback. -/
theorem authorizeAndExecuteAt_eq_ok {τ : Type}
    {execute : WorkspaceAuthorizationResult → AuthorityCall τ} {execution : Option τ}
    (h : s.authorizeAndExecuteAt rt input now execute = .ok (s', result, execution)) :
    s.authorizeIn rt input now = .ok (s', result) := by
  obtain ⟨⟨t, r⟩, hauthorize, h⟩ := (bind_eq_ok _ _ _).1 h
  suffices t = s' ∧ r = result by rwa [← this.1, ← this.2]
  by_cases hguarded : r.Guarded
  · simp only [hguarded, ↓reduceIte, bind_eq_ok, pure_eq_ok, Prod.mk.injEq] at h
    obtain ⟨_, -, ht, hr, -⟩ := h
    exact ⟨ht, hr⟩
  · simp only [hguarded, ↓reduceIte, bind_eq_ok, pure_eq_ok, Prod.mk.injEq] at h
    obtain ⟨_, -, ht, hr, -⟩ := h
    exact ⟨ht, hr⟩

end

/-! ### One step -/

section

variable {rt : AuthorityRuntime} {s : AuthorityStore}

/-- STEP RULE: what holds of the state before, and after each way in which a call can change it,
    holds after the call. -/
theorem step_rule {I : AuthorityStore → Prop} (action : AuthorityAction) (hs : I s)
    (hcommit : ∀ m context now m' apply w rows, action = .mutate m context now →
      s.Hands rt m now m' apply → Admitted m' context now →
      s.Commits m' context now apply w rows →
      I (s.committed rt m' context now w.authorityRevision rows))
    (htenant : ∀ (tenants : List HostTenant) (row : AuditRow) (operation : IdempotencyRow),
      s.idempotency.find? (·.operationId = operation.operationId) = none →
      row.workspaceId = none → row.eventId = operation.operationId →
      I { s with
        tenants, audit := s.audit ++ [row], idempotency := s.idempotency ++ [operation] })
    (hworkspace : ∀ (w : HostedWorkspace) (row : AuditRow) (operation : IdempotencyRow),
      s.idempotency.find? (·.operationId = operation.operationId) = none →
      (∀ v ∈ s.workspaces, v.workspaceId ≠ w.workspaceId) → w.authorityRevision = 0 →
      row.workspaceId = some w.workspaceId → row.eventType = "workspace.provision" →
      row.eventId = operation.operationId →
      I { s with
        workspaces := s.workspaces ++ [w], audit := s.audit ++ [row]
        idempotency := s.idempotency ++ [operation] })
    (hredeem : ∀ input now e (row : AuditRow), action = .redeem input now →
      s.Redeems rt input now e → row.eventType = "enrollment.redeem" →
      row.eventId = input.auditEventId →
      I { s with
        enrollments := s.enrollments.map (spent e now)
        credentials := s.credentials ++ [credentialFor e input now], audit := s.audit ++ [row] })
    (hdecide : ∀ input now fails workspace request decision,
      action = .authorize input now fails → Asks input now →
      s.decisionRow input.workspaceId input.requestId = none →
      s.Decides rt input now workspace request decision →
      I { s with
        decisions := s.decisions ++ [decided rt input workspace decision]
        audit := s.audit ++ [decisionAudit rt decision workspace now] }) :
    I (step rt s action) := by
  cases action with
  | mutate m context now =>
    rw [step, perform_fst]
    refine settle_fst_rule hs fun s' answer h => ?_
    obtain ⟨m', apply, hhands, hcall⟩ := transact_eq_ok h
    obtain ⟨hadmitted, ⟨row, -, rfl⟩ | ⟨w, rows, hcommits, rfl, -⟩⟩ := workspaceMutation_eq_ok hcall
    · exact hs
    · exact hcommit m context now m' apply w rows rfl hhands hadmitted hcommits
  | provisionHostTenant id context now =>
    refine settle_fst_rule hs fun s' result h => ?_
    rcases provisionHostTenant_eq_ok h with rfl | ⟨tenants, row, operation, hfresh, hrow, hevent,
      hid, rfl⟩
    · exact hs
    · exact htenant tenants row operation (by rw [hid]; exact hfresh) hrow (by rw [hevent, hid])
  | provisionWorkspace workspaceId hostTenantId storageBindingId context now =>
    refine settle_fst_rule hs fun s' result h => ?_
    rcases provisionWorkspace_eq_ok h with rfl | ⟨w, row, operation, hfresh, hnew, hzero, hrow,
      htype, hevent, hid, rfl⟩
    · exact hs
    · exact hworkspace w row operation (by rw [hid]; exact hfresh) hnew hzero hrow htype
        (by rw [hevent, hid])
  | redeem input now =>
    refine settle_fst_rule hs fun s' credential h => ?_
    obtain ⟨e, row, hredeems, rfl, htype, hevent, rfl⟩ := redeemEnrollment_eq_ok h
    exact hredeem input now e row rfl hredeems htype hevent
  | authorize input now fails =>
    refine settle_fst_rule hs fun s' answer h => ?_
    obtain ⟨hasks, ⟨previous, -, -, rfl⟩ | ⟨hnone, hdecision⟩⟩ :=
      authorizeIn_eq_ok.1 (authorizeAndExecuteAt_eq_ok h)
    · exact hs
    · obtain ⟨workspace, request, decision, hdecides, rfl, -⟩ := decide_eq_ok.1 hdecision
      exact hdecide input now fails workspace request decision rfl hasks hnone hdecides

end

/-! ### A founded workspace -/

/-- A context that expects a revision, or none. -/
def expecting (operationId : String) (expected : Option ℕ) (actor : Option String) :
    AuthorityMutationContext where
  operationId := operationId
  actorPrincipalId := actor
  reason := "setup"
  expectedAuthorityRevision := expected

/-- A principal at its first revision. -/
def newPrincipal (id : String) (kind : PrincipalKind) : AuthorityPrincipal where
  id := id
  workspaceId := "w"
  kind := kind
  status := .enabled
  revision := 1

/-- A host tenant, the workspace `w`, a human and a service. -/
def founding : List AuthorityAction :=
  [.provisionHostTenant "tenant" (expecting "op:tenant" none none) 1,
   .provisionWorkspace "w" "tenant" "storage" (expecting "op:workspace" none none) 1,
   .mutate (.registerPrincipal (newPrincipal "h" .human)) (expecting "op:h" (some 0) none) 1,
   .mutate (.registerPrincipal (newPrincipal "p" .service)) (expecting "op:p" (some 1) none) 1]

end AuthorityStore

end Tasq.Authority
