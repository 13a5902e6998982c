import Mathlib.Tactic
import Tasq.Authority.Ideal
import Tasq.Authority.System

/-! The authority revision of a workspace: a mutation that commits raises it by one and writes one
    audit row with the new revision, a replay changes nothing, and an operation id stands for one
    request forever.

    The calls of a mandate do more than the wrapper: a revocation inspects the mandate before it,
    and both inspect it again after the commit. -/

namespace Tasq.Authority

open Text Outcome Rows

/-- The operations of the mutations of a workspace. -/
def Mutation.operations : List String :=
  ["principal.register", "principal.disable", "subject_binding.create", "subject_binding.disable",
   "permission_set.activate", "permission_set.retire", "grant.create", "grant.revoke",
   "delegation.create", "delegation.revoke", "eligibility.grant", "eligibility.revoke",
   "enrollment.create", "enrollment.revoke", "access_credential.revoke", "mandate.issue",
   "mandate.revoke"]

theorem Mutation.operation_mem (m : Mutation) : m.operation ∈ Mutation.operations := by
  cases m <;> simp [Mutation.operation, Mutation.operations]

namespace AuthorityStore

/-- The audit rows of the mutations of a workspace. -/
def MutationRow (workspaceId : String) (row : AuditRow) : Prop :=
  row.workspaceId = some workspaceId ∧ row.eventType ∈ Mutation.operations

instance (workspaceId : String) (row : AuditRow) : Decidable (MutationRow workspaceId row) := by
  unfold MutationRow; infer_instance

/-- The audited revisions of the mutations of a workspace, in order. -/
def auditedRevisions (s : AuthorityStore) (workspaceId : String) : List (Option ℕ) :=
  (s.audit.filter (MutationRow workspaceId)).map AuditRow.authorityRevision

/-- The authority revision of a workspace. -/
def revisionOf (s : AuthorityStore) (workspaceId : String) : Option ℕ :=
  (s.workspaceRow workspaceId).map HostedWorkspace.authorityRevision

variable {rt : AuthorityRuntime} {s s' t : AuthorityStore} {m : Mutation}
  {context : AuthorityMutationContext} {now : ℕ}
  {apply : AuthorityRows → AuthorityCall AuthorityRows} {result : AuthorityMutationResult}
  {w : HostedWorkspace} {rows : AuthorityRows}

/-! ### What a commit does to the rows of workspaces -/

@[simp] theorem raised_workspaceId (revision : ℕ) (v : HostedWorkspace) :
    (raised m revision now v).workspaceId = v.workspaceId := by
  unfold raised
  split <;> rfl

theorem committed_workspaceRow (revision : ℕ) (id : String) :
    (s.committed rt m context now revision rows).workspaceRow id =
      (s.workspaceRow id).map (raised m revision now) := by
  simp only [workspaceRow, committed, List.find?_map]
  congr 2
  funext v
  simp

/-- The row of the workspace of a commit. -/
theorem Commits.raises (h : s.Commits m context now apply w rows) :
    (s.committed rt m context now w.authorityRevision rows).workspaceRow m.workspaceId =
      some { w with authorityRevision := w.authorityRevision + 1, updatedAt := now } := by
  rw [committed_workspaceRow, ← h.workspace, h.row]
  simp [raised, h.workspace, h.enabled]

/-- The rows of the other workspaces. -/
theorem committed_workspaceRow_of_ne {id : String} (revision : ℕ) (hid : id ≠ m.workspaceId) :
    (s.committed rt m context now revision rows).workspaceRow id = s.workspaceRow id := by
  rw [committed_workspaceRow]
  cases hrow : s.workspaceRow id with
  | none => rfl
  | some v =>
    have hv : v.workspaceId = id := by simpa using List.find?_some hrow
    simp [raised, hv, hid]

theorem Commits.revisionOf (h : s.Commits m context now apply w rows) :
    s.revisionOf m.workspaceId = some w.authorityRevision := by
  rw [AuthorityStore.revisionOf, ← h.workspace, h.row, Option.map_some]

theorem Commits.revisionOf_committed (h : s.Commits m context now apply w rows) :
    (s.committed rt m context now w.authorityRevision rows).revisionOf m.workspaceId =
      some (w.authorityRevision + 1) := by
  rw [AuthorityStore.revisionOf, h.raises, Option.map_some]

theorem revisionOf_committed_of_ne {id : String} (revision : ℕ) (hid : id ≠ m.workspaceId) :
    (s.committed rt m context now revision rows).revisionOf id = s.revisionOf id := by
  rw [AuthorityStore.revisionOf, committed_workspaceRow_of_ne revision hid,
    AuthorityStore.revisionOf]

theorem workspaceRow_eq_none {id : String} (hnew : ∀ v ∈ s.workspaces, v.workspaceId ≠ id) :
    s.workspaceRow id = none :=
  List.find?_eq_none.2 fun v hv => by simpa using hnew v hv

/-- The rows of workspaces when a new one is appended. -/
theorem workspaceRow_append (hw : t.workspaces = s.workspaces ++ [w])
    (hnew : ∀ v ∈ s.workspaces, v.workspaceId ≠ w.workspaceId) (id : String) :
    t.workspaceRow id = if id = w.workspaceId then some w else s.workspaceRow id := by
  simp only [workspaceRow, hw, List.find?_append]
  split
  · rename_i hid
    subst hid
    rw [List.find?_eq_none.2 fun v hv => by simpa using hnew v hv]
    simp
  · rename_i hid
    simp [Ne.symm hid]

/-! ### INVARIANT: the audited revisions -/

/-- Each mutation of a workspace has left its revision in the audit. -/
def Audited (s : AuthorityStore) : Prop :=
  ∀ id, s.auditedRevisions id = (List.range' 1 ((s.revisionOf id).getD 0)).map some

theorem auditedRevisions_append {row : AuditRow} (h : t.audit = s.audit ++ [row]) (id : String) :
    t.auditedRevisions id =
      s.auditedRevisions id ++ if MutationRow id row then [row.authorityRevision] else [] := by
  rw [auditedRevisions, h, List.filter_append, List.map_append, auditedRevisions]
  congr 1
  by_cases hrow : MutationRow id row <;> simp [hrow]

/-- An audit row that no mutation has written leaves the invariant as it was. -/
theorem Audited.append {row : AuditRow} (hs : s.Audited) (h : t.audit = s.audit ++ [row])
    (hrow : ∀ id, ¬ MutationRow id row) (hrevision : ∀ id, (t.revisionOf id).getD 0 =
      (s.revisionOf id).getD 0) : t.Audited := by
  intro id
  rw [auditedRevisions_append h, if_neg (hrow id), List.append_nil, hrevision, hs id]

/-- STEP: a commit keeps the audited revisions in step with the rows. -/
theorem Commits.audited (h : s.Commits m context now apply w rows) (hs : s.Audited) :
    (s.committed rt m context now w.authorityRevision rows).Audited := by
  intro id
  rw [auditedRevisions_append rfl, hs id]
  by_cases hid : id = m.workspaceId
  · subst hid
    rw [h.revisionOf, h.revisionOf_committed, if_pos ⟨rfl, m.operation_mem⟩]
    simp [mutationAudit, List.range'_1_concat, Nat.add_comm]
  · rw [revisionOf_committed_of_ne _ hid, if_neg, List.append_nil]
    rintro ⟨hrow, -⟩
    exact hid (Option.some.inj hrow).symm

theorem audited_step (action : AuthorityAction) (hs : s.Audited) :
    (AuthorityStore.step rt s action).Audited := by
  refine step_rule action hs ?_ ?_ ?_ ?_ ?_
  · intro m context now m' apply w rows _ _ _ hcommits
    exact hcommits.audited hs
  · intro tenants row operation _ hrow _
    refine hs.append rfl (fun id => ?_) fun id => rfl
    simp [MutationRow, hrow]
  · intro w row operation _ hnew hzero _ htype _
    refine hs.append rfl (fun id => ?_) fun id => ?_
    · simp [MutationRow, htype, Mutation.operations]
    · rw [AuthorityStore.revisionOf, workspaceRow_append rfl hnew]
      split
      · rename_i hid
        subst hid
        simp [AuthorityStore.revisionOf, workspaceRow_eq_none hnew, hzero]
      · rfl
  · intro input now e row _ _ htype _
    refine hs.append rfl (fun id => ?_) fun id => rfl
    simp [MutationRow, htype, Mutation.operations]
  · intro input now fails workspace request decision _ _ _ _
    refine hs.append rfl (fun id => ?_) fun id => rfl
    have htype : (decisionAudit rt decision workspace now).eventType ∉ Mutation.operations := by
      unfold decisionAudit
      cases decision.decision
      · exact (by decide : "authorization.allow" ∉ Mutation.operations)
      · exact (by decide : "authorization.deny" ∉ Mutation.operations)
    exact fun hrow => htype hrow.2

/-- RUN: the audited revisions of a workspace are `1..n`, in order and without gap. -/
theorem audited_run (actions : List AuthorityAction) : (empty.run rt actions).Audited :=
  Run.run_invariant' (fun _ action hs => audited_step action hs) actions fun _ => rfl

/-! ### What only grows -/

/-- Operations and workspaces stay, and revisions do not fall. -/
structure Grows (s t : AuthorityStore) : Prop where
  idempotency : s.idempotency <+: t.idempotency
  revision : ∀ id n, s.revisionOf id = some n → ∃ n', t.revisionOf id = some n' ∧ n ≤ n'

theorem Grows.refl (s : AuthorityStore) : s.Grows s :=
  ⟨List.prefix_rfl, fun _ n h => ⟨n, h, le_rfl⟩⟩

theorem Grows.trans {u : AuthorityStore} (h : s.Grows t) (h' : t.Grows u) : s.Grows u := by
  refine ⟨h.idempotency.trans h'.idempotency, fun id n hn => ?_⟩
  obtain ⟨n', hn', hle⟩ := h.revision id n hn
  obtain ⟨n'', hn'', hle'⟩ := h'.revision id n' hn'
  exact ⟨n'', hn'', hle.trans hle'⟩

theorem Commits.grows (h : s.Commits m context now apply w rows) :
    s.Grows (s.committed rt m context now w.authorityRevision rows) := by
  refine ⟨List.prefix_append _ _, fun id n hn => ?_⟩
  by_cases hid : id = m.workspaceId
  · subst hid
    rw [h.revisionOf, Option.some.injEq] at hn
    exact ⟨_, h.revisionOf_committed, by omega⟩
  · exact ⟨n, by rw [revisionOf_committed_of_ne _ hid, hn], le_rfl⟩

/-- STEP: every call only grows the store. -/
theorem grows_step (action : AuthorityAction) : s.Grows (AuthorityStore.step rt s action) := by
  refine step_rule action (Grows.refl s) ?_ ?_ ?_ ?_ ?_
  · intro m context now m' apply w rows _ _ _ hcommits
    exact hcommits.grows
  · intro tenants row operation _ _ _
    exact ⟨List.prefix_append _ _, fun _ n h => ⟨n, h, le_rfl⟩⟩
  · intro w row operation _ hnew _ _ _ _
    refine ⟨List.prefix_append _ _, fun id n hn => ⟨n, ?_, le_rfl⟩⟩
    have hid : id ≠ w.workspaceId := by
      rintro rfl
      simp [AuthorityStore.revisionOf, workspaceRow_eq_none hnew] at hn
    rw [AuthorityStore.revisionOf, workspaceRow_append rfl hnew, if_neg hid]
    exact hn
  · intro input now e row _ _ _ _
    exact ⟨List.prefix_rfl, fun _ n h => ⟨n, h, le_rfl⟩⟩
  · intro input now fails workspace request decision _ _ _ _
    exact ⟨List.prefix_rfl, fun _ n h => ⟨n, h, le_rfl⟩⟩

/-- RUN: a run only grows the store. -/
theorem grows_run (s : AuthorityStore) (actions : List AuthorityAction) :
    s.Grows (s.run rt actions) :=
  Run.run_invariant' (I := s.Grows) (fun _ action h => h.trans (grows_step action)) actions
    (Grows.refl s)

/-! ### One call of the wrapper -/

/-- The mutation commits: it raises the revision of its workspace by one, writes one audit row with
    the new revision, and leaves the other workspaces alone. -/
def Raises (rt : AuthorityRuntime) (s s' : AuthorityStore) (m : Mutation)
    (context : AuthorityMutationContext) (now : ℕ) (result : AuthorityMutationResult) : Prop :=
  ∃ n, s.revisionOf m.workspaceId = some n ∧ context.expectedAuthorityRevision = some n ∧
    s'.revisionOf m.workspaceId = some (n + 1) ∧
    s'.audit = s.audit ++ [mutationAudit m context (rt.digest (.mutation m context)) (n + 1) now] ∧
    result = mutationResult m context (n + 1) now ∧
    ∀ id, id ≠ m.workspaceId → s'.workspaceRow id = s.workspaceRow id

/-- The operation of `context` stands for the request, and for its result. -/
def Remembers (rt : AuthorityRuntime) (s : AuthorityStore) (m : Mutation)
    (context : AuthorityMutationContext) (result : AuthorityMutationResult) : Prop :=
  ∃ row, s.Replays rt m context { result with replayed := true } row

theorem Commits.raises_law (h : s.Commits m context now apply w rows) :
    Raises rt s (s.committed rt m context now w.authorityRevision rows) m context now
      (mutationResult m context (w.authorityRevision + 1) now) :=
  ⟨w.authorityRevision, h.revisionOf, h.expected, h.revisionOf_committed, rfl, rfl,
    fun _ hid => committed_workspaceRow_of_ne _ hid⟩

/-- A commit remembers its operation. -/
theorem Commits.remembers (h : s.Commits m context now apply w rows) :
    Remembers rt (s.committed rt m context now w.authorityRevision rows) m context
      (mutationResult m context (w.authorityRevision + 1) now) := by
  refine ⟨idempotencyRow (mutationResult m context (w.authorityRevision + 1) now)
    (rt.digest (.mutation m context)), ?_, rfl, h.result, rfl⟩
  rw [committed, List.find?_append, h.fresh]
  simp [idempotencyRow, mutationResult]

/-- What is remembered is never forgotten. -/
theorem Remembers.grows (h : Remembers rt s m context result) (hgrows : s.Grows t) :
    Remembers rt t m context result := by
  obtain ⟨row, hfound, hdigest, hadmitted, hresult⟩ := h
  exact ⟨row, hgrows.idempotency.find?_eq_some hfound, hdigest, hadmitted, hresult⟩

/-- A mutation that completes remembers its operation. -/
theorem remembers_of_ok (h : s.workspaceMutation rt m context now apply = .ok (s', result)) :
    Admitted m context now ∧ Remembers rt s' m context result := by
  obtain ⟨hadmitted, ⟨row, hreplays, rfl⟩ | ⟨w, rows, hcommits, rfl, rfl⟩⟩ :=
    workspaceMutation_eq_ok h
  · obtain ⟨hfound, hdigest, hresult, rfl⟩ := hreplays
    exact ⟨hadmitted, row, hfound, hdigest, hresult, rfl⟩
  · exact ⟨hadmitted, hcommits.remembers⟩

/-- An operation that is known to the store is answered for one request only. -/
theorem digest_of_known {row : IdempotencyRow}
    (hfound : s.idempotency.find? (·.operationId = context.operationId) = some row)
    (h : s.workspaceMutation rt m context now apply = .ok (s', result)) :
    row.requestDigest = rt.digest (.mutation m context) ∧ s' = s ∧
      result = { row.result with replayed := true } := by
  obtain ⟨-, ⟨row', hreplays, rfl⟩ | ⟨w, rows, hcommits, -, -⟩⟩ := workspaceMutation_eq_ok h
  · obtain ⟨hfound', hdigest, -, hresult⟩ := hreplays
    rw [hfound, Option.some.injEq] at hfound'
    subst hfound'
    exact ⟨hdigest, rfl, hresult⟩
  · rw [hcommits.fresh] at hfound
    cases hfound

/-- A mutation that completes and is not a replay has raised its revision. -/
theorem raises_of_ok (h : s.workspaceMutation rt m context now apply = .ok (s', result))
    (hnew : result.replayed = false) : Raises rt s s' m context now result := by
  obtain ⟨-, ⟨row, hreplays, -⟩ | ⟨w, rows, hcommits, rfl, rfl⟩⟩ := workspaceMutation_eq_ok h
  · rw [hreplays.result] at hnew
    cases hnew
  · exact hcommits.raises_law

/-- A replay answers what is stored and changes nothing. -/
theorem replay_of_ok (h : s.workspaceMutation rt m context now apply = .ok (s', result))
    (hreplayed : result.replayed = true) :
    s' = s ∧ ∃ row, s.Replays rt m context result row := by
  obtain ⟨-, ⟨row, hreplays, rfl⟩ | ⟨w, rows, -, -, rfl⟩⟩ := workspaceMutation_eq_ok h
  · exact ⟨rfl, row, hreplays⟩
  · cases hreplayed

/-! ### The public calls -/

/-- What the revocation of a mandate finds before its transaction; other calls look at nothing. -/
def Shows (rt : AuthorityRuntime) (s : AuthorityStore) (context : AuthorityMutationContext) :
    Mutation → Prop
  | .revokeMandate workspaceId mandateId expected => ∃ before,
      s.inspectMandate rt workspaceId mandateId = .ok before ∧
        context.actorPrincipalId = some before.intent.grantorPrincipalId ∧
        before.revision = expected ∧ before.status = .active
  | _ => True

variable {view : Option (AuthorityCall MandateView)}

/-- A transaction that commits is that of the prepared mutation. -/
theorem transact_prepared (h : s.transact rt m context now = .ok (s', result, view)) :
    s.Shows rt context m ∧ ∃ m' apply, m.prepare rt = .ok m' ∧
      s.workspaceMutation rt m' context now apply = .ok (s', result) := by
  obtain ⟨m', apply, hhands, hcall⟩ := transact_eq_ok h
  cases hhands with
  | direct _ hprepare hm =>
    refine ⟨?_, m', _, hprepare, hcall⟩
    cases m with
    | revokeMandate workspaceId mandateId expected => exact absurd rfl (hm _ _ _)
    | _ => trivial
  | revokeMandate workspaceId mandateId expected before hm =>
    subst hm
    simp only [transact, AuthorityStore.revokeMandate, bind_eq_ok, refuse_eq_ok, pure_eq_ok,
      exists_const, not_or, not_not] at h
    obtain ⟨_, ⟨before, hbefore, hactor, ⟨hrevision, hstatus⟩, -⟩, -⟩ := h
    exact ⟨⟨before, hbefore, hactor, hrevision, hstatus⟩, _, _, rfl, hcall⟩

/-- A mutation is prepared again as before, so that its transaction is again that of the wrapper. -/
theorem transact_again {now₂ : ℕ} {result₂ : AuthorityMutationResult}
    (h : s.transact rt m context now = .ok (s', result, view)) (hshows : t.Shows rt context m)
    (hagain : ∀ m' apply, m.prepare rt = .ok m' →
      t.workspaceMutation rt m' context now₂ apply = .ok (t, result₂)) :
    ∃ view₂, t.transact rt m context now₂ = .ok (t, result₂, view₂) := by
  have hmutate : ∀ m', m.prepare rt = .ok m' → t.mutate rt m context now₂ = .ok (t, result₂) :=
    fun m' hprepare => by rw [AuthorityStore.mutate, hprepare, ok_bind, hagain m' _ hprepare]
  obtain ⟨-, m', -, hprepare, -⟩ := transact_prepared h
  cases m with
  | issueMandate intent =>
    simp only [transact, AuthorityStore.issueMandate, bind_eq_ok, refuse_eq_ok, exists_const] at h
    obtain ⟨-, ⟨compiled, hcompiled, hactor, -⟩, -⟩ := h
    refine ⟨some (t.inspectMandate rt intent.workspaceId intent.id), ?_⟩
    simp only [transact, AuthorityStore.issueMandate, hcompiled, (refuse_eq_ok _ _ ()).2 hactor,
      hmutate m' hprepare, ok_bind]
    rfl
  | revokeMandate workspaceId mandateId expected =>
    obtain ⟨before, hbefore, hactor, hrevision, hstatus⟩ := hshows
    refine ⟨some (t.inspectMandate rt workspaceId mandateId), ?_⟩
    simp only [transact, AuthorityStore.revokeMandate, hbefore, ok_bind,
      (refuse_eq_ok _ _ ()).2 (not_not.2 hactor),
      (refuse_eq_ok (before.revision ≠ expected ∨ before.status ≠ .active) _ ()).2
        (by simp [hrevision, hstatus]), hagain _ _ rfl]
    rfl
  | _ =>
    refine ⟨none, ?_⟩
    simp only [transact, hmutate m' hprepare, ok_bind]
    rfl

/-! ### CORRECT: the revision law -/

/-- CORRECT: the revision law of the public mutations. A call fails without a trace, unless it is
    one of a mandate whose transaction has committed and whose view is refused; a transaction that
    commits raises the revision or is a replay; and its operation stands for its request ever after:
    again it changes nothing, and it is answered as stored, by the revocation of a mandate as long
    as the mandate shows as it did. -/
theorem revision_law (hrt : rt.CollisionFree) (actions : List AuthorityAction) :
    let s := empty.run rt actions
    s.Audited ∧
      (∀ m context now e, (s.perform rt m context now).2 = .error e →
        step rt s (.mutate m context now) = s ∨ ∃ result,
          s.transact rt m context now =
            .ok (step rt s (.mutate m context now), result, some (.error e))) ∧
      ∀ m context now s' result view, s.transact rt m context now = .ok (s', result, view) →
        s.perform rt m context now = (s', answered result view) ∧
        ∃ m', m.prepare rt = .ok m' ∧
        (result.replayed = false → Raises rt s s' m' context now result) ∧
        (result.replayed = true → s' = s ∧ ∃ row, s.Replays rt m' context result row) ∧
        (∀ row, s.idempotency.find? (·.operationId = context.operationId) = some row →
          row.requestDigest = rt.digest (.mutation m' context)) ∧
        ∀ later, let t := s'.run rt later
          (∀ now₂, step rt t (.mutate m context now₂) = t) ∧
          (∀ now₂, IsUnixMs now₂ → ((∃ view₂, t.transact rt m context now₂ =
            .ok (t, { result with replayed := true }, view₂)) ↔ t.Shows rt context m)) ∧
          ∀ m₂ context₂ now₂ t' result₂ view₂,
            t.transact rt m₂ context₂ now₂ = .ok (t', result₂, view₂) →
            (context₂.operationId = context.operationId → m₂.prepare rt = .ok m' ∧
              context₂ = context ∧ t' = t ∧ result₂ = { result with replayed := true }) ∧
            (result.replayed = false → result₂.replayed = false →
              m₂.workspaceId = m.workspaceId →
              context₂.expectedAuthorityRevision ≠ context.expectedAuthorityRevision) := by
  intro s
  refine ⟨audited_run actions, ?_, ?_⟩
  · intro m context now e he
    simp only [step, perform] at he ⊢
    cases htransact : s.transact rt m context now with
    | error e' => exact .inl rfl
    | ok answer =>
      obtain ⟨s', result, view⟩ := answer
      rw [htransact] at he
      cases view with
      | none => cases he
      | some view =>
        cases view with
        | error e' =>
          obtain rfl : e' = e := by simpa [answered, Functor.map, Except.map] using he
          exact .inr ⟨result, rfl⟩
        | ok view => cases he
  intro m context now s' result view h
  obtain ⟨-, m', apply, hprepare, hcall⟩ := transact_prepared h
  obtain ⟨hadmitted, hremembers⟩ := remembers_of_ok hcall
  refine ⟨by rw [perform, h], m', hprepare, raises_of_ok hcall, replay_of_ok hcall,
    fun row hfound => (digest_of_known hfound hcall).1, ?_⟩
  intro later t
  have hgrows : s'.Grows t := grows_run s' later
  obtain ⟨row, hreplays⟩ := hremembers.grows hgrows
  have hreuse : ∀ m₂ context₂ now₂ t' result₂ view₂,
      t.transact rt m₂ context₂ now₂ = .ok (t', result₂, view₂) →
      context₂.operationId = context.operationId → m₂.prepare rt = .ok m' ∧
        context₂ = context ∧ t' = t ∧ result₂ = { result with replayed := true } := by
    intro m₂ context₂ now₂ t' result₂ view₂ h₂ hid
    obtain ⟨-, m₂', apply₂, hprepare₂, hcall₂⟩ := transact_prepared h₂
    have hfound := hreplays.found
    rw [← hid] at hfound
    obtain ⟨hdigest, rfl, hresult⟩ := digest_of_known hfound hcall₂
    rw [hreplays.digest] at hdigest
    obtain ⟨rfl, rfl⟩ := AuthorityValue.mutation.inj (hrt.digest hdigest)
    exact ⟨hprepare₂, rfl, rfl, by rw [hresult, hreplays.result]⟩
  refine ⟨fun now₂ => ?_, fun now₂ hnow => ⟨?_, fun hshows => ?_⟩, ?_⟩
  · rw [step, perform_fst]
    refine settle_fst_rule (I := (· = t)) rfl fun t' answer h₂ => ?_
    exact (hreuse m context now₂ t' answer.1 answer.2 h₂ rfl).2.2.1
  · rintro ⟨view₂, h₂⟩
    exact (transact_prepared h₂).1
  · refine transact_again h hshows fun m₂ apply₂ hprepare₂ => ?_
    obtain rfl : m' = m₂ := Except.ok.inj (hprepare.symm.trans hprepare₂)
    exact workspaceMutation_of_replays { hadmitted with isNow := hnow } hreplays
  intro m₂ context₂ now₂ t' result₂ view₂ h₂
  refine ⟨hreuse m₂ context₂ now₂ t' result₂ view₂ h₂, ?_⟩
  intro hnew hnew₂ hworkspace heq
  obtain ⟨-, m₂', apply₂, hprepare₂, hcall₂⟩ := transact_prepared h₂
  obtain ⟨n, -, hexpected, hafter, -⟩ := raises_of_ok hcall hnew
  obtain ⟨n₂, hbefore₂, hexpected₂, -⟩ := raises_of_ok hcall₂ hnew₂
  obtain ⟨n', hn', hle⟩ := hgrows.revision _ _ hafter
  rw [hexpected₂, hexpected, Option.some.injEq] at heq
  rw [prepare_workspaceId hprepare₂, hworkspace, ← prepare_workspaceId hprepare, hn',
    Option.some.injEq] at hbefore₂
  omega

/-! ### A mandate -/

/-- The registered action of reading a workspace, on the ideal platform. -/
def readAction : ActionIdentity :=
  (idealAuthority.actionDefinition ("workspace.read", [.workspace], .none, none)).identity

/-- The human lets the service read the workspace. -/
def readMandate : MandateIntent where
  id := "x"
  workspaceId := "w"
  grantorPrincipalId := "h"
  subjectPrincipalId := "p"
  actorPrincipalId := none
  actions := [readAction]
  target := .workspace
  notBefore := none
  expiresAt := none
  maxOperations := none
  budget := none

/-- The mandate is issued, and its operation stands for that ever after. -/
theorem revision_law_mandate :
    Ends ((empty.run idealAuthority founding).transact idealAuthority (.issueMandate readMandate)
      (expecting "op:x" (some 2) (some "h")) 1) fun answer =>
      Raises idealAuthority (empty.run idealAuthority founding) answer.1 (.issueMandate readMandate)
        (expecting "op:x" (some 2) (some "h")) 1 answer.2.1 ∧
      ∃ view, answer.1.transact idealAuthority (.issueMandate readMandate)
        (expecting "op:x" (some 2) (some "h")) 7 =
          .ok (answer.1, { answer.2.1 with replayed := true }, view) := by
  obtain ⟨⟨s', result, view⟩, htransact, hnew⟩ : Ends ((empty.run idealAuthority founding).transact
      idealAuthority (.issueMandate readMandate) (expecting "op:x" (some 2) (some "h")) 1)
      fun answer => answer.2.1.replayed = false := by
    decide +kernel
  obtain ⟨-, m', hprepare, hraises, -, -, hlater⟩ :=
    (revision_law idealAuthority_collisionFree founding).2.2 _ _ _ _ _ _ htransact
  obtain ⟨-, hagain, -⟩ := hlater []
  obtain ⟨compiled, -, hsame⟩ := (bind_eq_ok _ _ _).1 hprepare
  obtain rfl : .issueMandate readMandate = m' := (pure_eq_ok _ _).1 hsame
  exact ⟨_, htransact, hraises hnew, (hagain 7 (by decide)).2 trivial⟩

/-- The mandate is issued and revoked. -/
def revoking : List AuthorityAction :=
  founding ++
  [.mutate (.issueMandate readMandate) (expecting "op:x" (some 2) (some "h")) 1,
   .mutate (.revokeMandate "w" "x" 1) (expecting "op:y" (some 3) (some "h")) 1]

/-- A permission set with the action alone. -/
def readSet : PermissionSetDefinition where
  uri := "urn:p"
  version := 1
  implementationDigest := idealAuthority.digest (.permissionSet "urn:p" 1 [readAction])
  actions := [readAction]

/-- A grant that is named as the one of the actor of the mandate would be. -/
def foreignGrant : AuthorizationGrant where
  id := "mandate:x:actor"
  workspaceId := "w"
  grantorPrincipalId := "h"
  granteePrincipalId := "p"
  permissionSet := ⟨readSet.uri, readSet.version, readSet.implementationDigest⟩
  scope := .workspace
  notBefore := none
  expiresAt := none
  status := .active
  revision := 1

/-- The grant is there before the mandate. -/
def foreign : List AuthorityAction :=
  founding ++
  [.mutate (.activatePermissionSet "w" readSet) (expecting "op:s" (some 2) (some "h")) 1,
   .mutate (.createGrant foreignGrant) (expecting "op:g" (some 3) (some "h")) 1]

/-- NOT SO: the exact retry of a revocation that was answered is refused; and a mandate is issued by
    a call that fails. -/
theorem mandate_calls_fail :
    Ends ((empty.run idealAuthority (founding ++
      [.mutate (.issueMandate readMandate) (expecting "op:x" (some 2) (some "h")) 1])).perform
        idealAuthority (.revokeMandate "w" "x" 1) (expecting "op:y" (some 3) (some "h")) 1).2
      (fun answer => answer.1.replayed = false) ∧
    ((empty.run idealAuthority revoking).perform idealAuthority (.revokeMandate "w" "x" 1)
      (expecting "op:y" (some 3) (some "h")) 1).2 =
        .error (revisionConflict "mandate revision changed") ∧
    (empty.run idealAuthority foreign).revisionOf "w" = some 4 ∧
    ((empty.run idealAuthority foreign).perform idealAuthority (.issueMandate readMandate)
      (expecting "op:x" (some 4) (some "h")) 1).2 =
        .error (corruptMandate "mandate actor grant and delegation must coexist") ∧
    ((empty.run idealAuthority foreign).perform idealAuthority (.issueMandate readMandate)
      (expecting "op:x" (some 4) (some "h")) 1).1.revisionOf "w" = some 5 := by
  decide +kernel

end AuthorityStore

end Tasq.Authority
