import Mathlib.Tactic
import Tasq.Cloud.Plain

/-! What one step of a call does to the workspaces: most steps leave them alone, some change one of
    them, the suspension of a tenant suspends its own, and provisioning inserts one. -/

namespace Tasq.Cloud

open Outcome Rows Threads

/-- A step that writes a workspace does so: the database carries it out, and the provider has
    answered as it should. -/
def Writes (runtime : CloudRuntime) (call : Thread) (input : Input) : Prop :=
  input.fault ≠ .before ∧
  match call with
  | .workspace (.reconciling _) => (checkProvisioned runtime input.provisioned).toBool = true
  | .workspace (.restoring _ backup _) => backup.artifactRef.isSome = true ∧
      (checkProvisioned runtime input.provisioned).toBool = true
  | .workspace (.deleting _) => input.answered = true
  | _ => True

instance (runtime : CloudRuntime) (call : Thread) (input : Input) :
    Decidable (Writes runtime call input) := by
  unfold Writes
  split <;> infer_instance

/-- What a step of a call, with its input, does to one workspace at the moment `m`. -/
inductive Changes (runtime : CloudRuntime) (m : ℕ) (call : Thread) (input : Input)
    (row : CloudWorkspace) : CloudWorkspace → Prop
  | provisioned {region storageBindingId : String} {answer : CloudProvisioningResult}
      (by' : call = .workspace (.provisioning row.ref region storageBindingId))
      (found : row.status = .provisioning) (answered : input.provisioned = some answer) :
      Changes runtime m call input row (row.deployed answer)
  | reconciled {current : CloudWorkspace} {answer : CloudProvisioningResult}
      (by' : call = .workspace (.reconciling current)) (ref : row.ref = current.ref)
      (answered : input.provisioned = some answer) (writes : Writes runtime call input) :
      Changes runtime m call input row (row.deployed answer)
  | restored {current : CloudWorkspace} {backup : BackupRow} {began : ℕ}
      {answer : CloudProvisioningResult}
      (by' : call = .workspace (.restoring current backup began)) (ref : row.ref = current.ref)
      (answered : input.provisioned = some answer) (writes : Writes runtime call input) :
      Changes runtime m call input row (row.deployed answer)
  | rotated {rotationId : String} {current : CloudWorkspace} {secretRefs : List String}
      (by' : call = .workspace (.rotating rotationId current)) (ref : row.ref = current.ref)
      (found : row.status = .ready) (checked : Hosting.checkRotated runtime rotationId current
        input.answered = .ok secretRefs) :
      Changes runtime m call input row { row with secretRefs := secretRefs }
  | provisionFailed (by' : call = .workspace (.provisionFailed row.ref))
      (found : row.status = .provisioning) :
      Changes runtime m call input row { row with status := .failed }
  | reconcileMark {current : CloudWorkspace} (by' : call = .workspace (.reconcileMark current))
      (ref : row.ref = current.ref) (writes : Writes runtime call input) :
      Changes runtime m call input row { row with status := .provisioning }
  | reconcileFailed (by' : call = .workspace (.reconcileFailed row.ref))
      (writes : Writes runtime call input) :
      Changes runtime m call input row { row with status := .failed }
  | deleting (found : row.status = .ready) :
      Changes runtime m call input row { row with status := .deleting }
  | deleted (found : row.status = .deleting) : Changes runtime m call input row row.gone
  | suspended (found : row.status = .ready) :
      Changes runtime m call input row { row with status := .suspended, suspendedAt := m }

variable {runtime : CloudRuntime} {m : ℕ} {call : Thread} {input : Input}

theorem Changes.ref_eq {row row' : CloudWorkspace} (h : Changes runtime m call input row row') :
    row'.ref = row.ref := by
  cases h <;> rfl

/-- Every row stays, or changes as the step changes it. -/
def Alters (runtime : CloudRuntime) (m : ℕ) (call : Thread) (input : Input)
    (rows rows' : List CloudWorkspace) : Prop :=
  ∃ f : CloudWorkspace → CloudWorkspace, rows' = rows.map f ∧
    ∀ row, f row = row ∨ Changes runtime m call input row (f row)

theorem Alters.refl (rows : List CloudWorkspace) : Alters runtime m call input rows rows :=
  ⟨id, by simp, fun _ => .inl rfl⟩

theorem Alters.set {h : Hosting} {ref : WorkspaceRef} {guarded : WorkspaceStatus → Bool}
    {f : CloudWorkspace → CloudWorkspace}
    (hf : ∀ row, row.ref = ref → guarded row.status → Changes runtime m call input row (f row)) :
    Alters runtime m call input h.workspaces (h.setWorkspace ref guarded f).workspaces := by
  refine ⟨fun row => if row.ref = ref ∧ guarded row.status then f row else row, rfl, fun row => ?_⟩
  by_cases hrow : row.ref = ref ∧ guarded row.status
  · simp only [if_pos hrow]
    exact .inr (hf row hrow.1 hrow.2)
  · exact .inl (if_neg hrow)

theorem checkProvisioned_eq_ok {answer : Option CloudProvisioningResult}
    {provisioned : CloudProvisioningResult}
    (h : checkProvisioned runtime answer = .ok provisioned) :
    answer = some provisioned ∧ isSecretRefs provisioned.secretRefs := by
  simp only [checkProvisioned, bind_eq_ok, demand_eq_ok, refuse_eq_ok, pure_eq_ok, exists_const,
    not_not] at h
  obtain ⟨_, hanswer, hvalid, rfl⟩ := h
  exact ⟨hanswer, hvalid.2.1⟩

theorem Alters.statement {α : Type} {h : Hosting} {fault : Fault} {x : Call (Hosting × α)}
    {next : α → Thread} {failed : CloudError → Thread}
    (hx : ∀ h' a, x = .ok (h', a) → Alters runtime m call input h.workspaces h'.workspaces) :
    Alters runtime m call input h.workspaces
      (Cloud.statement h fault x next failed).1.workspaces :=
  statement_rule (P := fun h' : Hosting => Alters runtime m call input h.workspaces h'.workspaces)
    (.refl _) hx

theorem Alters.written {α : Type} {h : Hosting} {fault : Fault} {x : Call (Hosting × α)}
    {next : α → Thread} {failed : CloudError → Thread}
    (hx : ∀ h' a, x = .ok (h', a) → fault ≠ .before →
      Alters runtime m call input h.workspaces h'.workspaces) :
    Alters runtime m call input h.workspaces
      (Cloud.statement h fault x next failed).1.workspaces :=
  statement_writes_rule
    (P := fun h' : Hosting => Alters runtime m call input h.workspaces h'.workspaces) (.refl _) hx

/-- STEP: what a workspace call does to the workspaces. -/
theorem WorkspaceCall.move_alters (runtime : CloudRuntime) (m : ℕ) (h : Hosting)
    (call : WorkspaceCall) (input : Input) :
    Alters runtime m (.workspace call) input h.workspaces
      (call.move runtime h input).1.workspaces := by
  cases call
  case provisioning ref region storageBindingId =>
    refine .statement fun h' _ hx => ?_
    simp only [bind_eq_ok, pure_eq_ok, Prod.mk.injEq] at hx
    obtain ⟨_, hanswer, rfl, -⟩ := hx
    refine .set fun row href hstatus => ?_
    subst href
    exact .provisioned rfl (by simpa using hstatus) (checkProvisioned_eq_ok hanswer).1
  case provisionFailed ref =>
    refine .statement fun h' _ hx => ?_
    obtain ⟨rfl, -⟩ := Prod.ext_iff.1 (Except.ok.inj hx)
    refine .set fun row href hstatus => ?_
    subst href
    exact .provisionFailed rfl (by simpa using hstatus)
  case reconcileMark current =>
    refine .written fun h' _ hx hfault => ?_
    obtain ⟨rfl, -⟩ := Prod.ext_iff.1 (Except.ok.inj hx)
    exact .set fun row href _ => .reconcileMark rfl href ⟨hfault, trivial⟩
  case reconciling current =>
    refine .written fun h' _ hx hfault => ?_
    simp only [bind_eq_ok, pure_eq_ok, Prod.mk.injEq] at hx
    obtain ⟨_, hanswer, rfl, -⟩ := hx
    exact .set fun row href _ => .reconciled rfl href (checkProvisioned_eq_ok hanswer).1
      ⟨hfault, by rw [hanswer]; rfl⟩
  case reconcileFailed ref =>
    refine .written fun h' _ hx hfault => ?_
    obtain ⟨rfl, -⟩ := Prod.ext_iff.1 (Except.ok.inj hx)
    refine .set fun row href _ => ?_
    subst href
    exact .reconcileFailed rfl ⟨hfault, trivial⟩
  case rotating rotationId current =>
    refine .statement fun h' _ hx => ?_
    simp only [bind_eq_ok, pure_eq_ok, Prod.mk.injEq] at hx
    obtain ⟨secretRefs, hchecked, rfl, -⟩ := hx
    change Alters runtime m _ input h.workspaces (h.setWorkspace current.ref (· = .ready)
      fun row => { row with secretRefs := secretRefs }).workspaces
    exact .set fun row href hstatus => .rotated rfl href (by simpa using hstatus) hchecked
  case restoring current backup began =>
    refine .written fun h' _ hx hfault => ?_
    simp only [bind_eq_ok, demand_eq_ok, pure_eq_ok, Prod.mk.injEq] at hx
    obtain ⟨_, hartifact, provisioned, hanswer, rfl, -⟩ := hx
    change Alters runtime m _ input h.workspaces (h.setWorkspace current.ref (fun _ => true)
      fun row => row.deployed provisioned).workspaces
    exact .set fun row href _ => .restored rfl href (checkProvisioned_eq_ok hanswer).1
      ⟨hfault, by rw [hartifact]; rfl, by rw [hanswer]; rfl⟩
  case deleteMark current =>
    refine .statement fun h' _ hx => ?_
    obtain ⟨rfl, -⟩ := Prod.ext_iff.1 (Except.ok.inj hx)
    exact .set fun row _ hstatus => .deleting (by simpa using hstatus)
  case deleting current =>
    refine .statement fun h' _ hx => ?_
    simp only [bind_eq_ok, pure_eq_ok, Prod.mk.injEq] at hx
    obtain ⟨-, -, rfl, -⟩ := hx
    exact .set fun row _ hstatus => .deleted (by simpa using hstatus)
  case provisionReplay | audit | readBack | rotationAudit | rotationFailed | backupAudit |
      backupFailed | deleteAudit =>
    refine .statement fun h' _ hx => ?_
    obtain ⟨rfl, -⟩ := Prod.ext_iff.1 (Except.ok.inj hx)
    exact .refl _
  case provisionRead | rotationLookup | backupLookup | restoreRead | backingUp =>
    refine .statement fun h' _ hx => ?_
    simp only [bind_eq_ok, pure_eq_ok, Prod.mk.injEq] at hx
    obtain ⟨_, -, rfl, -⟩ := hx
    exact .refl _
  case rotationInsert rotationId current =>
    refine .statement fun h' _ hx => ?_
    simp only [Hosting.insertRotation, bind_eq_ok, pure_eq_ok, Prod.mk.injEq] at hx
    obtain ⟨_, ⟨_, -, rfl⟩, rfl, -⟩ := hx
    exact .refl _
  case backupInsert ref backupId lifetimeMs =>
    refine .statement fun h' _ hx => ?_
    simp only [Hosting.requestBackup, bind_eq_ok] at hx
    obtain ⟨-, -, hx⟩ := hx
    split at hx
    · obtain ⟨rfl, -⟩ := Prod.ext_iff.1 (Except.ok.inj hx)
      exact .refl _
    · obtain ⟨rfl, -⟩ := Prod.ext_iff.1 (Except.ok.inj hx)
      exact .refl _

/-- What a step does to tenants and workspaces. -/
inductive Moves (runtime : CloudRuntime) (s : ControlPlane) (call : Thread) (input : Input)
    (s' : ControlPlane) : Prop
  | alters (tenants : s'.tenants = s.tenants)
      (workspaces : Alters runtime s.moment call input s.hosting.workspaces s'.hosting.workspaces)
  | createTenant (row : TenantRow) (fresh : ∀ other ∈ s.tenants, other.id ≠ row.id)
      (active : row.status = .active) (tenants : s'.tenants = s.tenants ++ [row])
      (workspaces : s'.hosting.workspaces = s.hosting.workspaces)
  | suspendTenant (tenantId : String)
      (tenants : s'.tenants = updateWhere s.tenants
        (fun row => row.id = tenantId ∧ row.status = .active) ControlPlane.suspendedTenant)
      (workspaces : s'.hosting.workspaces = updateWhere s.hosting.workspaces
        (fun row => row.ref.tenantId = tenantId ∧ ControlPlane.suspendable row.status) fun row =>
          { row with status := .suspended, suspendedAt := s.moment })
  | provision (tenant : TenantRow) (pending : CloudWorkspace)
      (found : s.tenantOf pending.ref.tenantId = some tenant) (active : tenant.status = .active)
      (quota : ControlPlane.workspaceCount s.hosting pending.ref.tenantId < tenant.maxWorkspaces)
      (fresh : ∀ other ∈ s.hosting.workspaces, other.ref ≠ pending.ref)
      (status : pending.status = .provisioning) (deployment : pending.deploymentRef = none)
      (tenants : s'.tenants = s.tenants)
      (workspaces : s'.hosting.workspaces = s.hosting.workspaces ++ [pending])

namespace ControlPlane

variable {s s' : ControlPlane}

theorem moves_of_eq (htenants : s'.tenants = s.tenants)
    (hworkspaces : s'.hosting.workspaces = s.hosting.workspaces) :
    Moves runtime s call input s' :=
  .alters htenants (hworkspaces ▸ .refl _)

theorem registerPrincipal_frame {register : RegisterPrincipal} {result : CallResult}
    (h : s.registerPrincipal runtime register = .ok (s', result)) :
    s'.tenants = s.tenants ∧ s'.hosting = s.hosting := by
  simp only [registerPrincipal, bind_eq_ok] at h
  obtain ⟨prior, -, h⟩ := h
  split at h
  · obtain ⟨rfl, -⟩ := Prod.ext_iff.1 (Except.ok.inj h)
    exact ⟨rfl, rfl⟩
  · simp only [bind_eq_ok, pure_eq_ok, Prod.mk.injEq] at h
    obtain ⟨-, -, -, -, principals, -, committed, hcommit, rfl, -⟩ := h
    rw [commitExact_eq_ok hcommit]
    exact ⟨rfl, rfl⟩

theorem createTenant_moves {create : CreateTenant} {result : CallResult}
    (h : s.createTenant runtime create = .ok (s', result)) : Moves runtime s call input s' := by
  simp only [createTenant, bind_eq_ok] at h
  obtain ⟨prior, -, h⟩ := h
  split at h
  · obtain ⟨rfl, -⟩ := Prod.ext_iff.1 (Except.ok.inj h)
    exact moves_of_eq rfl rfl
  · simp only [bind_eq_ok, pure_eq_ok, Prod.mk.injEq] at h
    obtain ⟨-, -, tenants, hinsert, committed, hcommit, rfl, -⟩ := h
    obtain ⟨hfresh, rfl⟩ := insertRow_eq_ok.1 hinsert
    rw [commitExact_eq_ok hcommit]
    exact .createTenant _ (fun other hother heq => hfresh other hother (.inl heq)) rfl rfl rfl

theorem suspendTenant_moves {tenantId : String} {now : ℕ}
    (h : s.suspendTenant tenantId now = .ok s') : Moves runtime s call input s' := by
  simp only [suspendTenant, bind_eq_ok, pure_eq_ok] at h
  obtain ⟨tenants, hupdate, rfl⟩ := h
  obtain ⟨-, rfl⟩ := updateRow_eq_ok.1 hupdate
  exact .suspendTenant tenantId rfl rfl

theorem provisionIntent_moves {provision : ProvisionWorkspace} {fresh : String}
    {answer : CallResult ⊕ CloudWorkspace}
    (h : s.provisionIntent runtime provision fresh = .ok (s', answer)) :
    Moves runtime s call input s' := by
  simp only [provisionIntent, bind_eq_ok] at h
  obtain ⟨prior, -, h⟩ := h
  split at h
  · obtain ⟨rfl, -⟩ := Prod.ext_iff.1 (Except.ok.inj h)
    exact moves_of_eq rfl rfl
  · simp only [bind_eq_ok, demand_eq_ok, refuse_eq_ok, exists_const, pure_eq_ok, not_not, not_le,
      ne_eq, Prod.mk.injEq] at h
    obtain ⟨tenant, hfound, hactive, hquota, workspaces, hinsert, committed, hcommit, rfl, -⟩ := h
    obtain ⟨hfresh, rfl⟩ := insertRow_eq_ok.1 hinsert
    rw [commitExact_eq_ok hcommit]
    exact .provision tenant _ hfound hactive hquota
      (fun other hother heq => hfresh other hother (.inl heq)) rfl rfl rfl rfl

theorem readHosting_moves {request : Request} {x : Call Thread} :
    Moves runtime s call input (s.readHosting input request x).1 := by
  refine statement_rule (P := Moves runtime s call input) (moves_of_eq rfl rfl) fun s' _ h => ?_
  simp only [bind_eq_ok, pure_eq_ok, Prod.mk.injEq] at h
  obtain ⟨-, -, -, -, rfl, -⟩ := h
  exact moves_of_eq rfl rfl

/-- STEP: what the first statement of a call does to tenants and workspaces. -/
theorem begin_moves (runtime : CloudRuntime) (s : ControlPlane) (request : Request) (began : ℕ)
    (input : Input) :
    Moves runtime s (.start request began) input (s.begin runtime request began input).1 := by
  cases request with
  | createTenant create =>
    refine statement_rule (P := Moves runtime s _ input) (moves_of_eq rfl rfl) fun s' _ h => ?_
    simp only [bind_eq_ok] at h
    obtain ⟨-, -, h⟩ := h
    exact createTenant_moves h
  | suspendTenant tenantId confirmation =>
    refine statement_rule (P := Moves runtime s _ input) (moves_of_eq rfl rfl) fun s' _ h => ?_
    simp only [bind_eq_ok, pure_eq_ok, Prod.mk.injEq] at h
    obtain ⟨-, -, _, h, rfl, -⟩ := h
    exact suspendTenant_moves h
  | provisionWorkspace provision =>
    refine statement_rule (P := Moves runtime s _ input) (moves_of_eq rfl rfl) fun s' _ h => ?_
    simp only [bind_eq_ok] at h
    obtain ⟨-, -, h⟩ := h
    exact provisionIntent_moves h
  | suspendWorkspace ref =>
    refine .alters rfl (.statement fun h' _ hx => ?_)
    simp only [bind_eq_ok, pure_eq_ok, suspendWorkspace, Prod.mk.injEq] at hx
    obtain ⟨-, -, rfl, -⟩ := hx
    exact .set fun row _ hstatus => .suspended (by simpa using hstatus)
  | registerPrincipal register =>
    refine statement_rule (P := Moves runtime s _ input) (moves_of_eq rfl rfl) fun s' _ h => ?_
    simp only [bind_eq_ok] at h
    obtain ⟨-, -, h⟩ := h
    obtain ⟨htenants, hhosting⟩ := registerPrincipal_frame h
    exact moves_of_eq htenants (congrArg _ hhosting)
  | issueHumanSession issue =>
    refine statement_rule (P := Moves runtime s _ input) (moves_of_eq rfl rfl) fun s' _ h => ?_
    simp only [bind_eq_ok, pure_eq_ok, Prod.mk.injEq] at h
    obtain ⟨-, -, -, -, rfl, -⟩ := h
    exact moves_of_eq rfl rfl
  | enrollDevice enroll => exact moves_of_eq rfl rfl
  | revokeDevice tenantId deviceId expectedRevision => exact moves_of_eq rfl rfl
  | recoverHuman tenantId principalId proofId => exact moves_of_eq rfl rfl
  | _ => exact readHosting_moves

/-- STEP: what a step does to tenants and workspaces. -/
theorem move_moves (runtime : CloudRuntime) (s : ControlPlane) (call : Thread) (input : Input) :
    Moves runtime s call input (s.move runtime call input).1 := by
  cases call with
  | start request began => exact begin_moves runtime s request began input
  | workspace call => exact .alters rfl (call.move_alters runtime s.moment s.hosting input)
  | identity call => exact moves_of_eq rfl rfl
  | done result => exact moves_of_eq rfl rfl
  | thrown error => exact moves_of_eq rfl rfl

end ControlPlane

end Tasq.Cloud
