import Mathlib.Tactic
import Tasq.Cloud.Workspaces

/-! The lifecycle of a workspace. Calls read a row, ask the provider and write the row back; some
    writes are guarded by the status that they saw and some are not.

    Where the writes that are not guarded find the row as the call had left it, a suspended tenant
    has no workspace that is ready, a deleted workspace stays deleted, a suspended one becomes ready
    by a later restore alone, and quotas hold. -/

namespace Tasq.Cloud

open Outcome Rows Threads Run ControlPlane

/-! ### The condition -/

/-- The tenant is active. -/
def TenantActive (s : ControlPlane) (tenantId : String) : Prop :=
  ∀ tenant ∈ s.tenants, tenant.id = tenantId → tenant.status = .active

/-- A write of `reconcileWorkspace` finds the workspace neither suspended nor deleted, under an
    active tenant. -/
def Reconcilable (s : ControlPlane) (ref : WorkspaceRef) : Prop :=
  TenantActive s ref.tenantId ∧ ∀ row ∈ s.hosting.workspaces, row.ref = ref →
    row.status ≠ .suspended ∧ row.status ≠ .deleted

/-- The write of `restoreBackup` finds the workspace not deleted, under an active tenant, and if it
    is suspended, then since before the call began. -/
def Restorable (s : ControlPlane) (ref : WorkspaceRef) (began : ℕ) : Prop :=
  TenantActive s ref.tenantId ∧ ∀ row ∈ s.hosting.workspaces, row.ref = ref →
    row.status ≠ .deleted ∧ (row.status = .suspended → row.suspendedAt < began)

/-- The last write of `deleteWorkspace` finds the workspace being deleted, or deleted. -/
def Deletable (s : ControlPlane) (ref : WorkspaceRef) : Prop :=
  ∃ row ∈ s.hosting.workspaces, row.ref = ref ∧ (row.status = .deleting ∨ row.status = .deleted)

/-- The writes that the code does not guard find the row as they need it. -/
def Guarded (runtime : CloudRuntime) (s : ControlPlane) (call : Thread) (input : Input) : Prop :=
  Writes runtime call input →
  match call with
  | .workspace (.reconcileMark current) => Reconcilable s current.ref
  | .workspace (.reconciling current) => Reconcilable s current.ref
  | .workspace (.reconcileFailed ref) => Reconcilable s ref
  | .workspace (.restoring current _ began) => Restorable s current.ref began
  | .workspace (.deleting current) => Deletable s current.ref
  | _ => True

instance (s : ControlPlane) (tenantId : String) : Decidable (TenantActive s tenantId) :=
  inferInstanceAs (Decidable (∀ tenant ∈ s.tenants, tenant.id = tenantId → tenant.status = .active))

instance (s : ControlPlane) (ref : WorkspaceRef) : Decidable (Reconcilable s ref) :=
  inferInstanceAs (Decidable (_ ∧ ∀ row ∈ s.hosting.workspaces, row.ref = ref →
    row.status ≠ .suspended ∧ row.status ≠ .deleted))

instance (s : ControlPlane) (ref : WorkspaceRef) (began : ℕ) : Decidable (Restorable s ref began) :=
  inferInstanceAs (Decidable (_ ∧ ∀ row ∈ s.hosting.workspaces, row.ref = ref →
    row.status ≠ .deleted ∧ (row.status = .suspended → row.suspendedAt < began)))

instance (s : ControlPlane) (ref : WorkspaceRef) : Decidable (Deletable s ref) :=
  inferInstanceAs (Decidable (∃ row ∈ s.hosting.workspaces, row.ref = ref ∧
    (row.status = .deleting ∨ row.status = .deleted)))

instance (runtime : CloudRuntime) (s : ControlPlane) (call : Thread) (input : Input) :
    Decidable (Guarded runtime s call input) :=
  match call with
  | .workspace (.reconcileMark current) =>
    inferInstanceAs (Decidable (_ → Reconcilable s current.ref))
  | .workspace (.reconciling current) =>
    inferInstanceAs (Decidable (_ → Reconcilable s current.ref))
  | .workspace (.reconcileFailed ref) => inferInstanceAs (Decidable (_ → Reconcilable s ref))
  | .workspace (.restoring current _ began) =>
    inferInstanceAs (Decidable (_ → Restorable s current.ref began))
  | .workspace (.deleting current) => inferInstanceAs (Decidable (_ → Deletable s current.ref))
  | .workspace (.provisioning ..) | .workspace (.provisionFailed _)
  | .workspace (.provisionRead _) | .workspace (.provisionReplay ..) | .workspace (.audit _)
  | .workspace (.readBack _) | .workspace (.rotationLookup ..) | .workspace (.rotationInsert ..)
  | .workspace (.rotating ..) | .workspace (.rotationAudit ..) | .workspace (.rotationFailed ..)
  | .workspace (.backupInsert ..) | .workspace (.backupLookup ..) | .workspace (.backingUp ..)
  | .workspace (.backupAudit ..) | .workspace (.backupFailed ..) | .workspace (.restoreRead ..)
  | .workspace (.deleteMark _) | .workspace (.deleteAudit _) | .start .. | .identity _ | .done _
  | .thrown _ => inferInstanceAs (Decidable (_ → True))

/-! ### What holds of states and steps -/

/-- No workspace of a suspended tenant is ready, no deleted one has a deployment, and no tenant has
    more workspaces than its quota. -/
structure Settled (s : ControlPlane) : Prop where
  suspended : ∀ tenant ∈ s.tenants, tenant.status = .suspended →
    ∀ row ∈ s.hosting.workspaces, row.ref.tenantId = tenant.id → row.status ≠ .ready
  deleted : ∀ row ∈ s.hosting.workspaces, row.status = .deleted → row.deploymentRef = none
  quota : ∀ tenant ∈ s.tenants, workspaceCount s.hosting tenant.id ≤ tenant.maxWorkspaces

/-- A deleted workspace stays deleted, a suspended one becomes ready by a restore that began after
    its suspension, and a deletion is reported of a deleted workspace. -/
structure Follows (world : World ControlPlane Thread) (action : Action Request Input)
    (world' : World ControlPlane Thread) : Prop where
  deleted : ∀ row ∈ world.shared.hosting.workspaces, ∀ row' ∈ world'.shared.hosting.workspaces,
    row'.ref = row.ref → row.status = .deleted → row'.status = .deleted
  suspended : ∀ row ∈ world.shared.hosting.workspaces,
    ∀ row' ∈ world'.shared.hosting.workspaces, row'.ref = row.ref → row.status = .suspended →
      row'.status = .suspended ∨ row'.status = .ready ∧ ∃ i input current backup began,
        action = .advance i input ∧ current.ref = row.ref ∧ row.suspendedAt < began ∧
          world.threads[i]? = some (.workspace (.restoring current backup began))
  returns : ∀ i input ref, action = .advance i input →
    world.threads[i]? = some (.workspace (.deleteAudit ref)) →
      ∃ row ∈ world'.shared.hosting.workspaces, row.ref = ref ∧ row.status = .deleted

/-! ### The invariant -/

/-- A workspace that is suspended, being deleted or deleted. -/
def WorkspaceStatus.Halted (status : WorkspaceStatus) : Prop :=
  status = .suspended ∨ status = .deleting ∨ status = .deleted

/-- INVARIANT: keys are unique, every workspace has its tenant, and all workspaces of a tenant that
    is not active are halted. -/
structure Kept (s : ControlPlane) : Prop where
  tenants : (s.tenants.map TenantRow.id).Nodup
  refs : (s.hosting.workspaces.map CloudWorkspace.ref).Nodup
  owned : ∀ row ∈ s.hosting.workspaces, ∃ tenant ∈ s.tenants, tenant.id = row.ref.tenantId
  halted : ∀ tenant ∈ s.tenants, tenant.status ≠ .active →
    ∀ row ∈ s.hosting.workspaces, row.ref.tenantId = tenant.id → row.status.Halted
  deleted : ∀ row ∈ s.hosting.workspaces, row.status = .deleted → row.deploymentRef = none
  quota : ∀ tenant ∈ s.tenants, workspaceCount s.hosting tenant.id ≤ tenant.maxWorkspaces

theorem Kept.settled {s : ControlPlane} (h : Kept s) : Settled s where
  suspended tenant htenant hstatus row hrow href hready := by
    have hhalted := h.halted tenant htenant (by simp [hstatus]) row hrow href
    simp [WorkspaceStatus.Halted, hready] at hhalted
  deleted := h.deleted
  quota := h.quota

variable {runtime : CloudRuntime} {s s' : ControlPlane} {call : Thread} {input : Input}

/-- What a guarded step does to a workspace. -/
structure Fits (s : ControlPlane) (call : Thread) (row row' : CloudWorkspace) : Prop where
  ref : row'.ref = row.ref
  alive : row.status ≠ .deleted
  gone : row'.status = .deleted → row'.deploymentRef = none
  halted : ∀ tenant ∈ s.tenants, tenant.status ≠ .active → row.ref.tenantId = tenant.id →
    row'.status.Halted
  restored : row.status = .suspended → row'.status = .ready ∧ ∃ current backup began,
    call = .workspace (.restoring current backup began) ∧ current.ref = row.ref ∧
      row.suspendedAt < began

theorem TenantActive.not_halted {tenantId : String} (h : TenantActive s tenantId)
    {tenant : TenantRow} (htenant : tenant ∈ s.tenants) (hstatus : tenant.status ≠ .active) :
    tenantId ≠ tenant.id :=
  fun hid => hstatus (h tenant htenant hid.symm)

/-- A workspace that is not halted has an active tenant. -/
theorem Kept.active (h : Kept s) {row : CloudWorkspace} (hrow : row ∈ s.hosting.workspaces)
    (hstatus : ¬ row.status.Halted) : TenantActive s row.ref.tenantId := by
  intro tenant htenant hid
  by_contra hactive
  exact hstatus (h.halted tenant htenant hactive row hrow hid.symm)

/-- STEP: the changes of a guarded step fit. -/
theorem Changes.fits (hkept : Kept s) (hguard : Guarded runtime s call input)
    {row row' : CloudWorkspace} (hrow : row ∈ s.hosting.workspaces)
    (h : Changes runtime s.moment call input row row') :
    Fits s call row row' := by
  have hfits : ∀ row' : CloudWorkspace, row'.ref = row.ref → TenantActive s row.ref.tenantId →
      row.status ≠ .deleted → row.status ≠ .suspended → row'.status ≠ .deleted →
        Fits s call row row' := by
    intro row' href hactive hdeleted hsuspended hdeleted'
    exact ⟨href, hdeleted, fun h => absurd h hdeleted', fun tenant htenant hstatus hid =>
      absurd hid (hactive.not_halted htenant hstatus), fun h => absurd h hsuspended⟩
  have hactive : ¬ row.status.Halted → TenantActive s row.ref.tenantId := hkept.active hrow
  cases h with
  | provisioned by' found answered =>
    exact hfits _ rfl (hactive (by simp [found, WorkspaceStatus.Halted])) (by simp [found])
      (by simp [found]) (by simp [CloudWorkspace.deployed])
  | provisionFailed by' found =>
    exact hfits _ rfl (hactive (by simp [found, WorkspaceStatus.Halted])) (by simp [found])
      (by simp [found]) (by simp)
  | rotated by' ref found checked =>
    exact hfits _ rfl (hactive (by simp [found, WorkspaceStatus.Halted])) (by simp [found])
      (by simp [found]) (by simp [found])
  | @reconciled current answer by' ref answered writes =>
    subst by'
    obtain ⟨htenant, hstatus⟩ := hguard writes
    obtain ⟨hsuspended, hdeleted⟩ := hstatus row hrow ref
    exact hfits _ rfl (ref ▸ htenant) hdeleted hsuspended (by simp [CloudWorkspace.deployed])
  | @reconcileMark current by' ref writes =>
    subst by'
    obtain ⟨htenant, hstatus⟩ := hguard writes
    obtain ⟨hsuspended, hdeleted⟩ := hstatus row hrow ref
    exact hfits _ rfl (ref ▸ htenant) hdeleted hsuspended (by simp)
  | reconcileFailed by' writes =>
    subst by'
    obtain ⟨htenant, hstatus⟩ := hguard writes
    obtain ⟨hsuspended, hdeleted⟩ := hstatus row hrow rfl
    exact hfits _ rfl htenant hdeleted hsuspended (by simp)
  | @restored current backup began answer by' ref answered writes =>
    subst by'
    obtain ⟨htenant, hstatus⟩ := hguard writes
    obtain ⟨hdeleted, hsuspended⟩ := hstatus row hrow ref
    exact ⟨rfl, hdeleted, by simp [CloudWorkspace.deployed], fun tenant hmem hinactive hid =>
      absurd (ref ▸ hid) (htenant.not_halted hmem hinactive), fun h =>
        ⟨rfl, current, backup, began, rfl, ref.symm, hsuspended h⟩⟩
  | deleting found =>
    exact hfits _ rfl (hactive (by simp [found, WorkspaceStatus.Halted])) (by simp [found])
      (by simp [found]) (by simp)
  | deleted found =>
    exact ⟨rfl, by simp [found], fun _ => rfl, fun _ _ _ _ => .inr (.inr rfl), by simp [found]⟩
  | suspended found =>
    exact ⟨rfl, by simp [found], by simp, fun _ _ _ _ => .inl rfl, by simp [found]⟩

/-! ### What a step keeps -/

theorem Kept.alters (hkept : Kept s) (hguard : Guarded runtime s call input)
    (htenants : s'.tenants = s.tenants)
    (halters : Alters runtime s.moment call input s.hosting.workspaces s'.hosting.workspaces) :
    Kept s' := by
  obtain ⟨f, hrows, hf⟩ := halters
  have hfits : ∀ row ∈ s.hosting.workspaces, f row = row ∨ Fits s call row (f row) :=
    fun row hrow => (hf row).imp id fun h => h.fits hkept hguard hrow
  have href : ∀ row ∈ s.hosting.workspaces, (f row).ref = row.ref := fun row hrow =>
    (hfits row hrow).elim (congrArg _) Fits.ref
  refine ⟨htenants ▸ hkept.tenants, ?_, ?_, ?_, ?_, ?_⟩
  · rw [hrows, List.map_map]
    have hmap : s.hosting.workspaces.map (CloudWorkspace.ref ∘ f) =
        s.hosting.workspaces.map CloudWorkspace.ref := List.map_congr_left href
    exact hmap ▸ hkept.refs
  · rw [hrows, htenants]
    intro row' hrow'
    obtain ⟨row, hrow, rfl⟩ := List.mem_map.1 hrow'
    rw [href row hrow]
    exact hkept.owned row hrow
  · rw [hrows, htenants]
    intro tenant htenant hstatus row' hrow' hid
    obtain ⟨row, hrow, rfl⟩ := List.mem_map.1 hrow'
    rw [href row hrow] at hid
    rcases hfits row hrow with heq | hfit
    · exact heq.symm ▸ hkept.halted tenant htenant hstatus row hrow hid
    · exact hfit.halted tenant htenant hstatus hid
  · rw [hrows]
    intro row' hrow' hdeleted
    obtain ⟨row, hrow, rfl⟩ := List.mem_map.1 hrow'
    rcases hfits row hrow with heq | hfit
    · rw [heq] at hdeleted ⊢
      exact hkept.deleted row hrow hdeleted
    · exact hfit.gone hdeleted
  · rw [htenants]
    intro tenant htenant
    refine le_trans ?_ (hkept.quota tenant htenant)
    rw [workspaceCount, workspaceCount, hrows, List.countP_map]
    refine List.countP_mono_left fun row hrow hcounted => ?_
    simp only [Function.comp_apply, decide_eq_true_eq, href row hrow] at hcounted ⊢
    refine ⟨hcounted.1, ?_⟩
    rcases hfits row hrow with heq | hfit
    · exact heq ▸ hcounted.2
    · exact hfit.alive

theorem Kept.createTenant (hkept : Kept s) {row : TenantRow}
    (hfresh : ∀ other ∈ s.tenants, other.id ≠ row.id) (hactive : row.status = .active)
    (htenants : s'.tenants = s.tenants ++ [row])
    (hrows : s'.hosting.workspaces = s.hosting.workspaces) : Kept s' := by
  refine ⟨?_, hrows ▸ hkept.refs, ?_, ?_, hrows ▸ hkept.deleted, ?_⟩
  · rw [htenants, List.map_append, List.nodup_append]
    refine ⟨hkept.tenants, by simp, ?_⟩
    intro id hid id' hid' heq
    obtain ⟨other, hother, rfl⟩ := List.mem_map.1 hid
    exact hfresh other hother (heq.trans (by simpa using hid'))
  · rw [hrows, htenants]
    intro workspace hworkspace
    obtain ⟨tenant, htenant, hid⟩ := hkept.owned workspace hworkspace
    exact ⟨tenant, List.mem_append_left _ htenant, hid⟩
  · rw [hrows, htenants]
    intro tenant htenant hstatus
    rcases List.mem_append.1 htenant with hold | hnew
    · exact hkept.halted tenant hold hstatus
    · rw [List.mem_singleton.1 hnew] at hstatus
      exact absurd hactive hstatus
  · rw [htenants]
    intro tenant htenant
    rw [workspaceCount, hrows]
    rcases List.mem_append.1 htenant with hold | hnew
    · exact hkept.quota tenant hold
    · have hnone : s.hosting.workspaces.countP (fun workspace =>
          workspace.ref.tenantId = tenant.id ∧ workspace.status ≠ .deleted) = 0 := by
        rw [List.countP_eq_zero]
        intro workspace hworkspace hcounted
        obtain ⟨owner, howner, hid⟩ := hkept.owned workspace hworkspace
        simp only [decide_eq_true_eq, List.mem_singleton.1 hnew] at hcounted
        exact hfresh owner howner (hid.trans hcounted.1)
      rw [hnone]
      exact Nat.zero_le _

theorem suspendable_eq_false {status : WorkspaceStatus} (h : suspendable status = false) :
    status.Halted := by
  cases status <;> simp [suspendable, WorkspaceStatus.Halted] at h ⊢

theorem Kept.suspendTenant (hkept : Kept s) {tenantId : String}
    (htenants : s'.tenants = updateWhere s.tenants
      (fun row => row.id = tenantId ∧ row.status = .active) suspendedTenant)
    (hrows : s'.hosting.workspaces = updateWhere s.hosting.workspaces
      (fun row => row.ref.tenantId = tenantId ∧ suspendable row.status) fun row =>
        { row with status := .suspended, suspendedAt := s.moment }) : Kept s' := by
  refine ⟨?_, ?_, ?_, ?_, ?_, ?_⟩
  · rw [htenants, updateWhere_map (f := suspendedTenant) _ _ TenantRow.id fun _ => rfl]
    exact hkept.tenants
  · have hrefs := updateWhere_map (f := fun row : CloudWorkspace =>
      { row with status := .suspended, suspendedAt := s.moment }) s.hosting.workspaces
      (fun row => row.ref.tenantId = tenantId ∧ suspendable row.status) CloudWorkspace.ref fun _ => rfl
    exact hrows ▸ hrefs ▸ hkept.refs
  · rw [hrows, htenants]
    intro row' hrow'
    have howned : ∃ tenant ∈ s.tenants, tenant.id = row'.ref.tenantId := by
      rcases mem_updateWhere hrow' with ⟨hold, -⟩ | ⟨row, hold, -, rfl⟩
      · exact hkept.owned row' hold
      · exact hkept.owned row hold
    obtain ⟨tenant, htenant, hid⟩ := howned
    obtain ⟨tenant', htenant', hid'⟩ := updateWhere_keeps
      (p := fun row : TenantRow => row.id = tenantId ∧ row.status = .active)
      (f := suspendedTenant) (R := fun row row' => row'.id = row.id) (fun _ => rfl)
      (fun _ _ => rfl) tenant htenant
    exact ⟨tenant', htenant', hid'.trans hid⟩
  · rw [hrows, htenants]
    intro tenant htenant hstatus row' hrow' hid
    rcases mem_updateWhere hrow' with ⟨hrow, hkeeps⟩ | ⟨row, -, -, rfl⟩
    · rcases mem_updateWhere htenant with ⟨hold, -⟩ | ⟨old, -, ⟨hold, -⟩, rfl⟩
      · exact hkept.halted tenant hold hstatus row' hrow hid
      · refine suspendable_eq_false (Bool.eq_false_iff.2 fun hsuspendable => hkeeps ⟨?_, hsuspendable⟩)
        exact hid.trans hold
    · exact .inl rfl
  · rw [hrows]
    intro row' hrow' hdeleted
    rcases mem_updateWhere hrow' with ⟨hrow, -⟩ | ⟨row, -, -, rfl⟩
    · exact hkept.deleted row' hrow hdeleted
    · simp at hdeleted
  · rw [htenants]
    intro tenant htenant
    have hquota : workspaceCount s.hosting tenant.id ≤ tenant.maxWorkspaces := by
      rcases mem_updateWhere htenant with ⟨hold, -⟩ | ⟨old, hold, -, rfl⟩
      · exact hkept.quota tenant hold
      · exact hkept.quota old hold
    refine le_trans ?_ hquota
    rw [workspaceCount, workspaceCount, hrows, updateWhere, List.countP_map]
    refine List.countP_mono_left fun row _ hcounted => ?_
    simp only [Function.comp_apply, decide_eq_true_eq] at hcounted ⊢
    split at hcounted
    · rename_i hrow
      refine ⟨hcounted.1, fun hdeleted => ?_⟩
      simp [hdeleted, suspendable] at hrow
    · exact hcounted

theorem Kept.provision (hkept : Kept s) {tenant : TenantRow} {pending : CloudWorkspace}
    (hfound : s.tenantOf pending.ref.tenantId = some tenant) (hactive : tenant.status = .active)
    (hquota : workspaceCount s.hosting pending.ref.tenantId < tenant.maxWorkspaces)
    (hfresh : ∀ other ∈ s.hosting.workspaces, other.ref ≠ pending.ref)
    (hstatus : pending.status = .provisioning) (htenants : s'.tenants = s.tenants)
    (hrows : s'.hosting.workspaces = s.hosting.workspaces ++ [pending]) : Kept s' := by
  have htenant := List.mem_of_find?_eq_some hfound
  have hid : tenant.id = pending.ref.tenantId := by simpa using List.find?_some hfound
  have hsame : ∀ other ∈ s.tenants, other.id = pending.ref.tenantId → other = tenant :=
    fun other hother heq => List.inj_on_of_nodup_map hkept.tenants hother htenant
      (heq.trans hid.symm)
  refine ⟨htenants ▸ hkept.tenants, ?_, ?_, ?_, ?_, ?_⟩
  · rw [hrows, List.map_append, List.nodup_append]
    refine ⟨hkept.refs, by simp, ?_⟩
    intro ref href ref' href' heq
    obtain ⟨other, hother, rfl⟩ := List.mem_map.1 href
    exact hfresh other hother (heq.trans (by simpa using href'))
  · rw [hrows, htenants]
    intro row hrow
    rcases List.mem_append.1 hrow with hold | hnew
    · exact hkept.owned row hold
    · rw [List.mem_singleton.1 hnew]
      exact ⟨tenant, htenant, hid⟩
  · rw [hrows, htenants]
    intro other hother hinactive row hrow heq
    rcases List.mem_append.1 hrow with hold | hnew
    · exact hkept.halted other hother hinactive row hold heq
    · rw [List.mem_singleton.1 hnew] at heq
      exact absurd (hsame other hother heq.symm ▸ hactive) hinactive
  · rw [hrows]
    intro row hrow hdeleted
    rcases List.mem_append.1 hrow with hold | hnew
    · exact hkept.deleted row hold hdeleted
    · rw [List.mem_singleton.1 hnew, hstatus] at hdeleted
      simp at hdeleted
  · rw [htenants]
    intro other hother
    have hold := hkept.quota other hother
    rw [workspaceCount, hrows, List.countP_append, List.countP_singleton]
    split
    · rename_i hcounted
      have heq : pending.ref.tenantId = other.id := by
        simp only [decide_eq_true_eq] at hcounted
        exact hcounted.1
      have hother' := hsame other hother heq.symm
      rw [hother', ← heq.trans (congrArg _ hother')]
      exact hquota
    · exact hold

/-- STEP: a guarded step keeps the invariant. -/
theorem Kept.moves (hkept : Kept s) (hguard : Guarded runtime s call input)
    (h : Moves runtime s call input s') : Kept s' := by
  cases h with
  | alters tenants workspaces => exact hkept.alters hguard tenants workspaces
  | createTenant row fresh active tenants workspaces =>
    exact hkept.createTenant fresh active tenants workspaces
  | suspendTenant tenantId tenants workspaces => exact hkept.suspendTenant tenants workspaces
  | provision tenant pending found active quota fresh status deployment tenants workspaces =>
    exact hkept.provision found active quota fresh status tenants workspaces

/-- What becomes of a workspace in a guarded step. -/
def Becomes (s : ControlPlane) (call : Thread) (row row' : CloudWorkspace) : Prop :=
  row' = row ∨ Fits s call row row' ∨ suspendable row.status ∧ row'.status = .suspended

/-- STEP: every workspace stays, as it was or as the step changes it. -/
theorem Moves.becomes (hkept : Kept s) (hguard : Guarded runtime s call input)
    (h : Moves runtime s call input s') {row : CloudWorkspace}
    (hrow : row ∈ s.hosting.workspaces) :
    ∃ row' ∈ s'.hosting.workspaces, row'.ref = row.ref ∧ Becomes s call row row' := by
  cases h with
  | alters tenants workspaces =>
    obtain ⟨f, hrows, hf⟩ := workspaces
    refine ⟨f row, hrows ▸ List.mem_map_of_mem hrow, ?_⟩
    rcases hf row with heq | hchanges
    · exact ⟨congrArg _ heq, .inl heq⟩
    · exact ⟨hchanges.ref_eq, .inr (.inl (hchanges.fits hkept hguard hrow))⟩
  | createTenant tenant fresh active tenants workspaces =>
    exact ⟨row, workspaces ▸ hrow, rfl, .inl rfl⟩
  | suspendTenant tenantId tenants workspaces =>
    refine workspaces ▸ updateWhere_keeps
      (p := fun row : CloudWorkspace => row.ref.tenantId = tenantId ∧ suspendable row.status)
      (f := fun row : CloudWorkspace =>
        { row with status := .suspended, suspendedAt := s.moment })
      (R := fun row row' : CloudWorkspace => row'.ref = row.ref ∧ Becomes s call row row')
      (fun _ => ⟨rfl, .inl rfl⟩) (fun old hold => ⟨rfl, .inr (.inr ⟨hold.2, rfl⟩)⟩) row hrow
  | provision tenant pending found active quota fresh status deployment tenants workspaces =>
    exact ⟨row, workspaces ▸ List.mem_append_left _ hrow, rfl, .inl rfl⟩

/-- STEP: the same, of the row with the workspace's key. -/
theorem Moves.row_becomes (hkept : Kept s) (hguard : Guarded runtime s call input)
    (h : Moves runtime s call input s') {row row' : CloudWorkspace}
    (hrow : row ∈ s.hosting.workspaces) (hrow' : row' ∈ s'.hosting.workspaces)
    (href : row'.ref = row.ref) : Becomes s call row row' := by
  obtain ⟨other, hother, heq, hbecomes⟩ := h.becomes hkept hguard hrow
  have hsame : row' = other := List.inj_on_of_nodup_map (hkept.moves hguard h).refs hrow' hother
    (href.trans heq.symm)
  exact hsame ▸ hbecomes

/-- STEP: a deleted workspace stays deleted. -/
theorem Becomes.deleted {row row' : CloudWorkspace} (h : Becomes s call row row')
    (hdeleted : row.status = .deleted) : row'.status = .deleted := by
  rcases h with rfl | hfit | ⟨hsuspendable, -⟩
  · exact hdeleted
  · exact absurd hdeleted hfit.alive
  · simp [hdeleted, suspendable] at hsuspendable

/-- A workspace that a deletion will report is deleted. -/
def Reported (s : ControlPlane) (call : Thread) : Prop :=
  ∀ ref, call = .workspace (.deleteAudit ref) →
    ∃ row ∈ s.hosting.workspaces, row.ref = ref ∧ row.status = .deleted

theorem Reported.moves {other : Thread} (hkept : Kept s) (hguard : Guarded runtime s call input)
    (h : Moves runtime s call input s') (hreported : Reported s other) : Reported s' other := by
  intro ref hother
  obtain ⟨row, hrow, href, hdeleted⟩ := hreported ref hother
  obtain ⟨row', hrow', heq, hbecomes⟩ := h.becomes hkept hguard hrow
  exact ⟨row', hrow', heq.trans href, hbecomes.deleted hdeleted⟩

/-- STEP: a call that goes on to report a deletion has just deleted the workspace. -/
theorem reported_move (runtime : CloudRuntime) (s : ControlPlane) (call : Thread) (input : Input)
    (hguard : Guarded runtime s call input) :
    Reported (s.move runtime call input).1 (s.move runtime call input).2 := by
  intro ref hnext
  cases call with
  | start request began =>
    by_cases hissue : ∃ issue, request = .issueHumanSession issue
    · obtain ⟨issue, rfl⟩ := hissue
      refine absurd hnext ?_
      refine statement_thread_rule (P := fun t => t ≠ .workspace (.deleteAudit ref))
        (fun _ => by simp) fun _ _ _ => by simp
    · exact absurd hnext ((begin_plain fun issue heq => hissue ⟨issue, heq⟩).ne_deleteAudit ref)
  | workspace call =>
    obtain ⟨current, rfl, href, hwrites, hhosting⟩ :=
      WorkspaceCall.move_deleteAudit runtime s.hosting hnext
    obtain ⟨row, hrow, hrowRef, hstatus⟩ := hguard hwrites
    simp only [move, onHosting, hhosting]
    refine ⟨if row.ref = current.ref ∧ row.status = .deleting then row.gone else row,
      ?_, ?_, ?_⟩
    · refine List.mem_map.2 ⟨row, hrow, ?_⟩
      simp only [decide_eq_true_eq]
    · split <;> exact hrowRef.trans href
    · split
      · rfl
      · rename_i hnot
        exact hstatus.resolve_left fun h => hnot ⟨hrowRef, h⟩
  | identity call =>
    exact absurd hnext ((IdentityCall.move_plain runtime s.identities call input).ne_deleteAudit ref)
  | done outcome => exact absurd hnext (by simp [move])
  | thrown error => exact absurd hnext (by simp [move])

/-! ### Runs -/

/-- INVARIANT: of the database and of every call. -/
abbrev Orderly (world : World ControlPlane Thread) : Prop :=
  Holds (fun _ => Kept) (fun s _ call => Reported s call) world

/-- RUN: the invariant holds in every guarded run. -/
theorem orderly_run (runtime : CloudRuntime) {actions : List (Action Request Input)}
    (halong : Along (controlPlane runtime).step (Meets (Guarded runtime)) opening actions) :
    Orderly (run (controlPlane runtime).step opening actions) := by
  refine holds_run ?_ ?_ halong ⟨?_, by simp [opening]⟩
  · intro _ s request hkept
    exact ⟨hkept, fun ref h => by simp [controlPlane] at h⟩
  · intro _ s i call input _ hkept _ hguard
    have hmoves := move_moves runtime s call input
    have hnext := hkept.moves hguard hmoves
    refine ⟨⟨hnext.1, hnext.2, hnext.3, hnext.4, hnext.5, hnext.6⟩,
      reported_move runtime s call input hguard, ?_⟩
    intro _ other _ hreported
    have hother := hreported.moves hkept hguard hmoves
    exact hother
  · exact ⟨by simp [opening, ControlPlane.opening], by simp [opening, ControlPlane.opening],
      by simp [opening, ControlPlane.opening], by simp [opening, ControlPlane.opening],
      by simp [opening, ControlPlane.opening], by simp [opening, ControlPlane.opening]⟩

/-- STEP: what a guarded step does in a state of the invariant. -/
theorem follows_step (runtime : CloudRuntime) {world : World ControlPlane Thread}
    {action : Action Request Input} (horderly : Orderly world)
    (hmeets : Meets (Guarded runtime) world action) :
    Follows world action ((controlPlane runtime).step world action) := by
  obtain ⟨hkept, hcalls⟩ := horderly
  have hsame : ∀ row ∈ world.shared.hosting.workspaces,
      ∀ row' ∈ world.shared.hosting.workspaces, row'.ref = row.ref → row' = row :=
    fun row hrow row' hrow' href => List.inj_on_of_nodup_map hkept.refs hrow' hrow href
  cases action with
  | spawn request =>
    refine ⟨?_, ?_, by simp⟩
    · intro row hrow row' hrow' href hdeleted
      exact hsame row hrow row' hrow' href ▸ hdeleted
    · intro row hrow row' hrow' href hsuspended
      exact .inl (hsame row hrow row' hrow' href ▸ hsuspended)
  | advance i input =>
    cases hcall : world.threads[i]? with
    | none =>
      rw [step_advance_none input hcall]
      refine ⟨?_, ?_, ?_⟩
      · intro row hrow row' hrow' href hdeleted
        exact hsame row hrow row' hrow' href ▸ hdeleted
      · intro row hrow row' hrow' href hsuspended
        exact .inl (hsame row hrow row' hrow' href ▸ hsuspended)
      · intro j _ ref heq hthread
        obtain ⟨rfl, rfl⟩ := Action.advance.inj heq
        exact absurd (hcall.symm.trans hthread) (by simp)
    | some call =>
      have hmoves := move_moves runtime world.shared call input
      have hguard := hmeets call hcall
      rw [step_advance input hcall]
      refine ⟨?_, ?_, ?_⟩
      · intro row hrow row' hrow' href hdeleted
        exact (hmoves.row_becomes hkept hguard hrow hrow' href).deleted hdeleted
      · intro row hrow row' hrow' href hsuspended
        rcases hmoves.row_becomes hkept hguard hrow hrow' href with rfl | hfit | ⟨-, hstatus⟩
        · exact .inl hsuspended
        · obtain ⟨hready, current, backup, began, rfl, hcurrent, hbegan⟩ := hfit.restored hsuspended
          exact .inr ⟨hready, i, input, current, backup, began, rfl, hcurrent, hbegan, hcall⟩
        · exact .inl hstatus
      · intro j _ ref heq hthread
        obtain ⟨rfl, rfl⟩ := Action.advance.inj heq
        obtain rfl := Option.some.inj (hcall.symm.trans hthread)
        exact (hcalls i _ hcall).moves hkept hguard hmoves ref rfl

/-- CORRECT: in every run whose unguarded writes find the row as they need it, no workspace of a
    suspended tenant is ready and quotas hold; deleted workspaces stay deleted, suspended ones
    become ready by a later restore alone, and deletions are reported of deleted workspaces. -/
theorem workspace_lifecycle (runtime : CloudRuntime) {actions : List (Action Request Input)}
    {action : Action Request Input}
    (halong : Along (controlPlane runtime).step (Meets (Guarded runtime)) opening
      (actions ++ [action])) :
    let world := run (controlPlane runtime).step opening actions
    let world' := run (controlPlane runtime).step opening (actions ++ [action])
    Settled world.shared ∧ Settled world'.shared ∧ Follows world action world' := by
  intro world world'
  obtain ⟨hbefore, hmeets, -⟩ := along_append.1 halong
  have horderly := orderly_run runtime hbefore
  refine ⟨horderly.1.settled, (orderly_run runtime halong).1.settled, ?_⟩
  have hstep : world' = (controlPlane runtime).step world action := by
    simp only [world', world, run_append, run_cons, run_nil]
  rw [hstep]
  exact follows_step runtime horderly hmeets

/-- What the provider answers about a workspace that it has deployed. -/
def deployment : Input := { quiet with provisioned := some ⟨"d", "https://w.example/", ["a"]⟩ }

/-- A tenant whose workspace is being provisioned when a call reads it to reconcile it. -/
def reconcilingRun : List (Action Request Input) :=
  [.spawn (.createTenant ⟨"t", "t", "p", 1, 1, "o"⟩), .advance 0 quiet,
    .spawn (.provisionWorkspace ⟨⟨"t", "w"⟩, "r", "q"⟩), .advance 1 quiet,
    .spawn (.reconcileWorkspace ⟨"t", "w"⟩), .advance 2 quiet]

/-- The writes of a reconciliation find the workspace as it was read. -/
theorem reconciled_lifecycle :
    Settled (run (controlPlane plainRuntime).step opening
        (reconcilingRun ++ [.advance 2 quiet] ++ [.advance 2 deployment])).shared ∧
      ∃ row ∈ (run (controlPlane plainRuntime).step opening
        (reconcilingRun ++ [.advance 2 quiet] ++ [.advance 2 deployment])).shared.hosting.workspaces,
        row.status = .ready :=
  ⟨(workspace_lifecycle plainRuntime (by decide +kernel)).2.1, by decide +kernel⟩

/-- A workspace is ready although its tenant is suspended: the tenant was suspended after the read
    of a reconciliation and before its writes. -/
theorem suspended_tenant_ready :
    ¬ Settled (run (controlPlane plainRuntime).step opening (reconcilingRun ++
      [.spawn (.suspendTenant "t" "t"), .advance 3 quiet, .advance 2 quiet,
        .advance 2 deployment])).shared := by
  intro h
  have hready : ∃ tenant ∈ (run (controlPlane plainRuntime).step opening (reconcilingRun ++
      [.spawn (.suspendTenant "t" "t"), .advance 3 quiet, .advance 2 quiet,
        .advance 2 deployment])).shared.tenants, tenant.status = .suspended ∧
      ∃ row ∈ (run (controlPlane plainRuntime).step opening (reconcilingRun ++
        [.spawn (.suspendTenant "t" "t"), .advance 3 quiet, .advance 2 quiet,
          .advance 2 deployment])).shared.hosting.workspaces,
        row.ref.tenantId = tenant.id ∧ row.status = .ready := by
    decide +kernel
  obtain ⟨tenant, htenant, hstatus, row, hrow, href, hready⟩ := hready
  exact h.suspended tenant htenant hstatus row hrow href hready

end Tasq.Cloud
