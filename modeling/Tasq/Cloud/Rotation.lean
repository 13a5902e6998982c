import Mathlib.Tactic
import Tasq.Cloud.Workspaces

/-! The rotation of a workspace's credentials. A call reads the stored references long before it
    replaces them, and the update of the workspace may meet no row while the rotation becomes ready
    all the same.

    Where an installation finds the workspace as the call read it, a rotation that becomes ready has
    installed its references, no two rotations replace the same ones, and one that is reported
    failed has changed nothing. -/

namespace Tasq.Cloud

open Outcome Rows Threads Run ControlPlane

/-! ### The condition -/

/-- No rotation of the workspace has replaced these references. -/
def Unreplaced (s : ControlPlane) (ref : WorkspaceRef) (secretRefs : List String) : Prop :=
  ∀ commit ∈ s.hosting.commits, commit.workspace = ref → commit.previous ≠ secretRefs

/-- The workspace is ready with the references that the call read, or with those that this very
    rotation has replaced them by. -/
def Rotatable (runtime : CloudRuntime) (s : ControlPlane) (rotationId : String)
    (current : CloudWorkspace) : Prop :=
  ∃ row ∈ s.hosting.workspaces, row.ref = current.ref ∧ row.status = .ready ∧
    (row.secretRefs = current.secretRefs ∨ row.secretRefs = runtime.rotated rotationId ∧
      ⟨rotationId, current.ref, current.secretRefs⟩ ∈ s.hosting.commits)

/-- The provider hands out no references again that a rotation has replaced, an installation finds
    the workspace as it was read, and a failure is recorded of a rotation that is not ready. -/
def Unraced (runtime : CloudRuntime) (s : ControlPlane) (call : Thread) (input : Input) : Prop :=
  match call with
  | .workspace (.provisioning ref _ _) =>
    ∀ answer ∈ input.provisioned, Unreplaced s ref answer.secretRefs
  | .workspace (.reconciling current) =>
    ∀ answer ∈ input.provisioned, Unreplaced s current.ref answer.secretRefs
  | .workspace (.restoring current _ _) =>
    ∀ answer ∈ input.provisioned, Unreplaced s current.ref answer.secretRefs
  | .workspace (.rotating rotationId current) =>
    input.fault ≠ .before → input.answered = true →
      Rotatable runtime s rotationId current ∧
        Unreplaced s current.ref (runtime.rotated rotationId)
  | .workspace (.rotationFailed rotationId _) =>
    input.fault = .none → ∀ row ∈ s.hosting.rotations, row.id = rotationId → row.status ≠ .ready
  | _ => True

instance (s : ControlPlane) (ref : WorkspaceRef) (secretRefs : List String) :
    Decidable (Unreplaced s ref secretRefs) :=
  inferInstanceAs (Decidable (∀ commit ∈ s.hosting.commits, commit.workspace = ref →
    commit.previous ≠ secretRefs))

instance (runtime : CloudRuntime) (s : ControlPlane) (rotationId : String)
    (current : CloudWorkspace) : Decidable (Rotatable runtime s rotationId current) :=
  inferInstanceAs (Decidable (∃ row ∈ s.hosting.workspaces, row.ref = current.ref ∧
    row.status = .ready ∧ (row.secretRefs = current.secretRefs ∨
      row.secretRefs = runtime.rotated rotationId ∧
        ⟨rotationId, current.ref, current.secretRefs⟩ ∈ s.hosting.commits)))

instance (runtime : CloudRuntime) (s : ControlPlane) (call : Thread) (input : Input) :
    Decidable (Unraced runtime s call input) := by
  cases call with
  | workspace call => cases call <;> dsimp only [Unraced] <;> infer_instance
  | _ => exact isTrue trivial

/-! ### What a step does to a rotation -/

/-- A rotation that becomes ready has installed its references, rotations have replaced different
    ones, and one that a call reports as failed never became ready. -/
structure Rotates (world : World ControlPlane Thread) (action : Action Request Input)
    (world' : World ControlPlane Thread) : Prop where
  installed : ∀ row' ∈ world'.shared.hosting.rotations, row'.status = .ready →
    (∀ row ∈ world.shared.hosting.rotations, row.id = row'.id → row.status ≠ .ready) →
      ∃ workspace ∈ world'.shared.hosting.workspaces, workspace.ref = row'.workspace ∧
        row'.replacementRefs = some workspace.secretRefs
  exclusive : ∀ commit ∈ world'.shared.hosting.commits,
    ∀ other ∈ world'.shared.hosting.commits, other.workspace = commit.workspace →
      other.previous = commit.previous → other.rotationId = commit.rotationId
  failed : ∀ i input rotationId current, action = .advance i input →
    world.threads[i]? = some (.workspace (.rotationFailed rotationId current)) →
      world'.threads[i]? = some (.done (.rotation rotationId .failed current.secretRefs)) →
        ∀ commit ∈ world'.shared.hosting.commits, commit.rotationId ≠ rotationId

/-! ### What a step does to the rotations -/

/-- A rotation that failed. -/
def RotationRow.failed (row : RotationRow) : RotationRow := { row with status := .failed }

/-- What a step of a call does to the rotations and their history. -/
inductive Records (runtime : CloudRuntime) (h : Hosting) (call : Thread) (input : Input)
    (h' : Hosting) : Prop
  | same (rotations : h'.rotations = h.rotations) (commits : h'.commits = h.commits)
      (workspaces : ∀ rotationId current, call = .workspace (.rotating rotationId current) →
        h'.workspaces = h.workspaces)
  | inserted {rotationId : String} {current : CloudWorkspace} {row : RotationRow}
      (by' : call = .workspace (.rotationInsert rotationId current))
      (fresh : ∀ other ∈ h.rotations, other.id ≠ row.id) (id : row.id = rotationId)
      (workspace : row.workspace = current.ref) (status : row.status = .running)
      (rotations : h'.rotations = h.rotations ++ [row]) (commits : h'.commits = h.commits)
  | committed {rotationId : String} {current : CloudWorkspace}
      (by' : call = .workspace (.rotating rotationId current)) (fault : input.fault ≠ .before)
      (checked : Hosting.checkRotated runtime rotationId current input.answered =
        .ok (runtime.rotated rotationId))
      (eq : h' = h.commitRotation rotationId current (runtime.rotated rotationId))
  | failed {rotationId : String} {current : CloudWorkspace}
      (by' : call = .workspace (.rotationFailed rotationId current))
      (rotations : h'.rotations = updateWhere h.rotations
        (fun row => row.id = rotationId ∧ row.status ≠ .ready) RotationRow.failed)
      (commits : h'.commits = h.commits)

variable {runtime : CloudRuntime}

theorem checkRotated_eq_ok {rotationId : String} {current : CloudWorkspace} {answered : Bool}
    {secretRefs : List String}
    (h : Hosting.checkRotated runtime rotationId current answered = .ok secretRefs) :
    answered = true ∧ secretRefs = runtime.rotated rotationId ∧ secretRefs ≠ current.secretRefs := by
  simp only [Hosting.checkRotated, bind_eq_ok, refuse_eq_ok, pure_eq_ok, exists_const, not_not,
    not_exists, not_and] at h
  obtain ⟨hanswered, hvalid, hdisjoint, rfl⟩ := h
  refine ⟨by simpa using hanswered, rfl, fun heq => ?_⟩
  simp only [isSecretRefs, Bool.and_eq_true, decide_eq_true_eq] at hvalid
  obtain ⟨reference, hreference⟩ := List.exists_mem_of_ne_nil _ hvalid.1.1
  exact hdisjoint reference hreference (heq ▸ hreference)

/-- A statement that leaves rotations and history alone. -/
theorem Records.statement {α : Type} {h : Hosting} {call : Thread} {input : Input} {fault : Fault}
    {x : Call (Hosting × α)} {next : α → Thread} {failed : CloudError → Thread}
    (hcall : ∀ rotationId current, call ≠ .workspace (.rotating rotationId current))
    (hx : ∀ h' a, x = .ok (h', a) → h'.rotations = h.rotations ∧ h'.commits = h.commits) :
    Records runtime h call input (Cloud.statement h fault x next failed).1 := by
  refine statement_rule (P := Records runtime h call input) ?_ fun h' a ha => ?_
  · exact .same rfl rfl fun _ _ heq => absurd heq (hcall _ _)
  · exact .same (hx h' a ha).1 (hx h' a ha).2 fun _ _ heq => absurd heq (hcall _ _)

/-- STEP: what a workspace call does to the rotations. -/
theorem WorkspaceCall.move_records (runtime : CloudRuntime) (h : Hosting) (call : WorkspaceCall)
    (input : Input) : Records runtime h (.workspace call) input (call.move runtime h input).1 := by
  cases call
  case rotationInsert rotationId current =>
    refine statement_rule (P := Records runtime h _ input) (.same rfl rfl fun _ _ _ => rfl)
      fun h' _ hx => ?_
    simp only [Hosting.insertRotation, bind_eq_ok, pure_eq_ok, Prod.mk.injEq] at hx
    obtain ⟨_, ⟨rotations, hinsert, rfl⟩, rfl, -⟩ := hx
    obtain ⟨hfresh, rfl⟩ := insertRow_eq_ok.1 hinsert
    exact .inserted rfl hfresh rfl rfl rfl rfl rfl
  case rotating rotationId current =>
    simp only [WorkspaceCall.move]
    cases hfault : input.fault with
    | before =>
      refine .same ?_ ?_ fun _ _ _ => ?_ <;> (simp only [Cloud.statement]; split <;> simp_all)
    | _ =>
      refine statement_rule (P := Records runtime h _ input) (.same rfl rfl fun _ _ _ => rfl)
        fun h' _ hx => ?_
      simp only [bind_eq_ok, pure_eq_ok, Prod.mk.injEq] at hx
      obtain ⟨secretRefs, hchecked, rfl, -⟩ := hx
      obtain ⟨-, rfl, -⟩ := checkRotated_eq_ok hchecked
      exact .committed rfl (by simp [hfault]) hchecked rfl
  case rotationFailed rotationId current =>
    refine statement_rule (P := Records runtime h _ input) (.same rfl rfl fun _ _ _ => rfl)
      fun h' _ hx => ?_
    obtain ⟨rfl, -⟩ := Prod.ext_iff.1 (Except.ok.inj hx)
    refine .failed rfl ?_ rfl
    simp only [Hosting.setRotation, decide_eq_true_eq]
    rfl
  case backupInsert ref backupId lifetimeMs =>
    refine .statement (by simp) fun h' _ hx => ?_
    simp only [Hosting.requestBackup, bind_eq_ok] at hx
    obtain ⟨-, -, hx⟩ := hx
    split at hx
    · obtain ⟨rfl, -⟩ := Prod.ext_iff.1 (Except.ok.inj hx)
      exact ⟨rfl, rfl⟩
    · obtain ⟨rfl, -⟩ := Prod.ext_iff.1 (Except.ok.inj hx)
      exact ⟨rfl, rfl⟩
  case provisioning | reconciling | restoring | provisionRead | rotationLookup | backupLookup |
      backingUp | restoreRead | deleting =>
    refine .statement (by simp) fun h' _ hx => ?_
    simp only [bind_eq_ok, pure_eq_ok, Prod.mk.injEq] at hx
    grind [Hosting.setWorkspace, Hosting.commitRestore, Hosting.setBackup]
  all_goals
    refine .statement (by simp) fun h' _ hx => ?_
    obtain ⟨rfl, -⟩ := Prod.ext_iff.1 (Except.ok.inj hx)
    exact ⟨rfl, rfl⟩

/-- The rotations and their history are as they were. -/
def SameRotations (s s' : ControlPlane) : Prop :=
  s'.hosting.rotations = s.hosting.rotations ∧ s'.hosting.commits = s.hosting.commits

theorem createTenant_rotations {s s' : ControlPlane} {create : CreateTenant} {result : CallResult}
    (h : s.createTenant runtime create = .ok (s', result)) : SameRotations s s' := by
  simp only [createTenant, bind_eq_ok] at h
  obtain ⟨prior, -, h⟩ := h
  split at h
  · obtain ⟨rfl, -⟩ := Prod.ext_iff.1 (Except.ok.inj h)
    exact ⟨rfl, rfl⟩
  · simp only [bind_eq_ok, pure_eq_ok, Prod.mk.injEq] at h
    obtain ⟨-, -, tenants, -, committed, hcommit, rfl, -⟩ := h
    rw [commitExact_eq_ok hcommit]
    exact ⟨rfl, rfl⟩

theorem provisionIntent_rotations {s s' : ControlPlane} {provision : ProvisionWorkspace}
    {fresh : String} {answer : CallResult ⊕ CloudWorkspace}
    (h : s.provisionIntent runtime provision fresh = .ok (s', answer)) : SameRotations s s' := by
  simp only [provisionIntent, bind_eq_ok] at h
  obtain ⟨prior, -, h⟩ := h
  split at h
  · obtain ⟨rfl, -⟩ := Prod.ext_iff.1 (Except.ok.inj h)
    exact ⟨rfl, rfl⟩
  · simp only [bind_eq_ok, pure_eq_ok, Prod.mk.injEq] at h
    obtain ⟨-, -, -, -, -, -, workspaces, -, committed, hcommit, rfl, -⟩ := h
    rw [commitExact_eq_ok hcommit]
    exact ⟨rfl, rfl⟩

/-- STEP: the first statement of a call leaves the rotations alone. -/
theorem begin_rotations (runtime : CloudRuntime) (s : ControlPlane) (request : Request)
    (began : ℕ) (input : Input) : SameRotations s (s.begin runtime request began input).1 := by
  cases request with
  | createTenant create =>
    refine statement_rule (P := SameRotations s) ⟨rfl, rfl⟩ fun s' _ h => ?_
    simp only [bind_eq_ok] at h
    obtain ⟨-, -, h⟩ := h
    exact createTenant_rotations h
  | suspendTenant tenantId confirmation =>
    refine statement_rule (P := SameRotations s) ⟨rfl, rfl⟩ fun s' _ h => ?_
    simp only [suspendTenant, bind_eq_ok, pure_eq_ok, Prod.mk.injEq] at h
    obtain ⟨-, -, _, ⟨tenants, -, rfl⟩, rfl, -⟩ := h
    exact ⟨rfl, rfl⟩
  | provisionWorkspace provision =>
    refine statement_rule (P := SameRotations s) ⟨rfl, rfl⟩ fun s' _ h => ?_
    simp only [bind_eq_ok] at h
    obtain ⟨-, -, h⟩ := h
    exact provisionIntent_rotations h
  | suspendWorkspace ref =>
    refine statement_rule (P := fun h : Hosting => h.rotations = s.hosting.rotations ∧
      h.commits = s.hosting.commits) ⟨rfl, rfl⟩ fun h' _ hx => ?_
    simp only [bind_eq_ok, pure_eq_ok, suspendWorkspace, Prod.mk.injEq] at hx
    obtain ⟨-, -, rfl, -⟩ := hx
    exact ⟨rfl, rfl⟩
  | registerPrincipal register =>
    refine statement_rule (P := SameRotations s) ⟨rfl, rfl⟩ fun s' _ h => ?_
    simp only [bind_eq_ok] at h
    obtain ⟨-, -, h⟩ := h
    obtain ⟨-, hhosting⟩ := registerPrincipal_frame h
    exact ⟨congrArg _ hhosting, congrArg _ hhosting⟩
  | issueHumanSession issue =>
    refine statement_rule (P := SameRotations s) ⟨rfl, rfl⟩ fun s' _ h => ?_
    simp only [bind_eq_ok, pure_eq_ok, Prod.mk.injEq] at h
    obtain ⟨-, -, -, -, rfl, -⟩ := h
    exact ⟨rfl, rfl⟩
  | enrollDevice enroll => exact ⟨rfl, rfl⟩
  | revokeDevice tenantId deviceId expectedRevision => exact ⟨rfl, rfl⟩
  | recoverHuman tenantId principalId proofId => exact ⟨rfl, rfl⟩
  | _ =>
    refine statement_rule (P := SameRotations s) ⟨rfl, rfl⟩ fun s' _ h => ?_
    simp only [bind_eq_ok, pure_eq_ok, Prod.mk.injEq] at h
    obtain ⟨-, -, -, -, rfl, -⟩ := h
    exact ⟨rfl, rfl⟩

/-- STEP: what a step does to the rotations. -/
theorem move_records (runtime : CloudRuntime) (s : ControlPlane) (call : Thread) (input : Input) :
    Records runtime s.hosting call input (s.move runtime call input).1.hosting := by
  cases call with
  | start request began =>
    obtain ⟨hrotations, hcommits⟩ := begin_rotations runtime s request began input
    exact .same hrotations hcommits (by simp)
  | workspace call => exact call.move_records runtime s.hosting input
  | identity call => exact .same rfl rfl fun _ _ _ => rfl
  | done result => exact .same rfl rfl fun _ _ _ => rfl
  | thrown error => exact .same rfl rfl fun _ _ _ => rfl

/-! ### The invariant -/

/-- INVARIANT: rotation ids are unique, a rotation that was committed is ready, the references of a
    workspace that is ready have not been replaced, and rotations have replaced different ones. -/
structure Replaced (s : ControlPlane) : Prop where
  ids : (s.hosting.rotations.map RotationRow.id).Nodup
  ready : ∀ commit ∈ s.hosting.commits, ∃ row ∈ s.hosting.rotations, row.id = commit.rotationId ∧
    row.status = .ready
  current : ∀ row ∈ s.hosting.workspaces, row.status = .ready → Unreplaced s row.ref row.secretRefs
  exclusive : ∀ commit ∈ s.hosting.commits, ∀ other ∈ s.hosting.commits,
    other.workspace = commit.workspace → other.previous = commit.previous →
      other.rotationId = commit.rotationId

variable {s s' : ControlPlane} {call : Thread} {input : Input}

/-- What a guarded step that commits no rotation leaves in a workspace that is ready. -/
theorem Changes.unreplaced (hguard : Unraced runtime s call input)
    (hcall : ∀ rotationId current, call ≠ .workspace (.rotating rotationId current))
    {row row' : CloudWorkspace} (h : Changes runtime s.moment call input row row')
    (hready : row'.status = .ready) : Unreplaced s row'.ref row'.secretRefs := by
  cases h with
  | @provisioned region storageBindingId answer by' found answered =>
    subst by'
    exact hguard answer answered
  | @reconciled current answer by' ref answered writes =>
    subst by'
    exact ref ▸ hguard answer answered
  | @restored current backup began answer by' ref answered writes =>
    subst by'
    exact ref ▸ hguard answer answered
  | rotated by' ref found checked => exact absurd by' (hcall _ _)
  | provisionFailed by' found => simp at hready
  | reconcileMark by' ref writes => simp at hready
  | reconcileFailed by' writes => simp at hready
  | deleting found => simp at hready
  | deleted found => simp [CloudWorkspace.gone] at hready
  | suspended found => simp at hready

/-- Where no rotation is committed, the references of ready workspaces stay unreplaced. -/
theorem Moves.unreplaced (hreplaced : Replaced s) (hguard : Unraced runtime s call input)
    (hcall : ∀ rotationId current, call ≠ .workspace (.rotating rotationId current))
    (h : Moves runtime s call input s') {row : CloudWorkspace}
    (hrow : row ∈ s'.hosting.workspaces) (hready : row.status = .ready) :
    Unreplaced s row.ref row.secretRefs := by
  cases h with
  | alters tenants workspaces =>
    obtain ⟨f, hrows, hf⟩ := workspaces
    rw [hrows] at hrow
    obtain ⟨old, hold, rfl⟩ := List.mem_map.1 hrow
    rcases hf old with heq | hchanges
    · rw [heq] at hready ⊢
      exact hreplaced.current old hold hready
    · exact hchanges.unreplaced hguard hcall hready
  | createTenant tenant fresh active tenants workspaces =>
    exact hreplaced.current row (workspaces ▸ hrow) hready
  | suspendTenant tenantId tenants workspaces =>
    rw [workspaces] at hrow
    rcases mem_updateWhere hrow with ⟨hold, -⟩ | ⟨old, -, -, rfl⟩
    · exact hreplaced.current row hold hready
    · simp at hready
  | provision tenant pending found active quota fresh status deployment tenants workspaces =>
    rw [workspaces] at hrow
    rcases List.mem_append.1 hrow with hold | hnew
    · exact hreplaced.current row hold hready
    · rw [List.mem_singleton.1 hnew, status] at hready
      simp at hready

/-- The rotation that a call is about to install is there, and of the call's workspace. -/
def Prepared (s : ControlPlane) (call : Thread) : Prop :=
  ∀ rotationId current, call = .workspace (.rotating rotationId current) →
    (∃ row ∈ s.hosting.rotations, row.id = rotationId) ∧
      ∀ row ∈ s.hosting.rotations, row.id = rotationId → row.workspace = current.ref

/-- STEP: no rotation disappears, and none that is ready fails. -/
theorem Records.keeps {h h' : Hosting} (hrecords : Records runtime h call input h') :
    ∀ row ∈ h.rotations, ∃ row' ∈ h'.rotations, row'.id = row.id ∧
      (row.status = .ready → row'.status = .ready) := by
  cases hrecords with
  | same rotations => exact fun row hrow => ⟨row, rotations ▸ hrow, rfl, id⟩
  | inserted by' fresh id workspace status rotations =>
    exact fun row hrow => ⟨row, rotations ▸ List.mem_append_left _ hrow, rfl, fun h => h⟩
  | committed by' fault checked eq =>
    subst eq
    exact updateWhere_keeps (R := fun row row' : RotationRow => row'.id = row.id ∧
      (row.status = .ready → row'.status = .ready)) (fun _ => ⟨rfl, id⟩) fun _ _ => ⟨rfl, fun _ => rfl⟩
  | failed by' rotations =>
    rw [rotations]
    exact updateWhere_keeps (R := fun row row' : RotationRow => row'.id = row.id ∧
      (row.status = .ready → row'.status = .ready)) (fun _ => ⟨rfl, id⟩)
        fun row hrow => ⟨rfl, fun hready => absurd hready hrow.2⟩

/-- STEP: a rotation was there before, of the same workspace, or has a new id. -/
theorem Records.stems {h h' : Hosting} (hrecords : Records runtime h call input h')
    {row' : RotationRow} (hrow' : row' ∈ h'.rotations) :
    (∃ row ∈ h.rotations, row.id = row'.id ∧ row.workspace = row'.workspace) ∨
      ∀ row ∈ h.rotations, row.id ≠ row'.id := by
  cases hrecords with
  | same rotations => exact .inl ⟨row', rotations ▸ hrow', rfl, rfl⟩
  | inserted by' fresh id workspace status rotations =>
    rw [rotations] at hrow'
    rcases List.mem_append.1 hrow' with hold | hnew
    · exact .inl ⟨row', hold, rfl, rfl⟩
    · exact .inr (List.mem_singleton.1 hnew ▸ fresh)
  | committed by' fault checked eq =>
    subst eq
    rcases mem_updateWhere hrow' with ⟨hold, -⟩ | ⟨row, hold, -, rfl⟩
    · exact .inl ⟨row', hold, rfl, rfl⟩
    · exact .inl ⟨row, hold, rfl, rfl⟩
  | failed by' rotations =>
    rw [rotations] at hrow'
    rcases mem_updateWhere hrow' with ⟨hold, -⟩ | ⟨row, hold, -, rfl⟩
    · exact .inl ⟨row', hold, rfl, rfl⟩
    · exact .inl ⟨row, hold, rfl, rfl⟩

/-- STEP: rotation ids stay unique. -/
theorem Records.ids {h h' : Hosting} (hrecords : Records runtime h call input h')
    (hids : (h.rotations.map RotationRow.id).Nodup) :
    (h'.rotations.map RotationRow.id).Nodup := by
  cases hrecords with
  | same rotations => exact rotations ▸ hids
  | @inserted rotationId current row by' fresh id workspace status rotations =>
    rw [rotations, List.map_append, List.nodup_append]
    refine ⟨hids, by simp, ?_⟩
    intro id' hid' other hother heq
    obtain ⟨old, hold, rfl⟩ := List.mem_map.1 hid'
    exact fresh old hold (heq.trans (by simpa using hother))
  | @committed rotationId current by' fault checked eq =>
    subst eq
    have hmap := updateWhere_map (f := fun row : RotationRow => { row with
      status := .ready, replacementRefs := some (runtime.rotated rotationId) }) h.rotations
      (fun row => row.id = rotationId ∧ (fun _ => true) row.status) RotationRow.id fun _ => rfl
    exact hmap ▸ hids
  | @failed rotationId current by' rotations =>
    have hmap := updateWhere_map (f := RotationRow.failed) h.rotations
      (fun row => row.id = rotationId ∧ row.status ≠ .ready) RotationRow.id fun _ => rfl
    exact rotations ▸ hmap ▸ hids

/-- STEP: the rotation of another call is still there, and of its workspace. -/
theorem Prepared.records {other : Thread} (hprepared : Prepared s other)
    (hrecords : Records runtime s.hosting call input s'.hosting) : Prepared s' other := by
  intro rotationId current hother
  obtain ⟨⟨row, hrow, hid⟩, hworkspace⟩ := hprepared rotationId current hother
  obtain ⟨row', hrow', hid', -⟩ := hrecords.keeps row hrow
  refine ⟨⟨row', hrow', hid'.trans hid⟩, ?_⟩
  intro found hfound hfoundId
  rcases hrecords.stems hfound with ⟨old, hold, holdId, heq⟩ | hnone
  · exact heq.symm.trans (hworkspace old hold (holdId.trans hfoundId))
  · exact absurd (hid.trans hfoundId.symm) (hnone row hrow)

/-- A statement that leads on to some thread has completed. -/
theorem statement_completes {σ α : Type} {s : σ} {fault : Fault} {x : Call (σ × α)}
    {next : α → Thread} {failed : CloudError → Thread} {thread : Thread}
    (h : (statement s fault x next failed).2 = thread) (hfailed : ∀ e, failed e ≠ thread) :
    fault = .none ∧ ∃ s' a, x = .ok (s', a) ∧ next a = thread ∧
      (statement s fault x next failed).1 = s' := by
  cases x with
  | error e => exact absurd h (hfailed e)
  | ok result =>
    obtain ⟨s', a⟩ := result
    cases fault with
    | none => exact ⟨rfl, s', a, rfl, h, rfl⟩
    | before => exact absurd h (hfailed _)
    | after => exact absurd h (hfailed _)

/-- STEP: a workspace call goes on to install a rotation when it has found it or inserted it. -/
theorem WorkspaceCall.move_rotating (runtime : CloudRuntime) (h : Hosting) {call : WorkspaceCall}
    {input : Input} {rotationId : String} {current : CloudWorkspace}
    (hnext : (call.move runtime h input).2 = .workspace (.rotating rotationId current)) :
    ((∃ prior, h.findRotation rotationId = some prior ∧ prior.workspace = current.ref) ∧
        (call.move runtime h input).1 = h) ∨
      Hosting.insertRotation runtime h rotationId current = .ok (call.move runtime h input).1 := by
  cases call
  case rotationLookup rotationId' current' =>
    obtain ⟨-, h', next, hx, rfl, hstate⟩ := statement_completes hnext (by simp)
    simp only [bind_eq_ok, pure_eq_ok, Prod.mk.injEq] at hx
    obtain ⟨_, hlookup, rfl, rfl⟩ := hx
    rcases lookupRotation_cases hlookup with ⟨-, heq⟩ | ⟨prior, hfind, hworkspace, hnext⟩
    · simp at heq
    · rcases hnext with ⟨_, -, -, heq⟩ | ⟨-, heq⟩
      · simp at heq
      · simp only [Thread.workspace.injEq, WorkspaceCall.rotating.injEq] at heq
        obtain ⟨rfl, rfl⟩ := heq
        exact .inl ⟨⟨prior, hfind, hworkspace⟩, hstate⟩
  case rotationInsert rotationId' current' =>
    obtain ⟨-, h', _, hx, heq, hstate⟩ := statement_completes hnext (by simp)
    simp only [bind_eq_ok, pure_eq_ok, Prod.mk.injEq] at hx
    obtain ⟨_, hinsert, rfl, -⟩ := hx
    simp only [Thread.workspace.injEq, WorkspaceCall.rotating.injEq] at heq
    obtain ⟨rfl, rfl⟩ := heq
    exact .inr (hinsert.trans (congrArg _ hstate.symm))
  case deleting current' =>
    obtain ⟨-, h', _, hx, heq, hstate⟩ := statement_completes hnext (by simp)
    simp at heq
  all_goals exact absurd hnext ((WorkspaceCall.move_plain runtime h input (by simp) (by simp)
    (by simp)).ne_rotating rotationId current)

/-- STEP: a rotation that a call goes on to install is there, and of its workspace. -/
theorem prepared_move (runtime : CloudRuntime) (call : Thread) (input : Input)
    (hids : (s.hosting.rotations.map RotationRow.id).Nodup) :
    Prepared (s.move runtime call input).1 (s.move runtime call input).2 := by
  intro rotationId current hnext
  cases call with
  | start request began =>
    by_cases hissue : ∃ issue, request = .issueHumanSession issue
    · obtain ⟨issue, rfl⟩ := hissue
      obtain ⟨-, _, _, -, heq, -⟩ := statement_completes hnext (by simp)
      simp at heq
    · exact absurd hnext
        ((begin_plain fun issue heq => hissue ⟨issue, heq⟩).ne_rotating rotationId current)
  | workspace call =>
    simp only [move, onHosting]
    rcases WorkspaceCall.move_rotating runtime s.hosting hnext with ⟨⟨prior, hfind, hworkspace⟩, heq⟩ | hinsert
    · have hmem := List.mem_of_find?_eq_some hfind
      have hid : prior.id = rotationId := by simpa using List.find?_some hfind
      rw [heq]
      refine ⟨⟨prior, hmem, hid⟩, fun row hrow hrowId => ?_⟩
      have hsame : row = prior := List.inj_on_of_nodup_map hids hrow hmem (hrowId.trans hid.symm)
      exact hsame ▸ hworkspace
    · simp only [Hosting.insertRotation, bind_eq_ok, pure_eq_ok] at hinsert
      obtain ⟨rotations, hinsert, heq⟩ := hinsert
      obtain ⟨hfresh, rfl⟩ := insertRow_eq_ok.1 hinsert
      rw [← heq]
      refine ⟨⟨_, List.mem_append_right _ (List.mem_singleton_self _), rfl⟩, fun row hrow hid => ?_⟩
      rcases List.mem_append.1 hrow with hold | hnew
      · exact absurd hid (hfresh row hold)
      · rw [List.mem_singleton.1 hnew]
  | identity call =>
    exact absurd hnext
      ((IdentityCall.move_plain runtime s.identities call input).ne_rotating rotationId current)
  | done outcome => exact absurd hnext (by simp [move])
  | thrown error => exact absurd hnext (by simp [move])

theorem Unreplaced.of_commits {ref : WorkspaceRef} {secretRefs : List String}
    (h : Unreplaced s ref secretRefs) (hcommits : s'.hosting.commits = s.hosting.commits) :
    Unreplaced s' ref secretRefs := by
  intro commit hcommit
  exact h commit (hcommits ▸ hcommit)

/-- STEP: a commit under the condition keeps the invariant. -/
theorem Replaced.committed (hreplaced : Replaced s) {rotationId : String}
    {current : CloudWorkspace} {secretRefs : List String}
    (hfound : ∃ row ∈ s.hosting.rotations, row.id = rotationId)
    (hrotatable : ∀ commit ∈ s.hosting.commits, commit.workspace = current.ref →
      commit.previous = current.secretRefs → commit.rotationId = rotationId)
    (hfresh : Unreplaced s current.ref secretRefs) (hne : secretRefs ≠ current.secretRefs)
    (hids : ((s.hosting.commitRotation rotationId current secretRefs).rotations.map
      RotationRow.id).Nodup)
    (heq : s'.hosting = s.hosting.commitRotation rotationId current secretRefs) : Replaced s' := by
  have hcommits : ∀ commit ∈ s'.hosting.commits, commit ∈ s.hosting.commits ∨
      commit = ⟨rotationId, current.ref, current.secretRefs⟩ := by
    rw [heq]
    intro commit hcommit
    exact (List.mem_append.1 hcommit).imp id List.mem_singleton.1
  have hrotations : s'.hosting.rotations = updateWhere s.hosting.rotations
      (fun row => row.id = rotationId ∧ (fun _ => true) row.status) fun row => { row with
        status := .ready, replacementRefs := some secretRefs } := by rw [heq]; rfl
  refine ⟨heq ▸ hids, ?_, ?_, ?_⟩
  · intro commit hcommit
    rcases hcommits commit hcommit with hold | rfl
    · obtain ⟨row, hrow, hid, hready⟩ := hreplaced.ready commit hold
      obtain ⟨row', hrow', hid', hready'⟩ := updateWhere_keeps
        (p := fun row : RotationRow => row.id = rotationId ∧ (fun _ => true) row.status)
        (f := fun row : RotationRow => { row with
          status := .ready, replacementRefs := some secretRefs })
        (R := fun row row' : RotationRow => row'.id = row.id ∧
          (row.status = .ready → row'.status = .ready)) (fun _ => ⟨rfl, id⟩)
        (fun _ _ => ⟨rfl, fun _ => rfl⟩) row hrow
      exact ⟨row', hrotations ▸ hrow', hid'.trans hid, hready' hready⟩
    · obtain ⟨row, hrow, hid⟩ := hfound
      refine ⟨{ row with status := .ready, replacementRefs := some secretRefs },
        hrotations ▸ List.mem_map.2 ⟨row, hrow, ?_⟩, hid, rfl⟩
      simp [hid]
  · intro row hrow hready commit hcommit hworkspace
    have hrows : s'.hosting.workspaces = updateWhere s.hosting.workspaces
        (fun row => row.ref = current.ref ∧ decide (row.status = .ready)) fun row =>
          { row with secretRefs := secretRefs } := by rw [heq]; rfl
    rw [hrows] at hrow
    rcases mem_updateWhere hrow with ⟨hold, hother⟩ | ⟨old, hold, hmet, rfl⟩
    · rcases hcommits commit hcommit with hbefore | rfl
      · exact hreplaced.current row hold hready commit hbefore hworkspace
      · exact absurd ⟨hworkspace.symm, by simpa using hready⟩ hother
    · rcases hcommits commit hcommit with hbefore | rfl
      · exact hfresh commit hbefore (hworkspace.trans hmet.1)
      · exact hne.symm
  · intro commit hcommit other hother hworkspace hprevious
    rcases hcommits commit hcommit with hbefore | rfl
    · rcases hcommits other hother with hbefore' | rfl
      · exact hreplaced.exclusive commit hbefore other hbefore' hworkspace hprevious
      · exact (hrotatable commit hbefore hworkspace.symm hprevious.symm).symm
    · rcases hcommits other hother with hbefore' | rfl
      · exact hrotatable other hbefore' hworkspace hprevious
      · rfl

/-- STEP: the other changes of a step keep the invariant. -/
theorem Replaced.records (hreplaced : Replaced s)
    (hrecords : Records runtime s.hosting call input s'.hosting)
    (hcommits : s'.hosting.commits = s.hosting.commits)
    (hcurrent : ∀ row ∈ s'.hosting.workspaces, row.status = .ready →
      Unreplaced s row.ref row.secretRefs) : Replaced s' := by
  refine ⟨hrecords.ids hreplaced.ids, ?_, ?_, hcommits ▸ hreplaced.exclusive⟩
  · intro commit hcommit
    obtain ⟨row, hrow, hid, hready⟩ := hreplaced.ready commit (hcommits ▸ hcommit)
    obtain ⟨row', hrow', hid', hready'⟩ := hrecords.keeps row hrow
    exact ⟨row', hrow', hid'.trans hid, hready' hready⟩
  · intro row hrow hready
    exact (hcurrent row hrow hready).of_commits hcommits

/-- STEP: a step under the condition keeps the invariant. -/
theorem replaced_move (hreplaced : Replaced s) (hprepared : Prepared s call)
    (hguard : Unraced runtime s call input) : Replaced (s.move runtime call input).1 := by
  have hrecords := move_records runtime s call input
  have hmoves := move_moves runtime s call input
  by_cases hcall : ∀ rotationId current, call ≠ .workspace (.rotating rotationId current)
  · have hcurrent : ∀ row ∈ (s.move runtime call input).1.hosting.workspaces,
        row.status = .ready → Unreplaced s row.ref row.secretRefs :=
      fun row hrow hready => hmoves.unreplaced hreplaced hguard hcall hrow hready
    refine hreplaced.records hrecords ?_ hcurrent
    cases hrecords with
    | same rotations commits workspaces => exact commits
    | inserted by' fresh id workspace status rotations commits => exact commits
    | committed by' fault checked eq => exact absurd by' (hcall _ _)
    | failed by' rotations commits => exact commits
  · push Not at hcall
    obtain ⟨rotationId, current, rfl⟩ := hcall
    have hids := hrecords.ids hreplaced.ids
    cases hcase : hrecords with
    | same rotations commits workspaces =>
      refine hreplaced.records hrecords commits fun row hrow hready => ?_
      exact hreplaced.current row (workspaces rotationId current rfl ▸ hrow) hready
    | inserted by' => simp at by'
    | failed by' => simp at by'
    | committed by' fault checked eq =>
      simp only [Thread.workspace.injEq, WorkspaceCall.rotating.injEq] at by'
      obtain ⟨rfl, rfl⟩ := by'
      obtain ⟨hanswered, -, hne⟩ := checkRotated_eq_ok checked
      obtain ⟨⟨row, hrow, href, hready, hread⟩, hfresh⟩ := hguard fault hanswered
      refine hreplaced.committed (hprepared rotationId current rfl).1 ?_ hfresh hne (eq ▸ hids) eq
      intro commit hcommit hworkspace hprevious
      rcases hread with hread | ⟨-, hagain⟩
      · exact absurd (hprevious.trans hread.symm)
          (hreplaced.current row hrow hready commit hcommit (hworkspace.trans href.symm))
      · exact (hreplaced.exclusive commit hcommit _ hagain hworkspace.symm hprevious.symm).symm

/-! ### Runs -/

/-- INVARIANT: of the database and of every call. -/
abbrev Rotating (world : World ControlPlane Thread) : Prop :=
  Holds (fun _ => Replaced) (fun s _ call => Prepared s call) world

/-- RUN: the invariant holds in every run under the condition. -/
theorem rotating_run (runtime : CloudRuntime) {actions : List (Action Request Input)}
    (halong : Along (controlPlane runtime).step (Meets (Unraced runtime)) opening actions) :
    Rotating (run (controlPlane runtime).step opening actions) := by
  refine holds_run ?_ ?_ halong ⟨?_, by simp [opening]⟩
  · intro _ s request hreplaced
    exact ⟨hreplaced, fun _ _ h => by simp [controlPlane] at h⟩
  · intro _ s i call input _ hreplaced hprepared hguard
    have hnext := replaced_move hreplaced hprepared hguard
    have hown := prepared_move runtime call input hreplaced.ids
    refine ⟨⟨hnext.1, hnext.2, hnext.3, hnext.4⟩, hown, ?_⟩
    intro _ other _ hother
    have hothers := hother.records (move_records runtime s call input)
    exact hothers
  · exact ⟨by simp [opening, ControlPlane.opening], by simp [opening, ControlPlane.opening],
      by simp [opening, ControlPlane.opening], by simp [opening, ControlPlane.opening]⟩

/-- STEP: a rotation that becomes ready has installed its references. -/
theorem installed_move (runtime : CloudRuntime) (hprepared : Prepared s call)
    (hguard : Unraced runtime s call input) {row' : RotationRow}
    (hrow' : row' ∈ (s.move runtime call input).1.hosting.rotations) (hready : row'.status = .ready)
    (hbefore : ∀ row ∈ s.hosting.rotations, row.id = row'.id → row.status ≠ .ready) :
    ∃ workspace ∈ (s.move runtime call input).1.hosting.workspaces,
      workspace.ref = row'.workspace ∧ row'.replacementRefs = some workspace.secretRefs := by
  cases move_records runtime s call input with
  | same rotations => exact absurd hready (hbefore row' (rotations ▸ hrow') rfl)
  | inserted by' fresh id workspace status rotations =>
    rw [rotations] at hrow'
    rcases List.mem_append.1 hrow' with hold | hnew
    · exact absurd hready (hbefore row' hold rfl)
    · rw [List.mem_singleton.1 hnew, status] at hready
      simp at hready
  | @committed rotationId current by' fault checked eq =>
    subst by'
    obtain ⟨⟨workspace, hworkspace, href, hstatus, -⟩, -⟩ :=
      hguard fault (checkRotated_eq_ok checked).1
    rw [eq] at hrow' ⊢
    rcases mem_updateWhere hrow' with ⟨hold, -⟩ | ⟨row, hrow, hid, rfl⟩
    · exact absurd hready (hbefore row' hold rfl)
    · refine ⟨{ workspace with secretRefs := runtime.rotated rotationId },
        List.mem_map.2 ⟨workspace, hworkspace, ?_⟩, ?_, rfl⟩
      · simp [href, hstatus]
      · exact href.trans ((hprepared rotationId current rfl).2 row hrow hid.1).symm
  | failed by' rotations =>
    rw [rotations] at hrow'
    rcases mem_updateWhere hrow' with ⟨hold, -⟩ | ⟨row, -, -, rfl⟩
    · exact absurd hready (hbefore row' hold rfl)
    · simp [RotationRow.failed] at hready

/-- STEP: what a step under the condition does in a state of the invariant. -/
theorem rotates_step (runtime : CloudRuntime) {world : World ControlPlane Thread}
    {action : Action Request Input} (hrotating : Rotating world)
    (hmeets : Meets (Unraced runtime) world action)
    (hnext : Rotating ((controlPlane runtime).step world action)) :
    Rotates world action ((controlPlane runtime).step world action) := by
  refine ⟨?_, hnext.1.exclusive, ?_⟩
  · intro row' hrow' hready hbefore
    cases action with
    | spawn request => exact absurd hready (hbefore row' hrow' rfl)
    | advance i input =>
      cases hcall : world.threads[i]? with
      | none =>
        rw [step_advance_none input hcall] at hrow'
        exact absurd hready (hbefore row' hrow' rfl)
      | some call =>
        rw [step_advance input hcall] at hrow' ⊢
        exact installed_move runtime (hrotating.2 i call hcall) (hmeets call hcall) hrow' hready
          hbefore
  · rintro i input rotationId current rfl hthread hthread' commit hcommit hid
    rw [step_advance input hthread] at hthread' hcommit
    rw [List.getElem?_set_self (List.getElem?_eq_some_iff.1 hthread).1, Option.some.injEq] at hthread'
    have hreports : ((WorkspaceCall.rotationFailed rotationId current).move runtime
        world.shared.hosting input).2 =
          .done (.rotation rotationId .failed current.secretRefs) := hthread'
    obtain ⟨hfault, -⟩ := statement_completes hreports (by simp)
    have hcommits : ((controlPlane runtime).move world.shared
        (.workspace (.rotationFailed rotationId current)) input).1.hosting.commits =
          world.shared.hosting.commits := by
      cases move_records runtime world.shared (.workspace (.rotationFailed rotationId current))
        input with
      | same rotations commits => exact commits
      | inserted by' => simp at by'
      | committed by' => simp at by'
      | failed by' rotations commits => exact commits
    obtain ⟨row, hrow, hrowId, hready⟩ := hrotating.1.ready commit (hcommits ▸ hcommit)
    exact hmeets _ hthread hfault row hrow (hrowId.trans hid) hready

/-- CORRECT: in every run under the condition, a rotation that becomes ready has installed its
    references, no two have replaced the same ones, and one reported as failed has changed
    nothing. -/
theorem rotation_atomic (runtime : CloudRuntime) {actions : List (Action Request Input)}
    {action : Action Request Input}
    (halong : Along (controlPlane runtime).step (Meets (Unraced runtime)) opening
      (actions ++ [action])) :
    Rotates (run (controlPlane runtime).step opening actions) action
      (run (controlPlane runtime).step opening (actions ++ [action])) := by
  obtain ⟨hbefore, hmeets, -⟩ := along_append.1 halong
  have hnext := rotating_run runtime halong
  rw [run_append, run_cons, run_nil] at hnext ⊢
  exact rotates_step runtime (rotating_run runtime hbefore) hmeets hnext

/-- A tenant with a workspace that is ready, and a call that has begun to rotate its credentials. -/
def rotatingRun : List (Action Request Input) :=
  [.spawn (.createTenant ⟨"t", "t", "p", 1, 1, "o"⟩), .advance 0 quiet,
    .spawn (.provisionWorkspace ⟨⟨"t", "w"⟩, "r", "q"⟩), .advance 1 quiet,
    .advance 1 { quiet with provisioned := some ⟨"d", "https://w.example/", ["a"]⟩ },
    .spawn (.rotateWorkspaceCredentials ⟨"t", "w"⟩ "n"), .advance 2 quiet, .advance 2 quiet,
    .advance 2 quiet]

/-- The rotation installs its references in the workspace that it read. -/
theorem rotation_installs :
    Rotates (run (controlPlane plainRuntime).step opening rotatingRun)
        (.advance 2 { quiet with answered := true })
        (run (controlPlane plainRuntime).step opening
          (rotatingRun ++ [.advance 2 { quiet with answered := true }])) ∧
      (run (controlPlane plainRuntime).step opening
        (rotatingRun ++ [.advance 2 { quiet with answered := true }])).shared.hosting.commits =
          [⟨"n", ⟨"t", "w"⟩, ["a"]⟩] :=
  ⟨rotation_atomic plainRuntime (by decide +kernel), by decide +kernel⟩

/-- The workspace is suspended between the read and the installation: the rotation becomes ready,
    and the workspace keeps its references. -/
theorem suspended_rotation :
    ¬ Rotates
      (run (controlPlane plainRuntime).step opening
        (rotatingRun ++ [.spawn (.suspendWorkspace ⟨"t", "w"⟩), .advance 3 quiet]))
      (.advance 2 { quiet with answered := true })
      (run (controlPlane plainRuntime).step opening
        (rotatingRun ++ [.spawn (.suspendWorkspace ⟨"t", "w"⟩), .advance 3 quiet] ++
          [.advance 2 { quiet with answered := true }])) := by
  intro h
  obtain ⟨workspace, hworkspace, -, hrefs⟩ := h.installed
    ⟨"n", ⟨"t", "w"⟩, .ready, ["a"], some ["n"]⟩ (by decide +kernel) rfl (by decide +kernel)
  have hkept : ∀ workspace ∈ (run (controlPlane plainRuntime).step opening
      (rotatingRun ++ [.spawn (.suspendWorkspace ⟨"t", "w"⟩), .advance 3 quiet] ++
        [.advance 2 { quiet with answered := true }])).shared.hosting.workspaces,
      workspace.secretRefs = ["a"] := by
    decide +kernel
  rw [hkept workspace hworkspace] at hrefs
  exact absurd hrefs (by decide)

end Tasq.Cloud
