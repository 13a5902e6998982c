import Mathlib.Tactic
import Tasq.Cloud.Plain

/-! A session is dead once its device is revoked, its principal recovered or its tenant suspended:
    also a session that is inserted only later, by a call that had read its user before. -/

namespace Tasq.Cloud

open Outcome Rows Threads Run

/-- What a session has of its user, as the call that issued it had read it. -/
def SessionRow.identity (row : SessionRow) : IdentityRead where
  tenantId := row.tenantId
  principalId := row.principalId
  deviceId := row.deviceId
  sessionEpoch := row.tenantSessionEpoch
  recoveryRevision := row.principalRecoveryRevision
  issuedAt := row.issuedAt
  expiresAt := row.expiresAt
  readAt := row.readAt

/-! ### What a step does to tenants and users -/

/-- A tenant after some steps. -/
def TenantRow.After (row row' : TenantRow) : Prop :=
  row'.id = row.id ∧ (row.status ≠ .active → row'.status ≠ .active)

/-- A principal after some steps. -/
def PrincipalRow.After (row row' : PrincipalRow) : Prop :=
  row'.tenantId = row.tenantId ∧ row'.id = row.id ∧ row'.kind = row.kind ∧
    row.recoveryRevision ≤ row'.recoveryRevision

/-- A device after some steps. -/
def DeviceRow.After (row row' : DeviceRow) : Prop :=
  row'.tenantId = row.tenantId ∧ row'.id = row.id ∧
    (row.status = .revoked → row'.status = .revoked)

@[simp] theorem TenantRow.After.refl (row : TenantRow) : row.After row := ⟨rfl, fun h => h⟩

@[simp] theorem PrincipalRow.After.refl (row : PrincipalRow) : row.After row :=
  ⟨rfl, rfl, rfl, le_rfl⟩

@[simp] theorem DeviceRow.After.refl (row : DeviceRow) : row.After row := ⟨rfl, rfl, fun h => h⟩

/-- The keys of tenants, principals and devices are unique. -/
structure UniqueUsers (s : ControlPlane) : Prop where
  tenants : (s.tenants.map TenantRow.id).Nodup
  principals : (s.identities.principals.map fun row => (row.tenantId, row.id)).Nodup
  devices : (s.identities.devices.map fun row => (row.tenantId, row.id)).Nodup

/-- No tenant, principal or device is lost, and none is revived. -/
structure Later (s s' : ControlPlane) : Prop where
  tenants : ∀ row ∈ s.tenants, ∃ row' ∈ s'.tenants, row.After row'
  principals : ∀ row ∈ s.identities.principals, ∃ row' ∈ s'.identities.principals, row.After row'
  devices : ∀ row ∈ s.identities.devices, ∃ row' ∈ s'.identities.devices, row.After row'
  unique : UniqueUsers s → UniqueUsers s'

theorem Later.of_eq {s s' : ControlPlane} (htenants : s'.tenants = s.tenants)
    (hprincipals : s'.identities.principals = s.identities.principals)
    (hdevices : s'.identities.devices = s.identities.devices) : Later s s' where
  tenants row hrow := ⟨row, htenants ▸ hrow, .refl row⟩
  principals row hrow := ⟨row, hprincipals ▸ hrow, .refl row⟩
  devices row hrow := ⟨row, hdevices ▸ hrow, .refl row⟩
  unique h := ⟨htenants ▸ h.tenants, hprincipals ▸ h.principals, hdevices ▸ h.devices⟩

theorem Later.refl (s : ControlPlane) : Later s s := .of_eq rfl rfl rfl

namespace ControlPlane

variable {runtime : CloudRuntime} {s s' : ControlPlane}

theorem createTenant_later {input : CreateTenant} {result : CallResult}
    (h : s.createTenant runtime input = .ok (s', result)) :
    Later s s' ∧ s'.identities = s.identities := by
  simp only [createTenant, bind_eq_ok] at h
  obtain ⟨prior, -, h⟩ := h
  split at h
  · obtain ⟨rfl, -⟩ := Prod.ext_iff.1 (Except.ok.inj h)
    exact ⟨.refl s, rfl⟩
  · simp only [bind_eq_ok, pure_eq_ok, Prod.mk.injEq] at h
    obtain ⟨-, -, tenants, hinsert, committed, hcommit, rfl, -⟩ := h
    rw [commitExact_eq_ok hcommit]
    refine ⟨⟨?_, fun row hrow => ⟨row, hrow, .refl row⟩, fun row hrow => ⟨row, hrow, .refl row⟩,
      fun hs => ⟨?_, hs.principals, hs.devices⟩⟩, rfl⟩
    · intro row hrow
      obtain ⟨-, rfl⟩ := insertRow_eq_ok.1 hinsert
      exact ⟨row, List.mem_append_left _ hrow, .refl row⟩
    · exact insertRow_nodup hs.tenants (fun row hrow => .inl hrow) hinsert

theorem suspendTenant_eq_ok {tenantId : String} {now : ℕ}
    (h : s.suspendTenant tenantId now = .ok s') :
    (∃ row ∈ s.tenants, row.id = tenantId ∧ row.status = .active) ∧
      s'.tenants = s.tenants.map (fun row =>
        if row.id = tenantId ∧ row.status = .active then suspendedTenant row else row) ∧
      s'.identities = s.identities.sweep (fun row => row.tenantId = tenantId) now := by
  simp only [suspendTenant, bind_eq_ok, pure_eq_ok] at h
  obtain ⟨tenants, hupdate, rfl⟩ := h
  obtain ⟨-, htenants⟩ := updateRow_eq_ok.1 hupdate
  exact ⟨updateRow_found hupdate, htenants.symm, rfl⟩

theorem suspendTenant_later {tenantId : String} {now : ℕ}
    (h : s.suspendTenant tenantId now = .ok s') : Later s s' := by
  obtain ⟨-, htenants, hidentities⟩ := suspendTenant_eq_ok h
  refine ⟨?_, ?_, ?_, fun hs => ⟨?_, ?_, ?_⟩⟩
  · rw [htenants]
    exact updateWhere_keeps TenantRow.After.refl fun row _ => ⟨rfl, fun _ => by simp [suspendedTenant]⟩
  · rw [hidentities]
    exact fun row hrow => ⟨row, hrow, .refl row⟩
  · rw [hidentities]
    exact fun row hrow => ⟨row, hrow, .refl row⟩
  · have hids := updateWhere_map s.tenants (fun row => row.id = tenantId ∧ row.status = .active)
      TenantRow.id (f := suspendedTenant) fun _ => rfl
    rw [htenants]
    exact hids ▸ hs.tenants
  · rw [hidentities]
    exact hs.principals
  · rw [hidentities]
    exact hs.devices

theorem provisionIntent_later {input : ProvisionWorkspace} {fresh : String}
    {answer : CallResult ⊕ CloudWorkspace}
    (h : s.provisionIntent runtime input fresh = .ok (s', answer)) :
    s'.tenants = s.tenants ∧ s'.identities = s.identities := by
  simp only [provisionIntent, bind_eq_ok] at h
  obtain ⟨prior, -, h⟩ := h
  split at h
  · obtain ⟨rfl, -⟩ := Prod.ext_iff.1 (Except.ok.inj h)
    exact ⟨rfl, rfl⟩
  · simp only [bind_eq_ok, pure_eq_ok, Prod.mk.injEq] at h
    obtain ⟨_, -, -, -, -, -, workspaces, -, committed, hcommit, rfl, -⟩ := h
    rw [commitExact_eq_ok hcommit]
    exact ⟨rfl, rfl⟩

theorem registerPrincipal_later {input : RegisterPrincipal} {result : CallResult}
    (h : s.registerPrincipal runtime input = .ok (s', result)) :
    Later s s' ∧ s'.identities.sessions = s.identities.sessions := by
  simp only [registerPrincipal, bind_eq_ok] at h
  obtain ⟨prior, -, h⟩ := h
  split at h
  · obtain ⟨rfl, -⟩ := Prod.ext_iff.1 (Except.ok.inj h)
    exact ⟨.refl s, rfl⟩
  · simp only [bind_eq_ok, pure_eq_ok, Prod.mk.injEq] at h
    obtain ⟨-, -, -, -, principals, hinsert, committed, hcommit, rfl, -⟩ := h
    rw [commitExact_eq_ok hcommit]
    refine ⟨⟨fun row hrow => ⟨row, hrow, .refl row⟩, ?_, fun row hrow => ⟨row, hrow, .refl row⟩,
      fun hs => ⟨hs.tenants, ?_, hs.devices⟩⟩, rfl⟩
    · intro row hrow
      obtain ⟨-, rfl⟩ := insertRow_eq_ok.1 hinsert
      exact ⟨row, List.mem_append_left _ hrow, .refl row⟩
    · refine insertRow_nodup hs.principals (fun row hrow => ?_) hinsert
      obtain ⟨htenant, hid⟩ := Prod.mk.injEq _ _ _ _ ▸ hrow
      exact ⟨htenant, .inl hid⟩

theorem enrollDevice_later {input : EnrollDevice} {enrolled : Identities}
    (h : s.identities.enrollDevice input = .ok enrolled) :
    Later s { s with identities := enrolled } ∧ enrolled.sessions = s.identities.sessions := by
  simp only [Identities.enrollDevice, bind_eq_ok, pure_eq_ok] at h
  obtain ⟨-, -, devices, hinsert, rfl⟩ := h
  refine ⟨⟨fun row hrow => ⟨row, hrow, .refl row⟩, fun row hrow => ⟨row, hrow, .refl row⟩, ?_,
    fun hs => ⟨hs.tenants, hs.principals, ?_⟩⟩, rfl⟩
  · intro row hrow
    obtain ⟨-, rfl⟩ := insertRow_eq_ok.1 hinsert
    exact ⟨row, List.mem_append_left _ hrow, .refl row⟩
  · exact insertRow_nodup hs.devices (fun row hrow => Prod.mk.injEq _ _ _ _ ▸ hrow) hinsert

theorem revokeDevice_later (tenantId deviceId : String) (expectedRevision now : ℕ) :
    Later s { s with
      identities := (s.identities.revokeDevice tenantId deviceId expectedRevision now).1 } := by
  refine ⟨fun row hrow => ⟨row, hrow, .refl row⟩, fun row hrow => ⟨row, hrow, .refl row⟩, ?_,
    fun hs => ⟨hs.tenants, hs.principals, ?_⟩⟩
  · exact updateWhere_keeps DeviceRow.After.refl fun row _ => ⟨rfl, rfl, fun _ => rfl⟩
  · have hkeys := updateWhere_map s.identities.devices
      (Identities.Revocable tenantId deviceId expectedRevision)
      (fun row => (row.tenantId, row.id)) (f := fun row =>
        { row with status := .revoked, revision := row.revision + 1, revokedAt := some now })
      fun _ => rfl
    exact hkeys ▸ hs.devices

theorem recoverHuman_later (tenantId principalId : String) :
    Later s { s with identities := (s.identities.recoverHuman tenantId principalId).1 } := by
  refine ⟨fun row hrow => ⟨row, hrow, .refl row⟩, ?_, fun row hrow => ⟨row, hrow, .refl row⟩,
    fun hs => ⟨hs.tenants, ?_, hs.devices⟩⟩
  · exact updateWhere_keeps PrincipalRow.After.refl fun row _ =>
      ⟨rfl, rfl, rfl, Nat.le_succ row.recoveryRevision⟩
  · have hkeys := updateWhere_map s.identities.principals
      (Identities.Recoverable tenantId principalId) (fun row => (row.tenantId, row.id))
      (f := Identities.recovered) fun _ => rfl
    exact hkeys ▸ hs.principals

/-- No user is lost or revived, and no session comes in. -/
structure Serves (s s' : ControlPlane) : Prop where
  later : Later s s'
  sessions : ∀ row ∈ s'.identities.sessions, ∃ old ∈ s.identities.sessions,
    old.identity = row.identity

theorem Serves.of_eq (htenants : s'.tenants = s.tenants)
    (hidentities : s'.identities = s.identities) : Serves s s' where
  later := .of_eq htenants (congrArg _ hidentities) (congrArg _ hidentities)
  sessions row hrow := ⟨row, hidentities ▸ hrow, rfl⟩

theorem Serves.refl (s : ControlPlane) : Serves s s := .of_eq rfl rfl

/-- A sweep changes only when sessions were revoked. -/
theorem sweep_identity {u : Identities} {p : SessionRow → Prop} [DecidablePred p] {now : ℕ} :
    ∀ row ∈ (u.sweep p now).sessions, ∃ old ∈ u.sessions, old.identity = row.identity := by
  intro row hrow
  rcases mem_updateWhere hrow with ⟨hold, -⟩ | ⟨old, hold, -, rfl⟩
  · exact ⟨row, hold, rfl⟩
  · exact ⟨old, hold, rfl⟩

theorem readHosting_serves {input : Input} {request : Request} {x : Call Thread} :
    Serves s (s.readHosting input request x).1 := by
  refine statement_rule (.refl s) fun s' next h => ?_
  simp only [bind_eq_ok, pure_eq_ok, Prod.mk.injEq] at h
  obtain ⟨-, -, -, -, rfl, -⟩ := h
  exact .refl s

/-- STEP: the first statement of a call. -/
theorem begin_serves (runtime : CloudRuntime) (s : ControlPlane) (request : Request) (began : ℕ)
    (input : Input) : Serves s (s.begin runtime request began input).1 := by
  cases request with
  | createTenant create =>
    refine statement_rule (.refl s) fun s' result h => ?_
    simp only [bind_eq_ok] at h
    obtain ⟨-, -, h⟩ := h
    obtain ⟨hlater, hidentities⟩ := createTenant_later h
    exact ⟨hlater, fun row hrow => ⟨row, hidentities ▸ hrow, rfl⟩⟩
  | suspendTenant tenantId confirmation =>
    refine statement_rule (.refl s) fun s' result h => ?_
    simp only [bind_eq_ok, pure_eq_ok, Prod.mk.injEq] at h
    obtain ⟨-, -, suspended, h, rfl, -⟩ := h
    obtain ⟨-, -, hidentities⟩ := suspendTenant_eq_ok h
    refine ⟨suspendTenant_later h, ?_⟩
    rw [hidentities]
    exact sweep_identity
  | provisionWorkspace provision =>
    refine statement_rule (.refl s) fun s' result h => ?_
    simp only [bind_eq_ok] at h
    obtain ⟨-, -, h⟩ := h
    obtain ⟨htenants, hidentities⟩ := provisionIntent_later h
    exact .of_eq htenants hidentities
  | registerPrincipal register =>
    refine statement_rule (.refl s) fun s' result h => ?_
    simp only [bind_eq_ok] at h
    obtain ⟨-, -, h⟩ := h
    obtain ⟨hlater, hsessions⟩ := registerPrincipal_later h
    exact ⟨hlater, fun row hrow => ⟨row, hsessions ▸ hrow, rfl⟩⟩
  | enrollDevice enroll =>
    refine statement_rule (P := fun u => Serves s { s with identities := u }) (.refl s)
      fun u result h => ?_
    simp only [bind_eq_ok, pure_eq_ok, Prod.mk.injEq] at h
    obtain ⟨-, -, enrolled, h, rfl, -⟩ := h
    obtain ⟨hlater, hsessions⟩ := enrollDevice_later h
    exact ⟨hlater, fun row hrow => ⟨row, hsessions ▸ hrow, rfl⟩⟩
  | revokeDevice tenantId deviceId expectedRevision =>
    refine statement_rule (P := fun u => Serves s { s with identities := u }) (.refl s)
      fun u affected h => ?_
    simp only [bind_eq_ok, pure_eq_ok] at h
    obtain ⟨-, -, h⟩ := h
    obtain rfl : _ = u := congrArg Prod.fst h
    exact ⟨revokeDevice_later tenantId deviceId expectedRevision input.now,
      fun row hrow => ⟨row, hrow, rfl⟩⟩
  | recoverHuman tenantId principalId proofId =>
    refine statement_rule (P := fun u => Serves s { s with identities := u }) (.refl s)
      fun u answer h => ?_
    simp only [bind_eq_ok, pure_eq_ok] at h
    obtain ⟨-, -, h⟩ := h
    obtain rfl : _ = u := congrArg Prod.fst h
    exact ⟨recoverHuman_later tenantId principalId, fun row hrow => ⟨row, hrow, rfl⟩⟩
  | issueHumanSession issue =>
    refine statement_rule (.refl s) fun s' identity h => ?_
    simp only [bind_eq_ok, pure_eq_ok, Prod.mk.injEq] at h
    obtain ⟨-, -, -, -, rfl, -⟩ := h
    exact .refl s
  | suspendWorkspace ref => exact .of_eq rfl rfl
  | _ => exact readHosting_serves

/-- No user is lost or revived, and only the insertion of `call` brings a session in. -/
structure Admits (s : ControlPlane) (call : Thread) (s' : ControlPlane) : Prop where
  later : Later s s'
  sessions : ∀ row ∈ s'.identities.sessions,
    (∃ old ∈ s.identities.sessions, old.identity = row.identity) ∨
      call = .identity (.sessionInsert row.identity)

theorem Serves.admits {call : Thread} (h : Serves s s') : Admits s call s' :=
  ⟨h.later, fun row hrow => .inl (h.sessions row hrow)⟩

/-- STEP: a step of an identity call. -/
theorem identity_admits (runtime : CloudRuntime) (s : ControlPlane) (call : IdentityCall)
    (input : Input) :
    Admits s (.identity call) { s with identities := (call.move runtime s.identities input).1 } := by
  have hrefl : Admits s (.identity call) { s with identities := s.identities } :=
    (Serves.refl s).admits
  cases call with
  | deviceSweep tenantId deviceId now expectedRevision =>
    refine statement_rule (P := fun u => Admits s _ { s with identities := u }) hrefl
      fun u answer h => ?_
    simp only [pure_eq_ok, Prod.mk.injEq] at h
    obtain ⟨rfl, -⟩ := h
    exact Serves.admits ⟨.of_eq rfl rfl rfl, sweep_identity⟩
  | principalSweep tenantId principalId proofId now recoveryRevision =>
    refine statement_rule (P := fun u => Admits s _ { s with identities := u }) hrefl
      fun u answer h => ?_
    simp only [pure_eq_ok, Prod.mk.injEq] at h
    obtain ⟨rfl, -⟩ := h
    exact Serves.admits ⟨.of_eq rfl rfl rfl, sweep_identity⟩
  | audit proofId result =>
    refine statement_rule (P := fun u => Admits s _ { s with identities := u }) hrefl
      fun u answer h => ?_
    simp only [bind_eq_ok, pure_eq_ok, Prod.mk.injEq] at h
    obtain ⟨-, -, rfl, -⟩ := h
    exact hrefl
  | sessionInsert identity =>
    refine statement_rule (P := fun u => Admits s _ { s with identities := u }) hrefl
      fun u answer h => ?_
    simp only [Identities.insertSession, bind_eq_ok, insertRow_eq_ok, pure_eq_ok,
      Prod.mk.injEq] at h
    obtain ⟨_, ⟨sessions, ⟨-, rfl⟩, rfl⟩, rfl, -⟩ := h
    refine ⟨.of_eq rfl rfl rfl, fun row hrow => ?_⟩
    rcases List.mem_append.1 hrow with hold | hnew
    · exact .inl ⟨row, hold, rfl⟩
    · rw [List.mem_singleton.1 hnew]
      exact .inr rfl

/-- STEP: a step loses and revives no user, and only an insertion brings a session in. -/
theorem move_admits (runtime : CloudRuntime) (s : ControlPlane) (call : Thread) (input : Input) :
    Admits s call (s.move runtime call input).1 := by
  cases call with
  | start request began => exact (begin_serves runtime s request began input).admits
  | workspace call =>
    have hserves : Serves s (s.move runtime (.workspace call) input).1 := .of_eq rfl rfl
    exact hserves.admits
  | identity call => exact identity_admits runtime s call input
  | done result => exact (Serves.refl s).admits
  | thrown error => exact (Serves.refl s).admits

/-! ### Who reads a user -/

/-- What `issueHumanSession` has read of its user, at the moment of `s`. -/
def Reads (s : ControlPlane) (identity : IdentityRead) : Prop :=
  identity.readAt = s.moment ∧ ∃ row ∈ s.identities.principals,
    row.tenantId = identity.tenantId ∧ row.id = identity.principalId ∧ row.kind = .human ∧
      row.recoveryRevision = identity.recoveryRevision

theorem readIdentity_reads {input : IssueHumanSession} {now : ℕ} {identity : IdentityRead}
    (h : s.readIdentity runtime input now = .ok identity) : Reads s identity := by
  simp only [readIdentity, bind_eq_ok, demand_eq_ok, pure_eq_ok] at h
  obtain ⟨-, -, -, -, principal, hprincipal, tenant, -, device, -, rfl⟩ := h
  have hmem := List.mem_of_find?_eq_some hprincipal
  have hfound := List.find?_some hprincipal
  simp only [decide_eq_true_eq] at hfound
  exact ⟨rfl, principal, hmem, hfound.1, rfl, hfound.2.2.2.1, rfl⟩

/-- STEP: a call that is about to insert a session has just read its user. -/
theorem move_reads {call : Thread} {input : Input} {identity : IdentityRead}
    (h : (s.move runtime call input).2 = .identity (.sessionInsert identity)) :
    Reads s identity := by
  cases call with
  | start request began =>
    by_cases hissue : ∃ issue, request = .issueHumanSession issue
    · obtain ⟨issue, rfl⟩ := hissue
      refine statement_thread_rule (P := fun t => t = .identity (.sessionInsert identity) →
        Reads s identity) (by simp) (fun _ read hx heq => ?_) h
      simp only [bind_eq_ok, pure_eq_ok, Prod.mk.injEq] at hx
      obtain ⟨-, -, _, hread, -, rfl⟩ := hx
      obtain rfl := IdentityCall.sessionInsert.inj (Thread.identity.inj heq)
      exact readIdentity_reads hread
    · have hplain : (s.begin runtime request began input).2.Plain :=
        begin_plain fun issue heq => hissue ⟨issue, heq⟩
      exact absurd h (hplain.ne_sessionInsert identity)
  | workspace call => exact absurd h (call.move_ne_identity runtime s.hosting input _)
  | identity call =>
    exact absurd h ((call.move_plain runtime s.identities input).ne_sessionInsert identity)
  | done result => exact absurd h (by simp [move])
  | thrown error => exact absurd h (by simp [move])

/-! ### The invariant -/

/-- A user that was read before: a human principal, recovered no less often than it was then. -/
def Known (s : ControlPlane) (identity : IdentityRead) : Prop :=
  identity.readAt < s.moment ∧ ∃ row ∈ s.identities.principals,
    row.tenantId = identity.tenantId ∧ row.id = identity.principalId ∧ row.kind = .human ∧
      identity.recoveryRevision ≤ row.recoveryRevision

/-- INVARIANT: keys are unique, and every session is of a user that was read before. -/
structure Sound (s : ControlPlane) : Prop where
  unique : UniqueUsers s
  sessions : ∀ row ∈ s.identities.sessions, Known s row.identity

/-- A session of this user cannot authenticate any more: its tenant is not active, its device is
    revoked or its principal was recovered since. -/
def Dead (s : ControlPlane) (identity : IdentityRead) : Prop :=
  (∃ row ∈ s.tenants, row.id = identity.tenantId ∧ row.status ≠ .active) ∨
    (∃ row ∈ s.identities.devices, row.tenantId = identity.tenantId ∧
      row.id = identity.deviceId ∧ row.status = .revoked) ∨
    ∃ row ∈ s.identities.principals, row.tenantId = identity.tenantId ∧
      row.id = identity.principalId ∧ identity.recoveryRevision < row.recoveryRevision

variable {identity : IdentityRead}

theorem Known.later (h : Known s identity) (hlater : Later s s') (hmoment : s.moment ≤ s'.moment) :
    Known s' identity := by
  obtain ⟨hread, row, hrow, htenant, hid, hkind, hrevision⟩ := h
  obtain ⟨row', hrow', htenant', hid', hkind', hrevision'⟩ := hlater.principals row hrow
  exact ⟨hread.trans_le hmoment, row', hrow', htenant'.trans htenant, hid'.trans hid,
    hkind'.trans hkind, hrevision.trans hrevision'⟩

/-- The dead stay dead. -/
theorem Dead.later (h : Dead s identity) (hlater : Later s s') : Dead s' identity := by
  rcases h with ⟨row, hrow, hid, hstatus⟩ | ⟨row, hrow, htenant, hid, hstatus⟩ |
      ⟨row, hrow, htenant, hid, hrevision⟩
  · obtain ⟨row', hrow', hid', hstatus'⟩ := hlater.tenants row hrow
    exact .inl ⟨row', hrow', hid'.trans hid, hstatus' hstatus⟩
  · obtain ⟨row', hrow', htenant', hid', hstatus'⟩ := hlater.devices row hrow
    exact .inr (.inl ⟨row', hrow', htenant'.trans htenant, hid'.trans hid, hstatus' hstatus⟩)
  · obtain ⟨row', hrow', htenant', hid', -, hrevision'⟩ := hlater.principals row hrow
    exact .inr (.inr ⟨row', hrow', htenant'.trans htenant, hid'.trans hid,
      hrevision.trans_le hrevision'⟩)

/-- What `authenticateSession` has found when it answers. -/
theorem authenticateSession_eq_some {token : String} {csrfToken : Option String} {now : ℕ}
    {answer : Authenticated}
    (h : s.authenticateSession runtime token csrfToken now = some answer) :
    ∃ session tenant principal device, s.sessionOf runtime token = some session ∧
      s.tenantOf session.tenantId = some tenant ∧
      s.principalOf session.tenantId session.principalId = some principal ∧
      s.deviceOf session.tenantId session.deviceId = some device ∧
      session.revokedAt = none ∧ now < session.expiresAt ∧ tenant.status = .active ∧
      principal.status = .active ∧ device.status = .active ∧
      session.tenantSessionEpoch = tenant.sessionEpoch ∧
      session.principalRecoveryRevision = principal.recoveryRevision ∧
      answer = ⟨session.tenantId, session.principalId, session.deviceId, session.expiresAt⟩ := by
  simp only [authenticateSession, Option.bind_eq_bind, Option.bind_eq_some_iff] at h
  obtain ⟨session, hsession, tenant, htenant, principal, hprincipal, device, hdevice, h⟩ := h
  split at h
  · exact absurd h (by simp)
  · rename_i hpasses
    split at h
    · exact absurd h (by simp)
    · simp only [not_or, not_le, ne_eq, not_not] at hpasses
      obtain ⟨hrevoked, hexpires, hactive, hprincipal', hdevice', hepoch, hrevision⟩ := hpasses
      exact ⟨session, tenant, principal, device, hsession, htenant, hprincipal, hdevice, hrevoked,
        hexpires, hactive, hprincipal', hdevice', hepoch, hrevision, (Option.some.inj h).symm⟩

theorem principalOf_eq_some {tenantId principalId : String} {row : PrincipalRow}
    (h : s.principalOf tenantId principalId = some row) :
    row ∈ s.identities.principals ∧ row.tenantId = tenantId ∧ row.id = principalId := by
  have hfound := List.find?_some h
  simp only [decide_eq_true_eq] at hfound
  exact ⟨List.mem_of_find?_eq_some h, hfound⟩

theorem deviceOf_eq_some {tenantId deviceId : String} {row : DeviceRow}
    (h : s.deviceOf tenantId deviceId = some row) :
    row ∈ s.identities.devices ∧ row.tenantId = tenantId ∧ row.id = deviceId := by
  have hfound := List.find?_some h
  simp only [decide_eq_true_eq] at hfound
  exact ⟨List.mem_of_find?_eq_some h, hfound⟩

theorem tenantOf_eq_some {tenantId : String} {row : TenantRow}
    (h : s.tenantOf tenantId = some row) : row ∈ s.tenants ∧ row.id = tenantId := by
  have hfound := List.find?_some h
  simp only [decide_eq_true_eq] at hfound
  exact ⟨List.mem_of_find?_eq_some h, hfound⟩

/-- CORRECT: a dead session does not authenticate. -/
theorem Dead.denied (hs : UniqueUsers s) {session : SessionRow} {token : String}
    (hsession : s.sessionOf runtime token = some session) (h : Dead s session.identity)
    (csrfToken : Option String) (now : ℕ) :
    s.authenticateSession runtime token csrfToken now = none := by
  rw [Option.eq_none_iff_forall_ne_some]
  intro answer hanswer
  obtain ⟨found, tenant, principal, device, hfound, htenant, hprincipal, hdevice, -, -, hactive, -,
    hdeviceActive, -, hrevision, -⟩ := authenticateSession_eq_some hanswer
  obtain rfl : found = session := Option.some.inj (hfound.symm.trans hsession)
  obtain ⟨htenantMem, htenantId⟩ := tenantOf_eq_some htenant
  obtain ⟨hprincipalMem, hprincipalTenant, hprincipalId⟩ := principalOf_eq_some hprincipal
  obtain ⟨hdeviceMem, hdeviceTenant, hdeviceId⟩ := deviceOf_eq_some hdevice
  rcases h with ⟨row, hrow, hid, hstatus⟩ | ⟨row, hrow, hrowTenant, hid, hstatus⟩ |
      ⟨row, hrow, hrowTenant, hid, hrow'⟩
  · have heq : row = tenant :=
      List.inj_on_of_nodup_map hs.tenants hrow htenantMem (hid.trans htenantId.symm)
    exact hstatus (heq ▸ hactive)
  · have heq : row = device := List.inj_on_of_nodup_map hs.devices hrow hdeviceMem
      (Prod.ext (hrowTenant.trans hdeviceTenant.symm) (hid.trans hdeviceId.symm))
    rw [heq, hdeviceActive] at hstatus
    exact absurd hstatus (by simp)
  · have heq : row = principal := List.inj_on_of_nodup_map hs.principals hrow hprincipalMem
      (Prod.ext (hrowTenant.trans hprincipalTenant.symm) (hid.trans hprincipalId.symm))
    rw [heq, ← hrevision] at hrow'
    exact lt_irrefl _ hrow'

end ControlPlane

/-! ### Runs -/

open ControlPlane

variable (runtime : CloudRuntime)

theorem later_move (s : ControlPlane) (call : Thread) (input : Input) :
    Later s ((controlPlane runtime).move s call input).1 := by
  obtain ⟨hlater, -⟩ := move_admits runtime s call input
  refine ⟨hlater.tenants, hlater.principals, hlater.devices, fun hs => ?_⟩
  obtain ⟨htenants, hprincipals, hdevices⟩ := hlater.unique hs
  exact ⟨htenants, hprincipals, hdevices⟩

/-- STEP: a session is one that was there, or one that `call` was about to insert. -/
theorem sessions_move {s : ControlPlane} {call : Thread} {input : Input} {row : SessionRow}
    (h : row ∈ ((controlPlane runtime).move s call input).1.identities.sessions) :
    (∃ old ∈ s.identities.sessions, old.identity = row.identity) ∨
      call = .identity (.sessionInsert row.identity) :=
  (move_admits runtime s call input).sessions row h

/-- What is known of every session and of every call that is about to insert one, from the moment
    `m` on. -/
def Held (m : ℕ) (P : ControlPlane → IdentityRead → Prop) : World ControlPlane Thread → Prop :=
  Holds (fun _ s => m ≤ s.moment ∧ UniqueUsers s ∧ ∀ row ∈ s.identities.sessions, P s row.identity)
    fun s _ call => ∀ identity, call = .identity (.sessionInsert identity) → P s identity

variable {m : ℕ} {P : ControlPlane → IdentityRead → Prop} {world : World ControlPlane Thread}

/-- RUN RULE: what lasts, and holds of every user that was just read, is known of all sessions. -/
theorem held_run
    (hlast : ∀ s call input identity, P s identity →
      P ((controlPlane runtime).move s call input).1 identity)
    (hread : ∀ s call input identity, m ≤ s.moment → ControlPlane.Reads s identity →
      P ((controlPlane runtime).move s call input).1 identity)
    (actions : List (Action Request Input)) (h : Held m P world) :
    Held m P (run (controlPlane runtime).step world actions) := by
  refine run_invariant' (fun world action hworld => ?_) actions h
  refine holds_step (Q := fun _ _ _ => True) ?_ ?_ (by cases action <;> simp [Meets]) hworld
  · exact fun n s request hs => ⟨hs, by simp [controlPlane]⟩
  · rintro n s i call input - ⟨hmoment, hunique, hsessions⟩ hcall -
    refine ⟨⟨hmoment.trans (Nat.le_succ _), (later_move runtime s call input).unique hunique,
      fun row hrow => ?_⟩, fun identity hidentity => ?_, fun j other _ hother identity hidentity =>
        hlast s call input identity (hother identity hidentity)⟩
    · rcases sessions_move runtime hrow with ⟨old, hold, heq⟩ | hinsert
      · exact heq ▸ hlast s call input _ (hsessions old hold)
      · exact hlast s call input _ (hcall _ hinsert)
    · exact hread s call input identity hmoment (move_reads hidentity)

/-- INVARIANT: every session is of a user that was read before. -/
theorem known_run (actions : List (Action Request Input)) :
    Held 0 Known (run (controlPlane runtime).step opening actions) := by
  refine held_run runtime (fun s call input identity h => ?_) (fun s call input identity _ h => ?_)
    actions ⟨⟨le_rfl, ⟨List.nodup_nil, List.nodup_nil, List.nodup_nil⟩, by simp [opening,
      ControlPlane.opening]⟩, by simp [opening]⟩
  · exact h.later (later_move runtime s call input) (Nat.le_succ _)
  · obtain ⟨hread, row, hrow, htenant, hid, hkind, hrevision⟩ := h
    have hknown : Known { s with moment := s.moment + 1 } identity :=
      ⟨hread ▸ Nat.lt_succ_self _, row, hrow, htenant, hid, hkind, hrevision.ge⟩
    have hlater := later_move runtime s call input
    exact hknown.later ⟨hlater.tenants, hlater.principals, hlater.devices, fun hs =>
      hlater.unique ⟨hs.tenants, hs.principals, hs.devices⟩⟩ le_rfl

/-- The dead stay dead along a run. -/
theorem dead_run {T : IdentityRead → Prop} (actions : List (Action Request Input))
    (h : Held m (fun s identity => identity.readAt < m → T identity → Dead s identity) world) :
    Held m (fun s identity => identity.readAt < m → T identity → Dead s identity)
      (run (controlPlane runtime).step world actions) := by
  refine held_run runtime (fun s call input identity h hread hT => ?_)
    (fun s call input identity hmoment h hread => ?_) actions h
  · exact (h hread hT).later (later_move runtime s call input)
  · exact absurd (h.1 ▸ hread) hmoment.not_gt

/-! ### The end of a session -/

/-- Call `i` commits the first statement of a revocation of the identity's device, of a recovery of
    its principal or of a suspension of its tenant. -/
inductive Commits (world : World ControlPlane Thread) (i : ℕ) (input : Input)
    (identity : IdentityRead) : Prop
  | revokeDevice {expectedRevision began : ℕ} (row : DeviceRow)
      (call : world.threads[i]? =
        some (.start (.revokeDevice identity.tenantId identity.deviceId expectedRevision) began))
      (admits : admitted (.revokeDevice identity.tenantId identity.deviceId expectedRevision)
        input = .ok ())
      (found : row ∈ world.shared.identities.devices ∧
        Identities.Revocable identity.tenantId identity.deviceId expectedRevision row)
      (commits : input.fault ≠ .before)
  | recoverHuman {proofId : String} {began : ℕ} (row : PrincipalRow)
      (call : world.threads[i]? =
        some (.start (.recoverHuman identity.tenantId identity.principalId proofId) began))
      (admits : admitted (.recoverHuman identity.tenantId identity.principalId proofId)
        input = .ok ())
      (found : row ∈ world.shared.identities.principals ∧
        Identities.Recoverable identity.tenantId identity.principalId row)
      (commits : input.fault ≠ .before)
  | suspendTenant {confirmation : String} {began : ℕ} (s' : ControlPlane)
      (call : world.threads[i]? =
        some (.start (.suspendTenant identity.tenantId confirmation) began))
      (admits : admitted (.suspendTenant identity.tenantId confirmation) input = .ok ())
      (found : world.shared.suspendTenant identity.tenantId input.now = .ok s')
      (commits : input.fault ≠ .before)

theorem begin_revokeDevice (s : ControlPlane) (began : ℕ) {tenantId deviceId : String}
    {expectedRevision : ℕ} {input : Input}
    (admits : admitted (.revokeDevice tenantId deviceId expectedRevision) input = .ok ())
    (commits : input.fault ≠ .before) :
    (s.begin runtime (.revokeDevice tenantId deviceId expectedRevision) began input).1.identities =
      (s.identities.revokeDevice tenantId deviceId expectedRevision input.now).1 := by
  simp only [begin, onIdentities, admits, ok_bind]
  exact statement_commits rfl commits

theorem begin_recoverHuman (s : ControlPlane) (began : ℕ) {tenantId principalId proofId : String}
    {input : Input} (admits : admitted (.recoverHuman tenantId principalId proofId) input = .ok ())
    (commits : input.fault ≠ .before) :
    (s.begin runtime (.recoverHuman tenantId principalId proofId) began input).1.identities =
      (s.identities.recoverHuman tenantId principalId).1 := by
  simp only [begin, onIdentities, admits, ok_bind]
  exact statement_commits rfl commits

theorem begin_suspendTenant {s s' : ControlPlane} (began : ℕ) {tenantId confirmation : String}
    {input : Input} (admits : admitted (.suspendTenant tenantId confirmation) input = .ok ())
    (completes : s.suspendTenant tenantId input.now = .ok s') (commits : input.fault ≠ .before) :
    (s.begin runtime (.suspendTenant tenantId confirmation) began input).1 = s' := by
  simp only [begin, admits, ok_bind, completes]
  exact statement_commits rfl commits

/-- STEP: the first statement of the call ends every session of a user that was read before. -/
theorem Commits.dead {i : ℕ} {input : Input} {identity : IdentityRead}
    (h : Commits world i input identity) (hunique : UniqueUsers world.shared)
    (hknown : Known world.shared identity) :
    Dead ((controlPlane runtime).step world (.advance i input)).shared identity := by
  cases h with
  | @revokeDevice expectedRevision began row call admits found commits =>
    obtain ⟨hrow, hrevocable⟩ := found
    have hdevices := congrArg Identities.devices
      (begin_revokeDevice runtime world.shared began admits commits)
    rw [step_advance input call]
    refine .inr (.inl ⟨{ row with
      status := .revoked, revision := row.revision + 1, revokedAt := some input.now },
      hdevices ▸ ?_, hrevocable.1, hrevocable.2.1, rfl⟩)
    exact List.mem_map.2 ⟨row, hrow, by rw [if_pos hrevocable]⟩
  | @recoverHuman proofId began row call admits found commits =>
    obtain ⟨hrow, hrecoverable⟩ := found
    obtain ⟨-, known, hmem, htenant, hid, -, hrevision⟩ := hknown
    have hprincipals := congrArg Identities.principals
      (begin_recoverHuman runtime world.shared began admits commits)
    have hsame : known = row := List.inj_on_of_nodup_map hunique.principals hmem hrow
      (Prod.ext (htenant.trans hrecoverable.1.symm) (hid.trans hrecoverable.2.1.symm))
    rw [step_advance input call]
    refine .inr (.inr ⟨Identities.recovered row, hprincipals ▸ ?_, hrecoverable.1,
      hrecoverable.2.1, Nat.lt_succ_of_le (hsame ▸ hrevision)⟩)
    exact List.mem_map.2 ⟨row, hrow, by rw [if_pos hrecoverable]⟩
  | @suspendTenant confirmation began s' call admits found commits =>
    obtain ⟨⟨row, hrow, hid, hactive⟩, htenants, -⟩ := suspendTenant_eq_ok found
    have hstate := congrArg ControlPlane.tenants
      (begin_suspendTenant runtime began admits found commits)
    rw [step_advance input call]
    refine .inl ⟨suspendedTenant row, (hstate.trans htenants) ▸ ?_, hid, by simp [suspendedTenant]⟩
    exact List.mem_map.2 ⟨row, hrow, by rw [if_pos ⟨hid, hactive⟩]⟩

theorem Commits.starts {i : ℕ} {input : Input} {identity : IdentityRead}
    (h : Commits world i input identity) :
    ∃ request began, world.threads[i]? = some (.start request began) := by
  cases h with
  | revokeDevice row call => exact ⟨_, _, call⟩
  | recoverHuman row call => exact ⟨_, _, call⟩
  | suspendTenant s' call => exact ⟨_, _, call⟩

/-- STEP: after the first statement of the call, all that was read before is dead. -/
theorem dead_step {i : ℕ} {input : Input} (h : Held 0 Known world) :
    Held world.shared.moment (fun s identity => identity.readAt < world.shared.moment →
      Commits world i input identity → Dead s identity)
      ((controlPlane runtime).step world (.advance i input)) := by
  obtain ⟨⟨-, hunique, hsessions⟩, hthreads⟩ := h
  cases hcall : world.threads[i]? with
  | none =>
    rw [step_advance_none input hcall]
    have hnone : ∀ identity, ¬ Commits world i input identity := by
      intro identity hcommits
      obtain ⟨request, began, hstart⟩ := hcommits.starts
      exact absurd (hcall.symm.trans hstart) (by simp)
    exact ⟨⟨le_rfl, hunique, fun row _ _ hcommits => absurd hcommits (hnone _)⟩,
      fun j other _ identity _ _ hcommits => absurd hcommits (hnone _)⟩
  | some call =>
    have hdead : ∀ identity, Known world.shared identity → Commits world i input identity →
        Dead ((controlPlane runtime).step world (.advance i input)).shared identity :=
      fun identity hknown hcommits => hcommits.dead runtime hunique hknown
    rw [step_advance input hcall] at hdead ⊢
    refine ⟨⟨Nat.le_succ _, (later_move runtime _ call input).unique hunique,
      fun row hrow hread hcommits => ?_⟩, fun j other hother identity hidentity hread hcommits => ?_⟩
    · rcases sessions_move runtime hrow with ⟨old, hold, heq⟩ | hinsert
      · exact hdead _ (heq ▸ hsessions old hold) hcommits
      · exact hdead _ (hthreads i call hcall _ hinsert) hcommits
    · by_cases hij : j = i
      · subst hij
        rw [List.getElem?_set_self (List.getElem?_eq_some_iff.1 hcall).1,
          Option.some.injEq] at hother
        have hreads := move_reads (hother.trans hidentity)
        exact absurd (hreads.1 ▸ hread) (lt_irrefl _)
      · rw [List.getElem?_set_ne (Ne.symm hij)] at hother
        exact hdead _ (hthreads j other hother _ hidentity) hcommits

/-- What a session that authenticates at `now` belongs to. -/
def Belongs (s : ControlPlane) (answer : Authenticated) (now : ℕ) : Prop :=
  now < answer.expiresAt ∧
    (∃ row ∈ s.tenants, row.id = answer.tenantId ∧ row.status = .active) ∧
    (∃ row ∈ s.identities.principals, row.tenantId = answer.tenantId ∧
      row.id = answer.principalId ∧ row.kind = .human ∧ row.status = .active) ∧
    ∃ row ∈ s.identities.devices, row.tenantId = answer.tenantId ∧ row.id = answer.deviceId ∧
      row.status = .active

/-- STEP: a session that authenticates is unexpired, of an active human, device and tenant. -/
theorem belongs_of_known {s : ControlPlane} (hunique : UniqueUsers s)
    (hknown : ∀ row ∈ s.identities.sessions, Known s row.identity) {token : String}
    {csrfToken : Option String} {now : ℕ} {answer : Authenticated}
    (h : s.authenticateSession runtime token csrfToken now = some answer) :
    Belongs s answer now := by
  obtain ⟨session, tenant, principal, device, hsession, htenant, hprincipal, hdevice, -, hexpires,
    hactive, hprincipalActive, hdeviceActive, -, -, rfl⟩ := authenticateSession_eq_some h
  obtain ⟨htenantMem, htenantId⟩ := tenantOf_eq_some htenant
  obtain ⟨hprincipalMem, hprincipalTenant, hprincipalId⟩ := principalOf_eq_some hprincipal
  obtain ⟨hdeviceMem, hdeviceTenant, hdeviceId⟩ := deviceOf_eq_some hdevice
  obtain ⟨-, row, hrow, hrowTenant, hrowId, hkind, -⟩ :=
    hknown session (List.mem_of_find?_eq_some hsession)
  have hsame : row = principal := List.inj_on_of_nodup_map hunique.principals hrow hprincipalMem
    (Prod.ext (hrowTenant.trans hprincipalTenant.symm) (hrowId.trans hprincipalId.symm))
  exact ⟨hexpires, ⟨tenant, htenantMem, htenantId, hactive⟩,
    ⟨principal, hprincipalMem, hprincipalTenant, hprincipalId, hsame ▸ hkind, hprincipalActive⟩,
    ⟨device, hdeviceMem, hdeviceTenant, hdeviceId, hdeviceActive⟩⟩

/-- CORRECT: in every run, a session that authenticates is unexpired and of an active human, device
    and tenant; and once a call has committed the first statement of a revocation, a recovery or a
    suspension, no session of the user authenticates whose identity row was read before. -/
theorem revoked_sessions_stay_dead (actions : List (Action Request Input)) :
    let s := (run (controlPlane runtime).step opening actions).shared
    (∀ token csrfToken now answer,
      s.authenticateSession runtime token csrfToken now = some answer → Belongs s answer now) ∧
    ∀ before i input rest, actions = before ++ .advance i input :: rest →
      let world := run (controlPlane runtime).step opening before
      ∀ token session, s.sessionOf runtime token = some session →
        session.readAt < world.shared.moment → Commits world i input session.identity →
          ∀ csrfToken now, s.authenticateSession runtime token csrfToken now = none := by
  intro s
  obtain ⟨-, hunique, hknown⟩ := (known_run runtime actions).1
  refine ⟨fun token csrfToken now answer => belongs_of_known runtime hunique hknown, ?_⟩
  intro before i input rest hactions world token session hsession hread hcommits csrfToken now
  have hend := dead_run runtime rest (@dead_step runtime world i input
    (known_run runtime before))
  have hrun : run (controlPlane runtime).step
      ((controlPlane runtime).step world (.advance i input)) rest =
        run (controlPlane runtime).step opening actions := by
    rw [hactions, run_append, run_cons]
  have hdead : Dead s session.identity :=
    (hrun ▸ hend).1.2.2 session (List.mem_of_find?_eq_some hsession) hread hcommits
  exact hdead.denied hunique hsession csrfToken now

/-- A human with a device: one session is issued, a second call has read the user. -/
def signedIn : List (Action Request Input) :=
  [.spawn (.createTenant ⟨"t", "t", "p", 1, 1, "o"⟩), .advance 0 quiet,
    .spawn (.registerPrincipal ⟨"t", "h", .human, "https://i.example/", "u", "q"⟩), .advance 1 quiet,
    .spawn (.enrollDevice ⟨"t", "h", "d", "l"⟩), .advance 2 quiet,
    .spawn (.issueHumanSession ⟨"t", "https://i.example/", "u", "d", none⟩), .advance 3 quiet,
    .advance 3 { quiet with token := "a" },
    .spawn (.issueHumanSession ⟨"t", "https://i.example/", "u", "d", none⟩), .advance 4 quiet,
    .spawn (.revokeDevice "t" "d" 1)]

/-- The device of `signedIn`. -/
def enrolledDevice : DeviceRow := ⟨"t", "h", "d", "l", .active, 1, none⟩

/-- The session that the second call inserts after the revocation. -/
def lateSession : SessionRow := ⟨"s", "", "t", "h", "d", 1, 1, 0, 28800000, none, 5⟩

/-- The first session authenticates; the one that is inserted after the revocation does not. -/
theorem late_session_dead :
    Belongs (run (controlPlane plainRuntime).step opening signedIn).shared
        ⟨"t", "h", "d", 28800000⟩ 1 ∧
      ((run (controlPlane plainRuntime).step opening
        (signedIn ++ .advance 5 quiet :: [.advance 4 { quiet with token := "s" }])).shared
          ).authenticateSession plainRuntime "s" none 1 = none :=
  ⟨(revoked_sessions_stay_dead plainRuntime signedIn).1 "a" none 1 ⟨"t", "h", "d", 28800000⟩
      (by decide +kernel),
    (revoked_sessions_stay_dead plainRuntime _).2 signedIn 5 quiet
      [.advance 4 { quiet with token := "s" }] rfl "s" lateSession (by decide +kernel)
      (by decide +kernel) (@Commits.revokeDevice _ _ _ _ 1 6 enrolledDevice
        (by decide +kernel) (by decide +kernel) ⟨by decide +kernel, by decide +kernel⟩
        (by decide)) none 1⟩

end Tasq.Cloud
