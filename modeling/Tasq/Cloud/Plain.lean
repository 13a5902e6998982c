import Mathlib.Tactic
import Tasq.Cloud.System

/-! Where a call stands after a step. Three places rely on what came before them: the insertion of a
    session, the installation of a rotation's references and the report of a deletion. -/

namespace Tasq.Cloud

open Outcome Rows

/-- The call relies on nothing that it has done or read: it is not about to insert a session, to
    install the references of a rotation or to report a deletion. -/
def Thread.Plain : Thread → Prop
  | .identity (.sessionInsert _) => False
  | .workspace (.rotating _ _) => False
  | .workspace (.deleteAudit _) => False
  | _ => True

theorem Thread.plain_thrown (error : CloudError) : (Thread.thrown error).Plain := trivial

theorem Thread.Plain.ne_sessionInsert {thread : Thread} (h : thread.Plain)
    (identity : IdentityRead) : thread ≠ .identity (.sessionInsert identity) := by
  rintro rfl
  exact h

theorem Thread.Plain.ne_rotating {thread : Thread} (h : thread.Plain) (rotationId : String)
    (current : CloudWorkspace) : thread ≠ .workspace (.rotating rotationId current) := by
  rintro rfl
  exact h

theorem Thread.Plain.ne_deleteAudit {thread : Thread} (h : thread.Plain) (ref : WorkspaceRef) :
    thread ≠ .workspace (.deleteAudit ref) := by
  rintro rfl
  exact h

theorem lookupBackup_plain {h : Hosting} {ref : WorkspaceRef} {backupId : String} {expiresAt : ℕ}
    {next : Thread} (hnext : h.lookupBackup ref backupId expiresAt = .ok next) : next.Plain := by
  simp only [Hosting.lookupBackup, bind_eq_ok] at hnext
  obtain ⟨row, -, -, -, hnext⟩ := hnext
  split at hnext
  · simp only [bind_eq_ok, pure_eq_ok] at hnext
    obtain ⟨_, -, rfl⟩ := hnext
    trivial
  · obtain rfl := (pure_eq_ok _ _).1 hnext
    trivial

theorem lookupBackup_ne_identity {h : Hosting} {ref : WorkspaceRef} {backupId : String}
    {expiresAt : ℕ} {next : Thread} (hnext : h.lookupBackup ref backupId expiresAt = .ok next)
    (call : IdentityCall) : next ≠ .identity call := by
  simp only [Hosting.lookupBackup, bind_eq_ok] at hnext
  obtain ⟨row, -, -, -, hnext⟩ := hnext
  split at hnext
  · simp only [bind_eq_ok, pure_eq_ok] at hnext
    obtain ⟨_, -, rfl⟩ := hnext
    simp
  · obtain rfl := (pure_eq_ok _ _).1 hnext
    simp

/-- STEP: a workspace call that does not look up or insert its rotation and does not delete. -/
theorem WorkspaceCall.move_plain (runtime : CloudRuntime) (h : Hosting) {call : WorkspaceCall}
    (input : Input) (hdelete : ∀ current, call ≠ .deleting current)
    (hlookup : ∀ rotationId current, call ≠ .rotationLookup rotationId current)
    (hinsert : ∀ rotationId current, call ≠ .rotationInsert rotationId current) :
    (call.move runtime h input).2.Plain := by
  cases call with
  | deleting current => exact absurd rfl (hdelete current)
  | rotationLookup rotationId current => exact absurd rfl (hlookup rotationId current)
  | rotationInsert rotationId current => exact absurd rfl (hinsert rotationId current)
  | backupLookup ref backupId expiresAt =>
    refine statement_thread_rule (P := Thread.Plain) Thread.plain_thrown fun _ next hnext => ?_
    simp only [bind_eq_ok, pure_eq_ok, Prod.mk.injEq] at hnext
    obtain ⟨_, hlookup, -, rfl⟩ := hnext
    exact lookupBackup_plain hlookup
  | backupInsert ref backupId lifetimeMs =>
    refine statement_thread_rule (P := Thread.Plain) Thread.plain_thrown fun _ answer _ => ?_
    split <;> trivial
  | _ => exact statement_thread_rule (P := Thread.Plain) (fun _ => trivial) fun _ _ _ => trivial

/-- What a call finds of its rotation. -/
theorem lookupRotation_cases {h : Hosting} {rotationId : String} {current : CloudWorkspace}
    {next : Thread} (hnext : h.lookupRotation rotationId current = .ok next) :
    (h.findRotation rotationId = none ∧ next = .workspace (.rotationInsert rotationId current)) ∨
      ∃ prior, h.findRotation rotationId = some prior ∧ prior.workspace = current.ref ∧
        ((∃ secretRefs, prior.status = .ready ∧ prior.replacementRefs = some secretRefs ∧
            next = .done (.rotation rotationId .ready secretRefs)) ∨
          prior.status ≠ .ready ∧ next = .workspace (.rotating rotationId current)) := by
  unfold Hosting.lookupRotation at hnext
  split at hnext
  · rename_i hfind
    exact .inl ⟨hfind, ((pure_eq_ok _ _).1 hnext).symm⟩
  · rename_i prior hfind
    simp only [bind_eq_ok, refuse_eq_ok, exists_const, ne_eq, not_not] at hnext
    obtain ⟨hworkspace, hnext⟩ := hnext
    refine .inr ⟨prior, hfind, hworkspace, ?_⟩
    split at hnext
    · rename_i hready
      simp only [bind_eq_ok, demand_eq_ok, pure_eq_ok] at hnext
      obtain ⟨secretRefs, hrefs, rfl⟩ := hnext
      exact .inl ⟨secretRefs, hready, hrefs, rfl⟩
    · rename_i hstatus
      exact .inr ⟨hstatus, ((pure_eq_ok _ _).1 hnext).symm⟩

theorem lookupRotation_ne_identity {h : Hosting} {rotationId : String} {current : CloudWorkspace}
    {next : Thread} (hnext : h.lookupRotation rotationId current = .ok next) (call : IdentityCall) :
    next ≠ .identity call := by
  rcases lookupRotation_cases hnext with ⟨-, rfl⟩ | ⟨prior, -, -, ⟨secretRefs, -, -, rfl⟩ | ⟨-, rfl⟩⟩
  all_goals simp

/-- STEP: only the last write of a deletion leads to its report. -/
theorem WorkspaceCall.move_deleteAudit (runtime : CloudRuntime) (h : Hosting) {call : WorkspaceCall}
    {input : Input} {ref : WorkspaceRef}
    (hnext : (call.move runtime h input).2 = .workspace (.deleteAudit ref)) :
    ∃ current, call = .deleting current ∧ current.ref = ref ∧
      (input.fault ≠ .before ∧ input.answered = true) ∧ (call.move runtime h input).1 =
        h.setWorkspace current.ref (· = .deleting) CloudWorkspace.gone := by
  cases call
  case deleting current =>
    refine ⟨current, rfl, ?_⟩
    simp only [WorkspaceCall.move] at hnext ⊢
    by_cases hanswered : input.answered = false
    · simp [hanswered, statement, refuse] at hnext
    · cases hfault : input.fault with
      | none => simp_all [statement, refuse]
      | before => simp [hanswered, hfault, statement, refuse] at hnext
      | after => simp [hanswered, hfault, statement, refuse] at hnext
  case rotationLookup rotationId current =>
    refine absurd hnext ?_
    refine statement_thread_rule (P := fun t => t ≠ .workspace (.deleteAudit ref))
      (fun _ => by simp) fun _ next h => ?_
    simp only [bind_eq_ok, pure_eq_ok, Prod.mk.injEq] at h
    obtain ⟨_, hlookup, -, rfl⟩ := h
    rcases lookupRotation_cases hlookup with ⟨-, rfl⟩ | ⟨_, -, -, ⟨_, -, -, rfl⟩ | ⟨-, rfl⟩⟩
    all_goals simp
  case rotationInsert rotationId current =>
    exact absurd hnext (statement_thread_rule (P := fun t => t ≠ .workspace (.deleteAudit ref))
      (fun _ => by simp) fun _ _ _ => by simp)
  all_goals exact absurd hnext ((WorkspaceCall.move_plain runtime h input (by simp) (by simp)
    (by simp)).ne_deleteAudit ref)

/-- STEP: a workspace call never goes on as an identity call. -/
theorem WorkspaceCall.move_ne_identity (runtime : CloudRuntime) (h : Hosting)
    (call : WorkspaceCall) (input : Input) (identity : IdentityCall) :
    (call.move runtime h input).2 ≠ .identity identity := by
  cases call with
  | rotationLookup rotationId current =>
    refine statement_thread_rule (P := fun t => t ≠ .identity identity) (fun _ => by simp)
      fun _ next hnext => ?_
    simp only [bind_eq_ok, pure_eq_ok, Prod.mk.injEq] at hnext
    obtain ⟨_, hlookup, -, rfl⟩ := hnext
    exact lookupRotation_ne_identity hlookup identity
  | backupLookup ref backupId expiresAt =>
    refine statement_thread_rule (P := fun t => t ≠ .identity identity) (fun _ => by simp)
      fun _ next hnext => ?_
    simp only [bind_eq_ok, pure_eq_ok, Prod.mk.injEq] at hnext
    obtain ⟨_, hlookup, -, rfl⟩ := hnext
    exact lookupBackup_ne_identity hlookup identity
  | _ =>
    exact statement_thread_rule (P := fun t => t ≠ .identity identity) (fun _ => Thread.noConfusion)
      fun _ _ _ => Thread.noConfusion

/-- An identity call that has begun does not read a user again. -/
theorem IdentityCall.move_plain (runtime : CloudRuntime) (u : Identities) (call : IdentityCall)
    (input : Input) : (call.move runtime u input).2.Plain := by
  cases call with
  | _ => exact statement_thread_rule (P := Thread.Plain) (fun _ => trivial) fun _ _ _ => trivial

namespace ControlPlane

variable {runtime : CloudRuntime} {s s' : ControlPlane}

theorem commitExact_eq_ok {row : OperationRow} : s.commitExact row = .ok s' →
    s' = { s with operations := s.operations ++ [row] } := by
  intro h
  simp only [commitExact, bind_eq_ok, insertRow_eq_ok, pure_eq_ok] at h
  obtain ⟨_, ⟨-, rfl⟩, rfl⟩ := h
  rfl

theorem beginReconcile_plain {h : Hosting} {ref : WorkspaceRef} {next : Thread}
    (hnext : beginReconcile h ref = .ok next) : next.Plain := by
  simp only [beginReconcile, bind_eq_ok] at hnext
  obtain ⟨current, -, hnext⟩ := hnext
  split at hnext
  · obtain rfl := (pure_eq_ok _ _).1 hnext
    trivial
  · simp only [bind_eq_ok, pure_eq_ok] at hnext
    obtain ⟨-, -, rfl⟩ := hnext
    trivial

theorem beginDelete_plain {h : Hosting} {ref : WorkspaceRef} {next : Thread}
    (hnext : beginDelete h ref = .ok next) : next.Plain := by
  simp only [beginDelete, bind_eq_ok, pure_eq_ok] at hnext
  obtain ⟨current, -, -, -, rfl⟩ := hnext
  split <;> trivial

theorem readHosting_plain {input : Input} {request : Request} {x : Call Thread}
    (hx : ∀ next, x = .ok next → next.Plain) : (s.readHosting input request x).2.Plain := by
  refine statement_thread_rule (P := Thread.Plain) Thread.plain_thrown fun _ next h => ?_
  simp only [bind_eq_ok, pure_eq_ok, Prod.mk.injEq] at h
  obtain ⟨-, -, _, hnext, -, rfl⟩ := h
  exact hx _ hnext

/-- STEP: the first statement of a call that issues no session. -/
theorem begin_plain {request : Request} {began : ℕ} {input : Input}
    (h : ∀ issue, request ≠ .issueHumanSession issue) :
    (s.begin runtime request began input).2.Plain := by
  cases request with
  | issueHumanSession issue => exact absurd rfl (h issue)
  | reconcileWorkspace ref => exact readHosting_plain fun _ => beginReconcile_plain
  | deleteWorkspace ref confirmation => exact readHosting_plain fun _ => beginDelete_plain
  | rotateWorkspaceCredentials ref rotationId =>
    refine readHosting_plain fun next hnext => ?_
    simp only [bind_eq_ok, pure_eq_ok] at hnext
    obtain ⟨_, -, rfl⟩ := hnext
    trivial
  | createBackup ref backupId lifetimeMs =>
    refine readHosting_plain fun next hnext => ?_
    simp only [bind_eq_ok, pure_eq_ok] at hnext
    obtain ⟨_, -, rfl⟩ := hnext
    trivial
  | restoreBackup ref backupId =>
    refine readHosting_plain fun next hnext => ?_
    simp only [bind_eq_ok, pure_eq_ok] at hnext
    obtain ⟨_, -, rfl⟩ := hnext
    trivial
  | suspendWorkspace ref =>
    simp only [begin, onHosting]
    refine statement_thread_rule (P := Thread.Plain) Thread.plain_thrown fun _ affected _ => ?_
    split <;> trivial
  | revokeDevice tenantId deviceId expectedRevision =>
    simp only [begin, onIdentities]
    refine statement_thread_rule (P := Thread.Plain) Thread.plain_thrown fun _ affected _ => ?_
    split <;> trivial
  | recoverHuman tenantId principalId proofId =>
    simp only [begin, onIdentities]
    refine statement_thread_rule (P := Thread.Plain) Thread.plain_thrown fun _ answer _ => ?_
    cases answer <;> trivial
  | enrollDevice enroll =>
    simp only [begin, onIdentities]
    refine statement_thread_rule (P := Thread.Plain) Thread.plain_thrown fun _ _ _ => ?_
    trivial
  | createTenant create =>
    refine statement_thread_rule (P := Thread.Plain) Thread.plain_thrown fun _ _ _ => ?_
    trivial
  | suspendTenant tenantId confirmation =>
    refine statement_thread_rule (P := Thread.Plain) Thread.plain_thrown fun _ _ _ => ?_
    trivial
  | provisionWorkspace provision =>
    refine statement_thread_rule (P := Thread.Plain) Thread.plain_thrown fun _ answer _ => ?_
    cases answer <;> trivial
  | registerPrincipal register =>
    refine statement_thread_rule (P := Thread.Plain) Thread.plain_thrown fun _ _ _ => ?_
    trivial

end ControlPlane

end Tasq.Cloud
