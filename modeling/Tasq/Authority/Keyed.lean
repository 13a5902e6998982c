import Mathlib.Tactic
import Tasq.Authority.Revision
import Tasq.Authority.Writes

/-! The primary keys and the uniqueness constraints of the authority tables, as an invariant of the
    store. -/

namespace Tasq.Authority

open Text Outcome Rows

namespace AuthorityRows

/-- No two rows of a table share a key. -/
structure Keyed (rows : AuthorityRows) : Prop where
  principals : (rows.principals.map fun p => (p.workspaceId, p.id)).Nodup
  bindings : (rows.bindings.map fun b => (b.workspaceId, b.id)).Nodup
  subjects : (rows.bindings.map fun b => (b.workspaceId, b.issuer, b.subject)).Nodup
  permissionSets : (rows.permissionSets.map fun p =>
    (p.workspaceId, p.definition.uri, p.definition.version)).Nodup
  grants : (rows.grants.map fun g => (g.workspaceId, g.id)).Nodup
  delegations : (rows.delegations.map fun d => (d.workspaceId, d.id)).Nodup
  eligibilities : (rows.eligibilities.map fun e => (e.workspaceId, e.id)).Nodup
  kinds : (rows.eligibilities.map fun e => (e.workspaceId, e.principalId, e.kind)).Nodup
  enrollments : (rows.enrollments.map EnrollmentRecord.id).Nodup
  tokens : (rows.enrollments.map EnrollmentRecord.tokenDigest).Nodup

variable {rt : AuthorityRuntime} {m : Mutation} {now : ℕ} {rows rows' : AuthorityRows}

/-- STEP: every write keeps the keys unique. -/
theorem Write.keyed (h : Write rt m now rows rows') (hrows : rows.Keyed) : rows'.Keyed := by
  cases h with
  | registerPrincipal p principals _ h =>
    exact { hrows with principals := insertRow_nodup hrows.principals (by simp) h }
  | disablePrincipal _ _ _ principals _ h =>
    exact { hrows with principals := updateRow_nodup hrows.principals h fun _ => rfl }
  | bindSubject b bindings _ h _ _ =>
    exact { hrows with
      bindings := insertRow_nodup hrows.bindings (by simp +contextual) h
      subjects := insertRow_nodup hrows.subjects (by simp +contextual) h }
  | disableBinding _ _ _ _ bindings _ h _ =>
    exact { hrows with
      bindings := updateRow_nodup hrows.bindings h fun _ => rfl
      subjects := updateRow_nodup hrows.subjects h fun _ => rfl }
  | insertPermissionSet _ p sets _ h =>
    exact { hrows with permissionSets := insertRow_nodup hrows.permissionSets (by simp) h }
  | retirePermissionSet _ _ _ _ sets _ h =>
    exact { hrows with permissionSets := updateRow_nodup hrows.permissionSets h fun _ => rfl }
  | insertGrant g grants _ h _ _ _ =>
    exact { hrows with grants := insertRow_nodup hrows.grants (by simp) h }
  | revokeGrant _ _ _ _ grants _ h =>
    exact { hrows with grants := updateRow_nodup hrows.grants h fun _ => rfl }
  | insertDelegation d delegations _ h _ _ =>
    exact { hrows with delegations := insertRow_nodup hrows.delegations (by simp) h }
  | revokeDelegation _ _ _ _ delegations _ h =>
    exact { hrows with delegations := updateRow_nodup hrows.delegations h fun _ => rfl }
  | grantEligibility e eligibilities _ h _ =>
    exact { hrows with
      eligibilities := insertRow_nodup hrows.eligibilities (by simp +contextual) h
      kinds := insertRow_nodup hrows.kinds (by simp +contextual) h }
  | revokeEligibility _ _ _ eligibilities _ h =>
    exact { hrows with
      eligibilities := updateRow_nodup hrows.eligibilities h fun _ => rfl
      kinds := updateRow_nodup hrows.kinds h fun _ => rfl }
  | createEnrollment e enrollments _ h =>
    exact { hrows with
      enrollments := insertRow_nodup hrows.enrollments (by simp +contextual) h
      tokens := insertRow_nodup hrows.tokens (by simp +contextual) h }
  | revokeEnrollment _ _ enrollments _ h =>
    exact { hrows with
      enrollments := updateRow_nodup hrows.enrollments h fun _ => rfl
      tokens := updateRow_nodup hrows.tokens h fun _ => rfl }
  | revokeAccessCredential => exact { hrows with }

end AuthorityRows

namespace AuthorityStore

/-- No two rows of a table share a key, workspaces included. -/
structure Keyed (s : AuthorityStore) : Prop extends s.toAuthorityRows.Keyed where
  workspaces : (s.workspaces.map HostedWorkspace.workspaceId).Nodup

variable {rt : AuthorityRuntime} {s : AuthorityStore}

theorem keyed_empty : empty.Keyed := by
  constructor
  · constructor <;> exact List.nodup_nil
  · exact List.nodup_nil

@[simp] theorem spent_id (e : EnrollmentRecord) (now : ℕ) (f : EnrollmentRecord) :
    (spent e now f).id = f.id := by
  unfold spent
  split <;> rfl

@[simp] theorem spent_tokenDigest (e : EnrollmentRecord) (now : ℕ) (f : EnrollmentRecord) :
    (spent e now f).tokenDigest = f.tokenDigest := by
  unfold spent
  split <;> rfl

/-- STEP: every call keeps the keys unique. -/
theorem keyed_step (action : AuthorityAction) (hs : s.Keyed) : (step rt s action).Keyed := by
  refine step_rule action hs ?_ ?_ ?_ ?_ ?_
  · intro m context now m' apply w rows _ hhands _ hcommits
    refine ⟨(hhands.writes hcommits.apply).invariant (fun _ _ h => h.keyed) hs.toKeyed, ?_⟩
    simpa [committed, List.map_map, Function.comp_def] using hs.workspaces
  · intro tenants row operation _ _ _
    exact { hs with }
  · intro w row operation _ hnew _ _ _ _
    refine { hs with workspaces := ?_ }
    rw [List.map_append, List.nodup_append]
    refine ⟨hs.workspaces, by simp, ?_⟩
    intro id hid id' hid' heq
    obtain ⟨v, hv, rfl⟩ := List.mem_map.1 hid
    rw [List.map_singleton, List.mem_singleton] at hid'
    exact hnew v hv (heq.trans hid')
  · intro input now e row _ _ _ _
    exact { hs with
      enrollments := by simpa [List.map_map, Function.comp_def] using hs.enrollments
      tokens := by simpa [List.map_map, Function.comp_def] using hs.tokens }
  · intro input now fails workspace request decision _ _ _ _
    exact { hs with }

/-- RUN: the keys of the tables stay unique. -/
theorem keyed_run (actions : List AuthorityAction) (hs : s.Keyed) : (s.run rt actions).Keyed :=
  Run.run_invariant' (fun _ action hs => keyed_step action hs) actions hs

end AuthorityStore

end Tasq.Authority
