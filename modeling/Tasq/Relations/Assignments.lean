import Mathlib.Tactic
import Tasq.Relations.Mirror

/-! Assignments: what one principal asks of another on a commitment, and the answers.

    The states are written twice, as the table of `transitionAssignment` and as the CHECK of the
    `assignment` table, which says which times each status has. A stored row satisfies the CHECK, so
    an update either leaves a row that does, or is refused. -/

namespace Tasq

open Text Outcome

/-- `AssignmentStatus` -/
inductive AssignmentStatus where
  | proposed | accepted | rejected | revoked | released
  deriving DecidableEq, Repr

instance instToStringAssignmentStatus : ToString AssignmentStatus where
  toString
    | .proposed => "proposed"
    | .accepted => "accepted"
    | .rejected => "rejected"
    | .revoked => "revoked"
    | .released => "released"

/-- The role of an assignee, or the absolute URI of a role of a user's own. -/
inductive AssignmentRole where
  | owner | contributor | reviewer | approver
  | uri (value : String)
  deriving DecidableEq, Repr

/-- The columns of `assignment`. -/
structure AssignmentColumns where
  taskId : UuidV7
  assignerPrincipalId : String
  assigneePrincipalId : String
  role : AssignmentRole
  status : AssignmentStatus
  instructionsRef : Option String
  acceptedAt : Option UnixMs
  endedAt : Option UnixMs
  revision : ℕ
  createdAt : UnixMs
  updatedAt : UnixMs
  deriving DecidableEq

namespace AssignmentColumns

variable (r : AssignmentColumns)

/-- `assignment_lifecycle_check`: the times that each status has. -/
def Lifecycle : Prop :=
  r.status = .proposed ∧ r.acceptedAt = none ∧ r.endedAt = none ∨
    r.status = .accepted ∧ r.acceptedAt ≠ none ∧ r.endedAt = none ∨
    (r.status = .rejected ∨ r.status = .revoked) ∧ r.acceptedAt = none ∧ r.endedAt ≠ none ∨
    r.status = .released ∧ r.acceptedAt ≠ none ∧ r.endedAt ≠ none

instance : Decidable r.Lifecycle := by unfold Lifecycle; infer_instance

/-- The columns that an update may not touch. -/
def SameIdentity (old : AssignmentColumns) : Prop :=
  r.taskId = old.taskId ∧ r.assignerPrincipalId = old.assignerPrincipalId ∧
    r.assigneePrincipalId = old.assigneePrincipalId ∧ r.role = old.role ∧
    r.instructionsRef = old.instructionsRef

instance (old : AssignmentColumns) : Decidable (r.SameIdentity old) := by
  unfold SameIdentity; infer_instance

/-- What `transitionAssignment` writes. -/
def moved (target : AssignmentStatus) (now : UnixMs) : AssignmentColumns :=
  { r with
    status := target
    acceptedAt := if target = .accepted then some now else r.acceptedAt
    endedAt := if target ∈ [AssignmentStatus.rejected, .revoked, .released] then some now else none
    updatedAt := now
    revision := r.revision + 1 }

end AssignmentColumns

/-- A row of `assignment`. -/
structure Assignment extends AssignmentColumns where
  lifecycle : toAssignmentColumns.Lifecycle
  positive : 0 < revision

/-- The row, where the CHECKs of the table admit the columns. -/
def AssignmentColumns.stored (r : AssignmentColumns) : Call Assignment :=
  if hrevision : 0 < r.revision then
    if hlifecycle : r.Lifecycle then .ok ⟨r, hlifecycle, hrevision⟩
    else .error (.constraint "assignment_lifecycle_check")
  else .error (.constraint "assignment_revision_check")

/-- The table of `transitionAssignment`. -/
def AssignmentStatus.allows (before target : AssignmentStatus) : Bool :=
  (before = .proposed && target ∈ [AssignmentStatus.accepted, .rejected, .revoked]) ||
    (before = .accepted && target ∈ [AssignmentStatus.released, .revoked])

/-- The principal whose transition it is. -/
def AssignmentColumns.entitled (r : AssignmentColumns) (target : AssignmentStatus)
    (callerId : String) : Prop :=
  (target ∈ [AssignmentStatus.accepted, .rejected, .released] → callerId = r.assigneePrincipalId) ∧
    (target = .revoked → callerId = r.assignerPrincipalId)

/-- The assignments of one workspace. -/
structure AssignmentStore where
  work : WorkStore
  assignments : Table UuidV7 Assignment

namespace AssignmentStore

variable (s : AssignmentStore) (rt : WorkRuntime)

/-- `UPDATE assignment ... WHERE id AND revision RETURNING`, with the triggers of the table. -/
def updateAssignment (id : UuidV7) (expectedRevision : ℕ)
    (set : AssignmentColumns → AssignmentColumns) : Call (AssignmentStore × Option Assignment) :=
  match s.assignments[id]?.filter fun r => r.revision = expectedRevision with
  | none => pure (s, none)
  | some old => do
    let new := set old.toAssignmentColumns
    refuse (new.revision ≠ old.revision + 1)
      (.constraint "assignment revision must increment by one")
    refuse (¬ new.SameIdentity old.toAssignmentColumns)
      (.constraint "assignment identity is immutable")
    let row ← new.stored
    pure ({ s with assignments := s.assignments.insert id row }, some row)

/-- `transitionAssignment` -/
def transitionAssignment (id : UuidV7) (target : AssignmentStatus) (expectedRevision : ℕ)
    (ctx : PrincipalContext) : Call (AssignmentStore × Assignment) := do
  let before ← demand s.assignments[id]? (.error s!"Assignment not found: {id}")
  let (work, caller) ← s.work.resolveCallerPrincipal rt ctx
  let s := { s with work := work }
  refuse (target ∈ [AssignmentStatus.accepted, .rejected, .released] ∧
      caller.id ≠ before.assigneePrincipalId)
    (.error s!"Only the assignee may {target} assignment {id}")
  refuse (target = .revoked ∧ caller.id ≠ before.assignerPrincipalId)
    (.error s!"Only the assigner may revoke assignment {id}")
  if before.status = target then pure (s, before)
  else
    refuse (before.status.allows target = false)
      (.error s!"Invalid assignment transition: {before.status} → {target}")
    let (s, row) ← s.updateAssignment id expectedRevision fun r => r.moved target ctx.now
    let result ← demand row (.error s!"Stale assignment revision: expected {expectedRevision}")
    let work ← s.work.recordEvent rt (ctx.actorLabel caller) (some caller.id)
    pure ({ s with work := work }, result)

/-- `acceptAssignment` -/
def acceptAssignment (id : UuidV7) := s.transitionAssignment rt id .accepted

/-- `rejectAssignment` -/
def rejectAssignment (id : UuidV7) := s.transitionAssignment rt id .rejected

/-- `revokeAssignment` -/
def revokeAssignment (id : UuidV7) := s.transitionAssignment rt id .revoked

/-- `releaseAssignment` -/
def releaseAssignment (id : UuidV7) := s.transitionAssignment rt id .released

end AssignmentStore

/-! ### What the CHECK says of a transition -/

namespace AssignmentColumns

theorem moved_sameIdentity (r : AssignmentColumns) (target : AssignmentStatus) (now : UnixMs) :
    (r.moved target now).SameIdentity r :=
  ⟨rfl, rfl, rfl, rfl, rfl⟩

/-- An assignment that was not accepted has no time of acceptance, and one that was has one. -/
theorem Lifecycle.acceptedAt {r : AssignmentColumns} (h : r.Lifecycle) :
    (r.status = .proposed → r.acceptedAt = none) ∧
      (r.status = .accepted → r.acceptedAt ≠ none) := by
  constructor
  · intro hstatus
    simp only [Lifecycle, hstatus, reduceCtorEq, false_and, or_false, true_and, or_self] at h
    exact h.1
  · intro hstatus
    simp only [Lifecycle, hstatus, reduceCtorEq, false_and, or_false, false_or, true_and,
      or_self] at h
    exact h.1

/-- STEP: the CHECK admits every transition of the table but one. An accepted assignment keeps the
    time of its acceptance when it is revoked, and a revoked one must not have it. -/
theorem moved_lifecycle_iff {r : AssignmentColumns} (h : r.Lifecycle) {target : AssignmentStatus}
    (hallows : r.status.allows target = true) (now : UnixMs) :
    (r.moved target now).Lifecycle ↔ ¬ (r.status = .accepted ∧ target = .revoked) := by
  simp only [AssignmentStatus.allows, Bool.or_eq_true, Bool.and_eq_true, decide_eq_true_eq,
    List.mem_cons, List.not_mem_nil, or_false] at hallows
  rcases hallows with ⟨hstatus, rfl | rfl | rfl⟩ | ⟨hstatus, rfl | rfl⟩
  · simp [Lifecycle, moved, hstatus]
  · have hnone := h.acceptedAt.1 hstatus
    simp [Lifecycle, moved, hstatus, hnone]
  · have hnone := h.acceptedAt.1 hstatus
    simp [Lifecycle, moved, hstatus, hnone]
  · have hsome := h.acceptedAt.2 hstatus
    simp [Lifecycle, moved, hstatus, hsome]
  · have hsome := h.acceptedAt.2 hstatus
    simp [Lifecycle, moved, hstatus, hsome]

theorem stored_eq_ok {r : AssignmentColumns} {row : Assignment} :
    r.stored = .ok row ↔ row.toAssignmentColumns = r := by
  unfold stored
  split
  · split
    · constructor
      · intro h
        cases h
        rfl
      · rintro rfl
        rfl
    · rename_i hnot
      constructor
      · intro h
        cases h
      · rintro rfl
        exact absurd row.lifecycle hnot
  · rename_i hnot
    constructor
    · intro h
      cases h
    · rintro rfl
      exact absurd row.positive hnot

end AssignmentColumns

/-! ### Attribution -/

/-- What the primary key of `principal` and the `Principal` schema promise of its rows. -/
structure PrincipalRows (ps : List Principal) : Prop where
  ids : (ps.map (·.id)).Nodup
  id_ne : ∀ p ∈ ps, p.id ≠ ""
  alias_ne : ∀ p ∈ ps, p.localAlias ≠ some ""

theorem localPrincipalId_ne (rt : Runtime) (tenantId name : String) :
    localPrincipalId rt tenantId name ≠ "" := by
  unfold localPrincipalId
  dsimp only
  split
  · intro h
    have hlength := congrArg String.length h
    simp [String.length_append] at hlength
  · intro h
    have hlength := congrArg String.length h
    simp [String.length_append] at hlength

/-- The row of an id. -/
theorem PrincipalRows.find?_id {ps : List Principal} (h : PrincipalRows ps) {p : Principal}
    (hp : p ∈ ps) : ps.find? (·.id = p.id) = some p := by
  induction ps with
  | nil => simp at hp
  | cons q ps ih =>
    have hids := h.ids
    rw [List.map_cons, List.nodup_cons] at hids
    rcases List.mem_cons.1 hp with rfl | hp
    · simp
    · have hne : q.id ≠ p.id := by
        intro heq
        exact hids.1 (heq ▸ List.mem_map_of_mem hp)
      rw [List.find?_cons_of_neg (by simpa using hne)]
      exact ih ⟨hids.2, fun a ha => h.id_ne a (by simp [ha]),
        fun a ha => h.alias_ne a (by simp [ha])⟩ hp

/-- A new principal keeps the promise. -/
theorem PrincipalRows.concat {ps : List Principal} (h : PrincipalRows ps) {p : Principal}
    (hnew : ¬ ∃ q ∈ ps, q.id = p.id) (hid : p.id ≠ "") (halias : p.localAlias ≠ some "") :
    PrincipalRows (ps ++ [p]) := by
  refine ⟨?_, ?_, ?_⟩
  · rw [List.map_append, List.nodup_append]
    refine ⟨h.ids, by simp, ?_⟩
    intro a ha b hb heq
    obtain ⟨q, hq, rfl⟩ := List.mem_map.1 ha
    rw [List.map_singleton, List.mem_singleton] at hb
    exact hnew ⟨q, hq, heq.trans hb⟩
  · intro q hq
    rcases List.mem_append.1 hq with hq | hq
    · exact h.id_ne q hq
    · rw [List.mem_singleton.1 hq]
      exact hid
  · intro q hq
    rcases List.mem_append.1 hq with hq | hq
    · exact h.alias_ne q hq
    · rw [List.mem_singleton.1 hq]
      exact halias

/-- A local actor is resolved to an enabled principal, by rows that keep the promise. -/
theorem ensureLocalPrincipal_rows {rt : Runtime} {l l' : Ledger} (h : PrincipalRows l.principals)
    {actor : String} (hensure : l.ensureLocalPrincipal rt actor = .ok l') {p : Principal}
    (hp : l'.principals.find? (·.localAlias = some actor) = some p) :
    PrincipalRows l'.principals ∧ p.enabled = true := by
  simp only [Ledger.ensureLocalPrincipal, bind_eq_ok, refuse_eq_ok] at hensure
  obtain ⟨-, hblank, hensure⟩ := hensure
  split at hensure
  · rename_i q hq
    simp only [bind_eq_ok, refuse_eq_ok, pure_eq_ok, exists_const] at hensure
    obtain ⟨henabled, rfl⟩ := hensure
    rw [hq, Option.some.injEq] at hp
    subst hp
    exact ⟨h, by simpa using henabled⟩
  · rename_i hnone
    simp only [bind_eq_ok, refuse_eq_ok, pure_eq_ok, exists_const] at hensure
    obtain ⟨hnew, -, rfl⟩ := hensure
    have hid := localPrincipalId_ne rt l.workspaceId actor
    generalize localPrincipalId rt l.workspaceId actor = id at hnew hid hp ⊢
    refine ⟨h.concat hnew hid ?_, ?_⟩
    · intro halias
      rw [Option.some.injEq] at halias
      rw [halias] at hblank
      exact hblank (by decide)
    · rw [List.find?_append, hnone, Option.none_or, List.find?_cons_of_pos (by simp),
        Option.some.injEq] at hp
      rw [← hp]

namespace WorkStore

/-- ATTRIBUTION: the event of a caller who was resolved is recorded, under any label that is not
    empty. -/
theorem recordEvent_of_resolved {s s' : WorkStore} {rt : WorkRuntime} {ctx : PrincipalContext}
    {caller : Principal} (hrows : PrincipalRows s.principals) (hlabel : ctx.actor ≠ some "")
    (h : s.resolveCallerPrincipal rt ctx = .ok (s', caller)) :
    ∃ s'', s'.recordEvent rt (ctx.actorLabel caller) (some caller.id) = .ok s'' := by
  have hfound : caller.enabled = true ∧ caller ∈ s'.principals ∧ PrincipalRows s'.principals := by
    simp only [resolveCallerPrincipal, bind_eq_ok, Prod.exists, pure_eq_ok, Prod.mk.injEq] at h
    obtain ⟨e, p, hcaller, rfl, rfl⟩ := h
    unfold EffectStore.contextPrincipal at hcaller
    split at hcaller
    · simp only [bind_eq_ok, demand_eq_ok, refuse_eq_ok, pure_eq_ok, Prod.mk.injEq,
        exists_const] at hcaller
      obtain ⟨q, hq, henabled, rfl, rfl⟩ := hcaller
      exact ⟨by simpa using henabled, List.mem_of_find?_eq_some hq, hrows⟩
    · simp only [bind_eq_ok, demand_eq_ok, pure_eq_ok, Prod.mk.injEq] at hcaller
      obtain ⟨l, hensure, q, hq, rfl, rfl⟩ := hcaller
      obtain ⟨hl, henabled⟩ := ensureLocalPrincipal_rows hrows hensure hq
      exact ⟨henabled, List.mem_of_find?_eq_some hq, hl⟩
  obtain ⟨henabled, hmem, hrows'⟩ := hfound
  have hid := hrows'.id_ne caller hmem
  have hactor : ctx.actorLabel caller ≠ "" := by
    unfold PrincipalContext.actorLabel
    cases hctx : ctx.actor with
    | some actor => simpa [hctx] using hlabel
    | none =>
      cases halias : caller.localAlias with
      | some name => simpa [halias] using hrows'.alias_ne caller hmem
      | none => simpa using hid
  have hfind := hrows'.find?_id hmem
  refine ⟨s', ?_⟩
  simp only [recordEvent, Ledger.recordEvent, ledger, bind_eq_ok, pure_eq_ok, refuse_eq_ok, hfind]
  exact ⟨s'.ledger, ⟨(), by simp [hactor, hid], (), by simp [henabled], rfl⟩, rfl⟩

end WorkStore

/-! ### Transitions -/

namespace AssignmentStore

variable {s s' : AssignmentStore} {rt : WorkRuntime}

/-- UPDATE: at the revision that is stored, the update leaves the row that it names, exactly when
    the CHECK admits it. -/
theorem updateAssignment_moved {id : UuidV7} {before : Assignment}
    (hbefore : s.assignments[id]? = some before) (target : AssignmentStatus) (now : UnixMs)
    (row : Option Assignment) :
    s.updateAssignment id before.revision (fun r => r.moved target now) = .ok (s', row) ↔
      ∃ after, after.toAssignmentColumns = before.moved target now ∧ row = some after ∧
        s' = { s with assignments := s.assignments.insert id after } := by
  have hfilter :
      s.assignments[id]?.filter (fun r => r.revision = before.revision) = some before := by
    simp [hbefore]
  simp only [updateAssignment, hfilter, bind_eq_ok, refuse_eq_ok, pure_eq_ok, Prod.mk.injEq,
    AssignmentColumns.stored_eq_ok, exists_const]
  constructor
  · rintro ⟨-, -, after, hafter, rfl, rfl⟩
    exact ⟨after, hafter, rfl, rfl⟩
  · rintro ⟨after, hafter, rfl, rfl⟩
    exact ⟨by simp [AssignmentColumns.moved],
      not_not.2 (AssignmentColumns.moved_sameIdentity _ _ _), after, hafter, rfl, rfl⟩

/-- What the caller of a transition has to bring: a principal, entitled to the transition, the
    stored revision, and a label that the events take. -/
structure Presents (s : AssignmentStore) (rt : WorkRuntime) (before : Assignment)
    (target : AssignmentStatus) (expectedRevision : ℕ) (ctx : PrincipalContext) : Prop where
  revision : expectedRevision = before.revision
  label : ctx.actor ≠ some ""
  caller : ∃ work caller, s.work.resolveCallerPrincipal rt ctx = .ok (work, caller) ∧
    before.entitled target caller.id

/-- The transition is made: the call returns the stored row, in the status that was asked for, and
    every other assignment stays. -/
def Transitions (s : AssignmentStore) (rt : WorkRuntime) (id : UuidV7) (before : Assignment)
    (target : AssignmentStatus) (expectedRevision : ℕ) (ctx : PrincipalContext) : Prop :=
  ∃ s' after, s.transitionAssignment rt id target expectedRevision ctx = .ok (s', after) ∧
    after.status = target ∧ after.revision = before.revision + 1 ∧
    after.SameIdentity before.toAssignmentColumns ∧
    s'.assignments = s.assignments.insert id after

/-- The transition is made exactly when what it writes meets the CHECK. -/
theorem transitions_iff_lifecycle (hrows : PrincipalRows s.work.principals) {id : UuidV7}
    {before : Assignment} (hbefore : s.assignments[id]? = some before) {target : AssignmentStatus}
    (hallows : before.status.allows target = true) {expectedRevision : ℕ} {ctx : PrincipalContext}
    (hpresents : s.Presents rt before target expectedRevision ctx) :
    s.Transitions rt id before target expectedRevision ctx ↔
      (before.moved target ctx.now).Lifecycle := by
  obtain ⟨rfl, hlabel, work, caller, hcaller, hassignee, hassigner⟩ := hpresents
  obtain ⟨work', hevent⟩ := WorkStore.recordEvent_of_resolved hrows hlabel hcaller
  have hstatus : before.status ≠ target := by
    rintro rfl
    revert hallows
    cases before.status <;> decide
  have hcall : ∀ result, s.transitionAssignment rt id target before.revision ctx = .ok result ↔
      ∃ s₂ after, ({ s with work := work } : AssignmentStore).updateAssignment id before.revision
          (fun r => r.moved target ctx.now) = .ok (s₂, some after) ∧
        ∃ work', s₂.work.recordEvent rt (ctx.actorLabel caller) (some caller.id) = .ok work' ∧
          ({ s₂ with work := work' }, after) = result := by
    intro result
    simp only [transitionAssignment, hbefore, hcaller, bind_eq_ok, demand_eq_ok, refuse_eq_ok,
      Except.ok.injEq, Option.some.injEq, exists_eq_left', if_neg hstatus, pure_eq_ok, Prod.exists]
    constructor
    · rintro ⟨-, -, -, -, -, -, s₂, row, hupdate, after, rfl, work', hevent, rfl⟩
      exact ⟨s₂, after, hupdate, work', hevent, rfl⟩
    · rintro ⟨s₂, after, hupdate, work', hevent, rfl⟩
      exact ⟨(), fun h => h.2 (hassignee h.1), (), fun h => h.2 (hassigner h.1), (),
        by simp [hallows], s₂, some after, hupdate, after, rfl, work', hevent, rfl⟩
  constructor
  · rintro ⟨s', after, h, -, -, -, -⟩
    obtain ⟨s₂, row, hupdate, -⟩ := (hcall _).1 h
    obtain ⟨after, hafter, -, -⟩ :=
      (updateAssignment_moved (s := { s with work := work }) hbefore target ctx.now _).1 hupdate
    exact hafter ▸ after.lifecycle
  · intro hlifecycle
    let after : Assignment := ⟨before.moved target ctx.now, hlifecycle, Nat.succ_pos _⟩
    have hupdate := (updateAssignment_moved (s := { s with work := work }) hbefore target ctx.now
      (some after)).2 ⟨after, rfl, rfl, rfl⟩
    exact ⟨_, after, (hcall _).2 ⟨_, after, hupdate, work', hevent, rfl⟩, rfl, rfl,
      AssignmentColumns.moved_sameIdentity _ _ _, rfl⟩

/-- EXACT: of the transitions in the table of the code, for whoever may make them, all succeed but
    the revocation of an accepted assignment, which the table of the database refuses. -/
theorem transition_agrees_iff (rt : WorkRuntime) (s : AssignmentStore)
    (hrows : PrincipalRows s.work.principals) (id : UuidV7) (before : Assignment)
    (hbefore : s.assignments[id]? = some before) (target : AssignmentStatus)
    (hallows : before.status.allows target = true) (expectedRevision : ℕ) (ctx : PrincipalContext)
    (hpresents : s.Presents rt before target expectedRevision ctx) :
    ((before.moved target ctx.now).Lifecycle ∧
        s.Transitions rt id before target expectedRevision ctx) ↔
      ¬ (before.status = .accepted ∧ target = .revoked) := by
  rw [transitions_iff_lifecycle hrows hbefore hallows hpresents, and_self]
  exact AssignmentColumns.moved_lifecycle_iff before.lifecycle hallows ctx.now

/-! ### Two principals and an assignment -/

/-- An assignment that was accepted. -/
def plainAccepted : Assignment where
  taskId := 1
  assignerPrincipalId := "p"
  assigneePrincipalId := "q"
  role := .reviewer
  status := .accepted
  instructionsRef := none
  acceptedAt := some 2
  endedAt := none
  revision := 2
  createdAt := 1
  updatedAt := 2
  lifecycle := by decide
  positive := by decide

/-- The assigner, the assignee and the assignment. -/
def plainAssignments : AssignmentStore where
  work := WorkStore.opening "w" [⟨"p", some "p", true⟩, ⟨"q", some "q", true⟩]
  assignments := Std.ExtTreeMap.ofList [(5, plainAccepted)]

/-- The caller of the calls below. -/
def plainAssignmentCaller (id : String) : PrincipalContext where
  actor := none
  principalId := some id
  idempotencyKey := none
  now := 3

/-- The assignee releases the assignment. -/
theorem transition_agrees_released :
    ((plainAccepted.moved .released 3).Lifecycle ∧
      plainAssignments.Transitions plainWorkRuntime 5 plainAccepted .released 2
        (plainAssignmentCaller "q")) ↔
      ¬ (plainAccepted.status = .accepted ∧ AssignmentStatus.released = .revoked) :=
  transition_agrees_iff plainWorkRuntime plainAssignments
    ⟨by decide, by decide, by decide⟩ 5 plainAccepted rfl .released
    rfl 2 (plainAssignmentCaller "q")
    ⟨rfl, by decide, _, ⟨"q", some "q", true⟩, rfl, by decide, by decide⟩

/-- NOT SO: the assigner may revoke an accepted assignment by the table of the code, and the CHECK of
    the table refuses what the call writes. -/
theorem accepted_revocation_refused :
    plainAccepted.status.allows .revoked = true ∧
      plainAssignments.assignments[(5 : UuidV7)]? = some plainAccepted ∧
      plainAssignments.Presents plainWorkRuntime plainAccepted .revoked 2
        (plainAssignmentCaller "p") ∧
      plainAssignments.revokeAssignment plainWorkRuntime 5 2 (plainAssignmentCaller "p") =
        .error (.constraint "assignment_lifecycle_check") :=
  ⟨rfl, rfl, ⟨rfl, by decide, _, ⟨"p", some "p", true⟩, rfl, by decide, by decide⟩, rfl⟩

end AssignmentStore

end Tasq
