import Mathlib.Tactic
import Tasq.Work.Steps

/-! Runs of the work of a workspace: calls on tasks, attempts, claims, premises and waits, in any
    order, by any callers and at any clock readings. A call that is refused changes nothing, and the
    other services write tables of their own between the calls.

    Every call is a path of moves (`step_steps`). A law of the rows that every admitted move keeps
    holds in every state that a run reaches:

        created, revised, closed, ... ──> law of the rows ──> law of the run -/

namespace Tasq

open Text Outcome OpenRows Run

/-! ### Laws of the rows -/

namespace OpenRows

variable {r r' : OpenRows} {id : UuidV7} {m : Move} {after : Task}

/-- The moves that the calls of a workspace make; a restored task is named by its move. -/
def Ordinary : Move → Prop
  | .erased | .installed _ | .revived => False
  | .spawned deletedAt | .acquired deletedAt => truthy deletedAt = false
  | _ => True

/-- Closing leaves an idle task idle. -/
theorem Idle.lapses (h : r.Idle id) (hlapses : Lapses r r') : r'.Idle id where
  claims k c' hc' htask := by
    obtain ⟨c, hc, rfl | ⟨-, t, rfl⟩⟩ := hlapses.claims.before hc'
    · exact h.claims k _ hc htask
    · simp
  attempts k a' ha' htask := by
    obtain ⟨a, ha, rfl | ⟨hactive, _, -, rfl⟩⟩ := hlapses.attempts.before ha'
    · exact h.attempts k _ ha htask
    · exact absurd hactive (h.attempts k a ha htask)
  waits k w' hw' htask := by
    obtain ⟨w, hw, rfl | ⟨hwaiting, _, -, rfl⟩⟩ := hlapses.waits.before hw'
    · exact h.waits k _ hw htask
    · exact absurd hwaiting (h.waits k w hw htask)

/-- INVARIANT: nothing is open on a task that is done, cancelled or deleted. -/
def Inert (r : OpenRows) : Prop :=
  ∀ (id : UuidV7) row, r.tasks[id]? = some row →
    Ledger.Terminal row.status ∨ truthy row.deletedAt = true → r.Idle id

/-- One row of a task changes, and nothing opens. -/
theorem Inert.write (h : r.Inert) (htasks : r'.tasks = r.tasks.insert id after)
    (hlapses : Lapses r r')
    (hafter : Ledger.Terminal after.status ∨ truthy after.deletedAt = true → r'.Idle id) :
    r'.Inert := by
  intro k row hrow hclosed
  rw [htasks, Table.getElem?_insert'] at hrow
  split at hrow
  · rename_i heq
    obtain rfl := Option.some.inj hrow
    exact heq ▸ hafter hclosed
  · exact (h k row hrow hclosed).lapses hlapses

theorem not_closed {row : Task} (h : ¬ row.Closed) :
    ¬ (Ledger.Terminal row.status ∨ truthy row.deletedAt = true) := by
  simp only [Task.Closed, not_or, not_not] at h
  simp [h.1, h.2, truthy]

/-- STEP: what is closed is idle, whatever move is made. -/
theorem Inert.takes (hm : Ordinary m) (htakes : r.Takes r' m) (h : r.Inert) : r'.Inert := by
  have hsame : ∀ (id : UuidV7) (row : Task), Lapses r (r.WithTask id row) := fun _ _ =>
    .of_eq rfl rfl rfl
  cases m with
  | created =>
    obtain ⟨id, row, hfresh, -, rfl⟩ := htakes
    refine h.write rfl (hsame id row) ?_
    simp [hfresh.open_status, hfresh.not_deleted, Ledger.Terminal, truthy]
  | spawned deletedAt =>
    obtain ⟨_, id, _, row, -, -, hfresh, -, rfl⟩ := htakes
    refine h.write rfl (hsame id row) ?_
    simp [hfresh.open_status, hfresh.not_deleted, Ledger.Terminal, truthy]
  | revised =>
    obtain ⟨id, before, after, hrow, hdeleted, -, hstatus, -, rfl⟩ := htakes
    refine h.write rfl (hsame id after) fun hclosed => (h id before hrow ?_).lapses (hsame id after)
    rcases hstatus with hstatus | ⟨-, hopen⟩
    · rwa [hstatus, hdeleted] at hclosed
    · exact .inr (hdeleted ▸ hclosed.resolve_left hopen)
  | transitioned before status =>
    obtain ⟨id, before, after, hrow, -, rfl, htransitions, htasks, hlapses, hidle⟩ := htakes
    refine h.write htasks hlapses fun hclosed => ?_
    by_cases hterminal : Ledger.Terminal after.status
    · exact hidle hterminal
    · have hdeleted := hclosed.resolve_left hterminal
      rw [htransitions.deletedAt] at hdeleted
      exact (h id before hrow (.inr hdeleted)).lapses hlapses
  | deleted =>
    obtain ⟨id, before, after, hrow, -, -, -, -, hidle, -, rfl⟩ := htakes
    exact h.write rfl (hsame id after) fun _ => hidle.lapses (hsame id after)
  | revived => exact False.elim hm
  | restored id =>
    obtain ⟨before, after, hrow, -, hafter, rfl⟩ := htakes
    refine h.write rfl (hsame id after) fun hclosed => (h id before hrow ?_).lapses (hsame id after)
    rw [hafter] at hclosed
    exact .inl (hclosed.resolve_right (by simp [truthy]))
  | erased => exact False.elim hm
  | installed row => exact False.elim hm
  | closed =>
    obtain ⟨htasks, hlapses⟩ := htakes
    exact fun id row hrow hclosed => (h id row (htasks ▸ hrow) hclosed).lapses hlapses
  | acquired deletedAt =>
    obtain ⟨k, c, row, -, -, hrow, rfl, hopen, rfl⟩ := htakes
    intro id row' hrow' hclosed
    have hidle := h id row' hrow' hclosed
    refine ⟨fun k' c' hc' htask => ?_, hidle.attempts, hidle.waits⟩
    rw [Table.getElem?_insert'] at hc'
    split at hc'
    · obtain rfl := Option.some.inj hc'
      obtain rfl := Option.some.inj ((htask ▸ hrow).symm.trans hrow')
      rcases hclosed with hterminal | hdeleted
      · exact absurd hterminal hopen
      · exact absurd hdeleted (Bool.eq_false_iff.1 hm)
    · exact hidle.claims k' c' hc' htask
  | started taskId =>
    obtain ⟨k, a, row, -, -, hrow, hopen, rfl⟩ := htakes
    intro id row' hrow' hclosed
    have hidle := h id row' hrow' hclosed
    refine ⟨hidle.claims, fun k' a' ha' htask => ?_, hidle.waits⟩
    rw [Table.getElem?_insert'] at ha'
    split at ha'
    · obtain rfl := Option.some.inj ha'
      obtain rfl := Option.some.inj ((htask ▸ hrow).symm.trans hrow')
      exact absurd hclosed (not_closed hopen)
    · exact hidle.attempts k' a' ha' htask
  | waited =>
    obtain ⟨k, w, row, -, hrow, hopen, rfl⟩ := htakes
    intro id row' hrow' hclosed
    have hidle := h id row' hrow' hclosed
    refine ⟨hidle.claims, hidle.attempts, fun k' w' hw' htask => ?_⟩
    rw [Table.getElem?_insert'] at hw'
    split at hw'
    · obtain rfl := Option.some.inj hw'
      obtain rfl := Option.some.inj ((htask ▸ hrow).symm.trans hrow')
      exact absurd hclosed (not_closed hopen)
    · exact hidle.waits k' w' hw' htask

/-- INVARIANT: a task that is done has the instant of its completion, and one that has such an
    instant is done or was taken up again without being reopened. -/
def Stamped (resumed : List UuidV7) (r : OpenRows) : Prop :=
  ∀ (id : UuidV7) row, r.tasks[id]? = some row →
    (row.status = .done → row.completedAt.isSome) ∧
      (row.completedAt.isSome → row.status = .done ∨ id ∈ resumed)

theorem Stamped.mono {resumed more : List UuidV7} (h : r.Stamped resumed)
    (hmore : ∀ id ∈ resumed, id ∈ more) : r.Stamped more := fun id row hrow =>
  ⟨(h id row hrow).1, fun hsome => ((h id row hrow).2 hsome).imp_right (hmore id)⟩

theorem Stamped.write {resumed : List UuidV7} (h : r.Stamped resumed)
    (htasks : r'.tasks = r.tasks.insert id after) (hdone : after.status = .done →
      after.completedAt.isSome)
    (hstamp : after.completedAt.isSome → after.status = .done ∨ id ∈ resumed) :
    r'.Stamped resumed := by
  intro k row hrow
  rw [htasks, Table.getElem?_insert'] at hrow
  split at hrow
  · rename_i heq
    obtain rfl := Option.some.inj hrow
    exact ⟨hdone, heq ▸ hstamp⟩
  · exact h k row hrow

/-- A row that keeps its status and its instant keeps its stamp. -/
theorem Stamped.keep {resumed : List UuidV7} {before : Task} (h : r.Stamped resumed)
    (hrow : r.tasks[id]? = some before) (htasks : r'.tasks = r.tasks.insert id after)
    (hstatus : after.status = before.status) (hinstant : after.completedAt = before.completedAt) :
    r'.Stamped resumed := by
  have hold := h id before hrow
  refine h.write htasks ?_ ?_
  · rw [hstatus, hinstant]
    exact hold.1
  · rw [hstatus, hinstant]
    exact hold.2

/-- STEP: only taking up a task that is done leaves an instant of completion behind. -/
theorem Stamped.takes {resumed : List UuidV7} (hm : Ordinary m)
    (hresume : m ≠ .transitioned .done .inProgress) (htakes : r.Takes r' m)
    (h : r.Stamped resumed) : r'.Stamped resumed := by
  cases m with
  | created =>
    obtain ⟨id, row, hfresh, -, rfl⟩ := htakes
    exact h.write rfl (by simp [hfresh.open_status]) (by simp [hfresh.not_completed])
  | spawned deletedAt =>
    obtain ⟨_, id, _, row, -, -, hfresh, -, rfl⟩ := htakes
    exact h.write rfl (by simp [hfresh.open_status]) (by simp [hfresh.not_completed])
  | revised =>
    obtain ⟨id, before, after, hrow, -, hinstant, hstatus, -, rfl⟩ := htakes
    rcases hstatus with hstatus | ⟨hbefore, hafter⟩
    · exact h.keep hrow rfl hstatus hinstant
    · refine h.write rfl (fun hdone => absurd (.inl hdone) hafter) fun hsome => ?_
      rw [hinstant] at hsome
      exact .inr (((h id before hrow).2 hsome).resolve_left fun hdone => hbefore (.inl hdone))
  | transitioned beforeStatus status =>
    obtain ⟨id, before, after, hrow, rfl, rfl, htransitions, htasks, -, -⟩ := htakes
    refine h.write htasks (fun hdone => htransitions.completedAt.2 (.inl hdone)) fun hsome => ?_
    rcases htransitions.completedAt.1 hsome with hdone | ⟨hbefore, hreopened⟩
    · exact .inl hdone
    · refine .inr (((h id before hrow).2 hbefore).resolve_left fun hdone => ?_)
      -- The table of transitions leads from done to open and to in progress only.
      have hedge := htransitions.edge
      rw [hdone] at hedge hreopened hresume
      rcases (by simpa [TaskStatus.next] using hedge : after.status = .inProgress ∨
        after.status = .open) with hstatus | hstatus
      · exact hresume (by rw [hstatus])
      · exact hreopened ⟨hstatus, rfl⟩
  | deleted =>
    obtain ⟨id, before, after, hrow, -, hstatus, hinstant, -, -, -, rfl⟩ := htakes
    exact h.keep hrow rfl hstatus hinstant
  | revived => exact False.elim hm
  | restored id =>
    obtain ⟨before, after, hrow, -, hafter, rfl⟩ := htakes
    exact h.keep hrow rfl (by rw [hafter]) (by rw [hafter])
  | erased => exact False.elim hm
  | installed row => exact False.elim hm
  | closed =>
    obtain ⟨htasks, -⟩ := htakes
    exact fun id row hrow => h id row (htasks ▸ hrow)
  | acquired deletedAt =>
    obtain ⟨k, c, row, -, -, -, -, -, rfl⟩ := htakes
    exact h
  | started taskId =>
    obtain ⟨k, a, row, -, -, -, -, rfl⟩ := htakes
    exact h
  | waited =>
    obtain ⟨k, w, row, -, -, -, rfl⟩ := htakes
    exact h

/-- INVARIANT: the live tasks form a forest of bounded depth, under their parents. -/
def Hierarchy (r : OpenRows) : Prop :=
  Forest.Bounded (LiveIn r.tasks) (parentIn r.tasks) maxTaskDepth

/-- There is room for the task under the parent that its row names. -/
def Fits (r : OpenRows) (id : UuidV7) : Prop :=
  ∀ row ∈ r.tasks[id]?, ∀ p ∈ row.parentTaskId,
    ∃ d, Forest.Depth (LiveIn r.tasks) (parentIn r.tasks) p d ∧ d + 1 ≤ maxTaskDepth

theorem liveIn_insert {tasks : Table UuidV7 Task} {k : UuidV7} :
    LiveIn (tasks.insert id after) k ↔
      if id = k then after.deletedAt = none else LiveIn tasks k := by
  simp only [LiveIn, Table.getElem?_insert']
  split <;> simp

theorem parentIn_insert {tasks : Table UuidV7 Task} {k : UuidV7} :
    parentIn (tasks.insert id after) k = if id = k then after.parentTaskId else parentIn tasks k := by
  simp only [parentIn, Table.getElem?_insert']
  split <;> rfl

/-- The depth of a live task in a bounded forest is its depth over all rows. -/
theorem Hierarchy.depth {p : UuidV7} {d : ℕ} (h : r.Hierarchy) (hlive : LiveIn r.tasks p)
    (hdepth : DepthIn r.tasks p d) : Forest.Depth (LiveIn r.tasks) (parentIn r.tasks) p d := by
  obtain ⟨n, -, hn⟩ := h p hlive
  rwa [hdepth.unique (depthIn_of_depth hn)]

/-- A row comes alive at the root or where there is room. -/
theorem Hierarchy.hang (h : r.Hierarchy) (hdead : ¬ LiveIn r.tasks id)
    (hafter : after.deletedAt = none)
    (hroom : ∀ p ∈ after.parentTaskId,
      ∃ d, Forest.Depth (LiveIn r.tasks) (parentIn r.tasks) p d ∧ d + 1 ≤ maxTaskDepth) :
    (r.WithTask id after).Hierarchy := by
  refine Forest.Bounded.hang h hdead (fun k => ?_) (fun k hk => ?_) ?_
  · rw [WithTask, liveIn_insert]
    split
    · rename_i heq
      simp [heq, hafter]
    · rename_i hne
      simp [Ne.symm hne]
  · rw [WithTask, parentIn_insert, if_neg]
    rintro rfl
    exact hdead hk
  · rw [WithTask, parentIn_insert, if_pos rfl]
    cases hparent : after.parentTaskId with
    | none => exact .inl ⟨rfl, by decide⟩
    | some p =>
      obtain ⟨d, hd, hroom⟩ := hroom p hparent
      exact .inr ⟨p, d, rfl, hd, hroom⟩

/-- A row that stays alive or dead under the same parent changes nothing. -/
theorem Hierarchy.keep {before : Task} (h : r.Hierarchy) (hrow : r.tasks[id]? = some before)
    (htasks : r'.tasks = r.tasks.insert id after) (hdeleted : after.deletedAt = before.deletedAt)
    (hparent : after.parentTaskId = before.parentTaskId) : r'.Hierarchy := by
  refine Forest.Bounded.congr h (fun k => ?_) (fun k _ => ?_)
  · rw [htasks, liveIn_insert]
    split
    · rename_i heq
      subst heq
      simp [LiveIn, hrow, hdeleted]
    · rfl
  · rw [htasks, parentIn_insert]
    split
    · rename_i heq
      subst heq
      rw [parentIn_of_row hrow, hparent]
    · rfl

/-- STEP: the hierarchy stays bounded, where a restored task fits under its parent and no instance
    follows a task deleted at time zero. -/
theorem Hierarchy.takes (hm : Ordinary m) (hspawned : m ≠ .spawned (some 0))
    (hrestored : ∀ id, m = .restored id → LiveIn r.tasks id ∨ r.Fits id)
    (htakes : r.Takes r' m) (h : r.Hierarchy) : r'.Hierarchy := by
  cases m with
  | created =>
    obtain ⟨id, row, hfresh, hroom, rfl⟩ := htakes
    have hdead : ¬ LiveIn r.tasks id := by
      rintro ⟨_, hrow, _⟩
      exact hfresh.absent (Table.mem_of_getElem? hrow)
    refine h.hang hdead hfresh.not_deleted fun p hp => ?_
    obtain ⟨hlive, d, hd, hroom⟩ := hroom p hp
    exact ⟨d, h.depth hlive hd, hroom⟩
  | spawned deletedAt =>
    obtain ⟨source, id, src, row, hsource, rfl, hfresh, hparent, rfl⟩ := htakes
    have hdead : ¬ LiveIn r.tasks id := by
      rintro ⟨_, hrow, _⟩
      exact hfresh.absent (Table.mem_of_getElem? hrow)
    -- The completed task is live, so its parent has room for one more task.
    have hlive : LiveIn r.tasks source := by
      refine ⟨src, hsource, ?_⟩
      cases hdeleted : src.deletedAt with
      | none => rfl
      | some t =>
        rw [hdeleted] at hm hspawned
        have hzero : t = 0 := by simpa [Ordinary, truthy] using hm
        exact absurd (by rw [hzero]) hspawned
    obtain ⟨n, hn, hdepth⟩ := h source hlive
    refine h.hang hdead hfresh.not_deleted fun p hp => ?_
    obtain ⟨d, rfl, hd⟩ := hdepth.parent
      ((parentIn_of_row hsource).trans (hparent.symm.trans hp))
    exact ⟨d, hd, hn⟩
  | revised =>
    obtain ⟨id, before, after, hrow, hdeleted, -, -, hplace, rfl⟩ := htakes
    rcases hplace with hparent | hrehangs
    · exact h.keep hrow rfl hdeleted hparent
    · refine Forest.Bounded.move (a := id) h (fun k => ?_) (fun k hk => ?_) fun hlive => ?_
      · rw [WithTask, liveIn_insert]
        split
        · rename_i heq
          subst heq
          simp [LiveIn, hrow, hdeleted]
        · rfl
      · rw [WithTask, parentIn_insert, if_neg (Ne.symm hk)]
      · rw [WithTask, parentIn_insert, if_pos rfl]
        cases hp : after.parentTaskId with
        | none => exact .inl rfl
        | some p =>
          obtain ⟨hplive, hother, d, hd, hroom⟩ := hrehangs p hp
          exact .inr (.inr ⟨p, d, rfl, h.depth hplive hd, hother, hroom⟩)
  | transitioned beforeStatus status =>
    obtain ⟨id, before, after, hrow, -, -, htransitions, htasks, -, -⟩ := htakes
    exact h.keep hrow htasks htransitions.deletedAt htransitions.parent
  | deleted =>
    obtain ⟨id, before, after, hrow, hdeleted, -, -, hparent, -, hchildren, rfl⟩ := htakes
    refine Forest.Bounded.cut (a := id) h (fun k hlive hne hup => ?_) (fun k => ?_)
      fun k _ hne => ?_
    · obtain ⟨row, hk, hlive⟩ := hlive
      exact hchildren k row hk ((parentIn_of_row hk).symm.trans hup) hlive
    · rw [WithTask, liveIn_insert]
      split
      · rename_i heq
        simp [heq, hdeleted]
      · rename_i hne
        simp [Ne.symm hne]
    · rw [WithTask, parentIn_insert, if_neg (Ne.symm hne)]
  | revived => exact False.elim hm
  | restored id =>
    obtain ⟨before, after, hrow, hdeleted, hafter, rfl⟩ := htakes
    have hdead : ¬ LiveIn r.tasks id := not_liveIn_of_row hrow hdeleted
    have hparent : after.parentTaskId = before.parentTaskId := by rw [hafter]
    refine h.hang hdead (by rw [hafter]) fun p hp => ?_
    exact (hrestored id rfl).resolve_left hdead before hrow p (hparent ▸ hp)
  | erased => exact False.elim hm
  | installed row => exact False.elim hm
  | closed =>
    obtain ⟨htasks, -⟩ := htakes
    rwa [Hierarchy, htasks]
  | acquired deletedAt =>
    obtain ⟨k, c, row, -, -, -, -, -, rfl⟩ := htakes
    exact h
  | started taskId =>
    obtain ⟨k, a, row, -, -, -, -, rfl⟩ := htakes
    exact h
  | waited =>
    obtain ⟨k, w, row, -, -, -, rfl⟩ := htakes
    exact h

end OpenRows

/-! ### The system -/

/-- One call, or work of the other services. -/
inductive WorkAction where
  | createTask (parsed : TaskInsert) (ctx : PrincipalContext)
  | createTaskWithPremise (parsed : TaskInsert) (requested : PremiseInput)
      (observed : Option Digest) (ctx : PrincipalContext) (freshId : UuidV7)
  | updateTask (id : UuidV7) (parsed : TaskUpdate) (expectedRevision : Option ℕ)
      (ctx : PrincipalContext)
  | softDeleteTask (id : UuidV7) (cascade : Bool) (ctx : PrincipalContext)
  | restoreTask (id : UuidV7) (ctx : PrincipalContext)
  | transitionTaskStatus (id : UuidV7) (status : TaskStatus) (options : StatusChangeOptions)
      (ctx : PrincipalContext)
  | startTaskAttempt (taskId : UuidV7) (options : StartAttemptOptions) (ctx : PrincipalContext)
      (freshId : UuidV7)
  | transitionTaskAttempt (id : UuidV7) (status : AttemptStatus)
      (options : TransitionAttemptOptions) (ctx : PrincipalContext)
  | recordAttemptCost (attemptId : UuidV7) (observation : CostObservation) (verdict : CostVerdict)
      (ctx : PrincipalContext) (freshId : UuidV7)
  | acquireTaskClaim (taskId : UuidV7) (options : AcquireClaimOptions) (ctx : PrincipalContext)
      (freshId : UuidV7)
  | releaseTaskClaim (taskId : UuidV7) (options : ReleaseClaimOptions) (ctx : PrincipalContext)
  | mutatePremise (taskId : UuidV7) (mutation : PremiseMutation) (ctx : PrincipalContext)
      (freshId invalidationId : UuidV7)
  | ingestObservation (parsed : ObservationInsert) (extension actor : Option String)
      (now : UnixMs) (freshId : UuidV7)
  | createWaitCondition (parsed : WaitConditionInsert) (extension : Option String)
      (ctx : PrincipalContext) (freshId : UuidV7)
  | cancelWaitCondition (id : UuidV7) (reason : String) (ctx : PrincipalContext)
  | reconcileWaitObservation (conditionId observationId : UuidV7) (matcherVersion : Option ℕ)
      (ctx : PrincipalContext) (fresh : FreshIds)
  | evaluateWaitConditionDeadline (conditionId : UuidV7)
      (options : WaitStore.EvaluateDeadlineOptions) (fresh : FreshIds)
  | sweepWaitConditionDeadlines (limit : Option ℕ) (options : WaitStore.EvaluateDeadlineOptions)
      (fresh : UuidV7 → FreshIds)
  /-- The other services write the tables that hold neither tasks, claims, attempts nor waits. -/
  | elsewhere (left : WorkStore)

namespace WorkSystem

variable (rt : WorkRuntime)

/-- A call on the work of the workspace. -/
def through {β : Type} (s : WaitStore) (call : Call (WorkStore × β)) : WaitStore :=
  { s with work := settle s.work (Prod.fst <$> call) }

/-- The workspace after an action. A refused call changes nothing. -/
def step (s : WaitStore) : WorkAction → WaitStore
  | .createTask parsed ctx => through s (s.work.createTask rt parsed ctx)
  | .createTaskWithPremise parsed requested observed ctx freshId =>
    through s (s.work.createTaskWithPremise rt parsed requested observed ctx freshId)
  | .updateTask id parsed expectedRevision ctx =>
    through s (s.work.updateTask rt id parsed expectedRevision ctx)
  | .softDeleteTask id cascade ctx =>
    { s with work := settle s.work (s.work.softDeleteTask rt id cascade ctx) }
  | .restoreTask id ctx => through s (s.work.restoreTask rt id ctx)
  | .transitionTaskStatus id status options ctx =>
    through s (s.work.transitionTaskStatus rt id status options ctx)
  | .startTaskAttempt taskId options ctx freshId =>
    through s (s.work.startTaskAttempt rt taskId options ctx freshId)
  | .transitionTaskAttempt id status options ctx =>
    through s (s.work.transitionTaskAttempt rt id status options ctx)
  | .recordAttemptCost attemptId observation verdict ctx freshId =>
    through s (s.work.recordAttemptCost rt attemptId observation verdict ctx freshId)
  | .acquireTaskClaim taskId options ctx freshId =>
    through s (s.work.acquireTaskClaim rt taskId options ctx freshId)
  | .releaseTaskClaim taskId options ctx =>
    through s (s.work.releaseTaskClaim rt taskId options ctx)
  | .mutatePremise taskId mutation ctx freshId invalidationId =>
    through s (s.work.appendPremiseMutation rt taskId mutation ctx freshId invalidationId)
  | .ingestObservation parsed extension actor now freshId =>
    settle s (Prod.fst <$> s.ingestObservation rt parsed extension actor now freshId)
  | .createWaitCondition parsed extension ctx freshId =>
    through s (s.work.createWaitCondition rt parsed extension ctx freshId)
  | .cancelWaitCondition id reason ctx =>
    through s (s.work.cancelWaitCondition rt id reason ctx)
  | .reconcileWaitObservation conditionId observationId matcherVersion ctx fresh =>
    settle s (Prod.fst <$>
      s.reconcileWaitObservation rt conditionId observationId matcherVersion ctx fresh)
  | .evaluateWaitConditionDeadline conditionId options fresh =>
    settle s (Prod.fst <$> s.evaluateWaitConditionDeadline rt conditionId options fresh)
  | .sweepWaitConditionDeadlines limit options fresh =>
    settle s (s.sweepWaitConditionDeadlines rt limit options fresh)
  | .elsewhere left => { s with work := { left with toWorkRows := s.work.toWorkRows } }

/-- A workspace that has its principals and nothing else. -/
def opening (workspaceId : String) (principals : List Principal) : WaitStore :=
  (WaitSystem.opening workspaceId principals).toWaitStore

/-- The moves that an action is made of. -/
def Makes (s : WaitStore) : WorkAction → Move → Prop
  | .createTask _ _, m | .createTaskWithPremise _ _ _ _ _, m => m = .created
  | .updateTask _ _ _ _, m => m = .revised
  | .softDeleteTask _ _ _, m => Ledger.Deleting m
  | .restoreTask id _, m => m = .restored id
  | .transitionTaskStatus id status options _, m =>
    s.work.Transitioning id status options.nextInstanceId m
  | .startTaskAttempt taskId _ _ _, m => m = .started taskId
  | .acquireTaskClaim _ _ _ _, m => WorkStore.Claiming m
  | .createWaitCondition _ _ _ _, m => WorkStore.Awaiting m
  | .evaluateWaitConditionDeadline _ _ _, m | .sweepWaitConditionDeadlines _ _ _, m =>
    WorkStore.Expiring m
  | .ingestObservation _ _ _ _ _, _ | .elsewhere _, _ => False
  | _, m => m = .closed

variable {rt} {s : WaitStore}

open WorkStore in
theorem through_steps {β : Type} {P : Move → Prop} {call : Call (WorkStore × β)}
    (h : ∀ work b, call = .ok (work, b) → Steps P s.work work) :
    Steps P s.work (through s call).work :=
  settle_fst_rule (I := fun work => Steps P s.work work) (.refl _) h

open WorkStore in
/-- STEP: every action is a path of its moves and a turn of the claims. -/
theorem step_steps (a : WorkAction) : Steps (Makes s a) s.work (step rt s a).work := by
  cases a with
  | createTask parsed ctx => exact through_steps fun _ _ h => (createTask_works h).steps
  | createTaskWithPremise parsed requested observed ctx freshId =>
    exact through_steps fun _ _ h => (createTaskWithPremise_works h).steps
  | updateTask id parsed expectedRevision ctx =>
    exact through_steps fun _ _ h => (updateTask_works h).steps
  | softDeleteTask id cascade ctx =>
    exact settle_rule (I := fun work => Steps Ledger.Deleting s.work work) (.refl _) fun _ h =>
      (softDeleteTask_works h).steps
  | restoreTask id ctx => exact through_steps fun _ _ h => (restoreTask_works h).steps
  | transitionTaskStatus id status options ctx =>
    exact through_steps fun _ _ h => (transitionTaskStatus_works h).steps
  | startTaskAttempt taskId options ctx freshId =>
    exact through_steps fun _ _ h => (startTaskAttempt_works h).steps
  | transitionTaskAttempt id status options ctx =>
    exact through_steps fun _ _ h => (transitionTaskAttempt_works h).steps
  | recordAttemptCost attemptId observation verdict ctx freshId =>
    exact through_steps fun _ _ h => (recordAttemptCost_works h).steps
  | acquireTaskClaim taskId options ctx freshId =>
    exact through_steps fun _ _ h => acquireTaskClaim_steps h
  | releaseTaskClaim taskId options ctx =>
    exact through_steps fun _ _ h => (releaseTaskClaim_works h).steps
  | mutatePremise taskId mutation ctx freshId invalidationId =>
    exact through_steps fun _ _ h => (appendPremiseMutation_works h).steps
  | ingestObservation parsed extension actor now freshId =>
    refine settle_fst_rule (I := fun t : WaitStore => Steps _ s.work t.work) (.refl _) fun _ _ h => ?_
    rw [WaitStore.ingestObservation_work h]
    exact .refl _
  | createWaitCondition parsed extension ctx freshId =>
    exact through_steps fun _ _ h => (createWaitCondition_works h).steps
  | cancelWaitCondition id reason ctx =>
    exact through_steps fun _ _ h => (cancelWaitCondition_works h).steps
  | reconcileWaitObservation conditionId observationId matcherVersion ctx fresh =>
    refine settle_fst_rule (I := fun t : WaitStore => Steps _ s.work t.work) (.refl _) fun _ _ h => ?_
    simp only [WaitStore.reconcileWaitObservation, bind_eq_ok] at h
    obtain ⟨-, -, -, -, -, -, h⟩ := h
    exact (WaitStore.reconcileInTransaction_works h).steps
  | evaluateWaitConditionDeadline conditionId options fresh =>
    exact settle_fst_rule (I := fun t : WaitStore => Steps _ s.work t.work) (.refl _)
      fun _ _ h => (WaitStore.evaluateWaitConditionDeadline_works h).steps
  | sweepWaitConditionDeadlines limit options fresh =>
    exact settle_rule (I := fun t : WaitStore => Steps _ s.work t.work) (.refl _)
      fun _ h => (WaitStore.sweepWaitConditionDeadlines_works h).steps
  | elsewhere left =>
    refine Works.steps (.of_rows ?_)
    rfl

/-- The moves that neither restore nor transition a task. -/
def Plain : Move → Prop
  | .created | .revised | .deleted | .closed | .started _ | .waited => True
  | .acquired deletedAt => truthy deletedAt = false
  | _ => False

/-- CASES: a task is restored, a task makes a transition, or the move is a plain one. -/
theorem makes_cases {a : WorkAction} {m : Move} (h : Makes s a m) :
    (∃ id ctx, a = .restoreTask id ctx ∧ m = .restored id) ∨
      (∃ id status options ctx, a = .transitionTaskStatus id status options ctx ∧
        s.work.Transitioning id status options.nextInstanceId m) ∨ Plain m := by
  cases a with
  | restoreTask id ctx => exact .inl ⟨id, ctx, rfl, h⟩
  | transitionTaskStatus id status options ctx =>
    exact .inr (.inl ⟨id, status, options, ctx, rfl, h⟩)
  | softDeleteTask id cascade ctx => obtain rfl | rfl := h <;> exact .inr (.inr trivial)
  | acquireTaskClaim taskId options ctx freshId =>
    obtain rfl | ⟨d, hd, rfl⟩ := h
    · exact .inr (.inr trivial)
    · exact .inr (.inr hd)
  | createWaitCondition parsed extension ctx freshId =>
    obtain rfl | rfl := h <;> exact .inr (.inr trivial)
  | evaluateWaitConditionDeadline conditionId options fresh =>
    obtain rfl | rfl | rfl := h <;> exact .inr (.inr trivial)
  | sweepWaitConditionDeadlines limit options fresh =>
    obtain rfl | rfl | rfl := h <;> exact .inr (.inr trivial)
  | ingestObservation parsed extension actor now freshId => exact h.elim
  | elsewhere left => exact h.elim
  | _ =>
    obtain rfl : m = _ := h
    exact .inr (.inr trivial)

theorem makes_ordinary {a : WorkAction} {m : Move} (h : Makes s a m) : Ordinary m := by
  obtain ⟨id, ctx, rfl, rfl⟩ | ⟨id, status, options, ctx, rfl, htransitioning⟩ | hplain :=
    makes_cases h
  · trivial
  · obtain ⟨before, -, halive, rfl | ⟨-, -, -, rfl⟩⟩ := htransitioning
    · trivial
    · exact halive
  · cases m <;> trivial

theorem opening_tasks {workspaceId : String} {principals : List Principal} {id : UuidV7}
    {row : Task} : (opening workspaceId principals).work.rows.tasks[id]? ≠ some row := by
  have hempty : (opening workspaceId principals).work.tasks = ∅ := rfl
  simp [hempty]

/-! ### What closes stays closed -/

/-- STEP: what is closed is idle after every action. -/
theorem step_inert (a : WorkAction) (h : s.work.rows.Inert) : (step rt s a).work.rows.Inert :=
  (step_steps a).path.invariant (fun _ _ _ hm htakes hinert =>
    hinert.takes (makes_ordinary hm) htakes) h

/-- RUN: in every state that a run reaches, nothing is open on a task that is done, cancelled or
    deleted, whatever closed it and whatever followed. Only a deletion at time zero is not seen. -/
theorem closed_tasks_inert (rt : WorkRuntime) (workspaceId : String) (principals : List Principal)
    (actions : List WorkAction) :
    (run (step rt) (opening workspaceId principals) actions).work.rows.Inert :=
  run_invariant' (I := fun s : WaitStore => s.work.rows.Inert) (fun _ a => step_inert a) actions
    fun _ _ hnone => absurd hnone opening_tasks

/-! ### Instants of completion -/

variable (rt) in
/-- The task that an action takes up again after it was done, without reopening it. -/
def resumes (s : WaitStore) : WorkAction → List UuidV7
  | .transitionTaskStatus id .inProgress options ctx =>
    if (∃ row ∈ s.work.tasks[id]?, row.status = .done) ∧
      (∃ row ∈ (step rt s (.transitionTaskStatus id .inProgress options ctx)).work.tasks[id]?,
        row.status = .inProgress) then [id] else []
  | _ => []

/-- STEP: a task that was done and is taken up again keeps the instant of its completion. -/
theorem resume_stamped {resumed : List UuidV7} {id : UuidV7} {options : StatusChangeOptions}
    {ctx : PrincipalContext} {before : Task} (hbefore : s.work.tasks[id]? = some before)
    (hdone : before.status = .done) (h : s.work.rows.Stamped resumed) :
    (step rt s (.transitionTaskStatus id .inProgress options ctx)).work.rows.Stamped
      (resumed ++ resumes rt s (.transitionTaskStatus id .inProgress options ctx)) := by
  refine settle_fst_rule (I := fun work : WorkStore => work.rows.Stamped (resumed ++
      if (∃ row ∈ s.work.tasks[id]?, row.status = .done) ∧
        (∃ row ∈ work.tasks[id]?, row.status = .inProgress) then [id] else []))
    (h.mono fun _ hid => List.mem_append_left _ hid) fun work row hcall => ?_
  simp only [WorkStore.transitionTaskStatus, bind_eq_ok] at hcall
  obtain ⟨-, -, _, -, hcall⟩ := hcall
  obtain ⟨retries, rfl⟩ | ⟨retries, s₁, outcome, retries', hrun, rfl⟩ :=
    WorkStore.idempotent_eq_ok hcall
  · exact h.mono fun _ hid => List.mem_append_left _ hid
  obtain ⟨-, hrow, hstatus⟩ | ⟨found, caller, basis, left, hpasses, rfl, hspawn⟩ :=
    WorkStore.performTransition_cases hrun
  · rw [Option.some.inj (hbefore.symm.trans hrow), hstatus] at hdone
    cases hdone
  · obtain rfl : left = s₁ := by simpa [WorkStore.materialize] using hspawn
    have htasks : left.tasks = s.work.tasks.insert id (transitioned found .inProgress
        (options.occurredAt.getD ctx.now) ctx.now) := by
      rw [hpasses.left]
    have hrow : left.tasks[id]? = some (transitioned found .inProgress
        (options.occurredAt.getD ctx.now) ctx.now) := by
      rw [htasks, Table.getElem?_insert', if_pos rfl]
    rw [if_pos ⟨⟨before, hbefore, hdone⟩, _, hrow, rfl⟩]
    refine (h.mono fun _ hid => List.mem_append_left _ hid).write htasks ?_ ?_
    · intro hstatus
      cases hstatus
    · simp

/-- STEP: the law of the instants follows the tasks that are taken up again. -/
theorem step_stamped {resumed : List UuidV7} (a : WorkAction)
    (h : s.work.rows.Stamped resumed) :
    (step rt s a).work.rows.Stamped (resumed ++ resumes rt s a) := by
  by_cases hplain : ∀ m, Makes s a m → m ≠ .transitioned .done .inProgress
  · exact (step_steps a).path.invariant (fun _ _ _ hm htakes hstamped =>
      hstamped.takes (makes_ordinary hm) (hplain _ hm) htakes)
      (h.mono fun _ hid => List.mem_append_left _ hid)
  · simp only [ne_eq, not_forall, not_not] at hplain
    obtain ⟨_, hm, rfl⟩ := hplain
    obtain ⟨_, _, -, hrestored⟩ | ⟨id, status, options, ctx, rfl, before, hbefore, -, hmove⟩ |
      hplain := makes_cases hm
    · cases hrestored
    · obtain hmove | ⟨-, -, -, hmove⟩ := hmove
      · obtain ⟨hdone, rfl⟩ := Move.transitioned.inj hmove
        exact resume_stamped hbefore hdone.symm h
      · cases hmove
    · exact hplain.elim

/-- RUN: in every state that a run reaches, a task that is done has the instant of its completion;
    one that has such an instant is done, unless some call of the run took it up again from done. -/
theorem completion_stamped (rt : WorkRuntime) (workspaceId : String) (principals : List Principal)
    (actions : List WorkAction) :
    (run (step rt) (opening workspaceId principals) actions).work.rows.Stamped
      (trace (step rt) (resumes rt) (opening workspaceId principals) actions) := by
  have hrun : ∀ (s : WaitStore) (resumed : List UuidV7), s.work.rows.Stamped resumed →
      (run (step rt) s actions).work.rows.Stamped
        (resumed ++ trace (step rt) (resumes rt) s actions) := by
    induction actions with
    | nil =>
      intro s resumed h
      rwa [trace, List.append_nil]
    | cons a actions ih =>
      intro s resumed h
      rw [trace, ← List.append_assoc]
      exact ih _ _ (step_stamped a h)
  simpa using hrun (opening workspaceId principals) [] fun _ _ hnone => absurd hnone opening_tasks

/-! ### The hierarchy -/

/-- The task was not deleted at time zero, which the calls take for a live one. -/
def Dated (work : WorkStore) (id : UuidV7) : Prop :=
  ∀ row ∈ work.tasks[id]?, row.deletedAt ≠ some 0

/-- The walk up from the parent that the row of the task names leaves room below it. -/
def RoomFor (work : WorkStore) (id : UuidV7) : Prop :=
  ∀ row ∈ work.tasks[id]?, ∀ p ∈ row.parentTaskId,
    Dated work p ∧ ∃ d ∈ (work.ledger.getTaskDepth p).toOption, d + 1 ≤ maxTaskDepth

instance decidableDated (work : WorkStore) (id : UuidV7) : Decidable (Dated work id) := by
  unfold Dated; infer_instance

instance decidableRoomFor (work : WorkStore) (id : UuidV7) : Decidable (RoomFor work id) := by
  unfold RoomFor; infer_instance

/-- There is room for a restored task. No task deleted at time zero is completed. -/
def Fitting (s : WaitStore) : WorkAction → Prop
  | .restoreTask id _ => RoomFor s.work id
  | .transitionTaskStatus id _ _ _ => Dated s.work id
  | _ => True

theorem live_of_dated {work : WorkStore} {id : UuidV7} {row : Task} (h : Dated work id)
    (hrow : work.tasks[id]? = some row) (halive : truthy row.deletedAt = false) :
    row.deletedAt = none := by
  cases hdeleted : row.deletedAt with
  | none => rfl
  | some t =>
    obtain rfl : t = 0 := by simpa [truthy, hdeleted] using halive
    exact absurd hdeleted (h row hrow)

/-- RESTORE: it finds the parent alive, or changes nothing. -/
theorem restoreTask_cases {work work' : WorkStore} {id : UuidV7} {ctx : PrincipalContext}
    {row : Task} (h : work.restoreTask rt id ctx = .ok (work', row)) :
    work'.rows = work.rows ∨ ∀ before ∈ work.tasks[id]?, ∀ p ∈ before.parentTaskId,
      ∃ parent, work.tasks[p]? = some parent ∧ truthy parent.deletedAt = false := by
  simp only [WorkStore.restoreTask, Ledger.restoreTaskInTransaction, bind_eq_ok, Prod.exists,
    pure_eq_ok, Prod.mk.injEq, Ledger.getTask_eq_ok, demand_eq_ok] at h
  obtain ⟨l, restored, ⟨_, ⟨hrow, -⟩, existing, rfl, h⟩, rfl, -⟩ := h
  split at h
  · obtain ⟨rfl, -⟩ := Prod.mk.inj ((pure_eq_ok _ _).1 h)
    exact .inl (WorkStore.absorb_rows (.refl _))
  · refine .inr fun before hbefore p hp => ?_
    obtain rfl := Option.some.inj (hrow.symm.trans hbefore)
    simp only [Option.mem_def.1 hp, bind_eq_ok, Ledger.getTask_eq_ok, demand_eq_ok, refuse_eq_ok,
      Bool.not_eq_true] at h
    obtain ⟨_, hparent, parent, rfl, -, halive, -⟩ := h
    exact ⟨parent, hparent.1, halive⟩

/-- What the walk finds is the depth in the forest. -/
theorem fits_of_roomFor {id : UuidV7} (h : RoomFor s.work id)
    (halive : ∀ before ∈ s.work.tasks[id]?, ∀ p ∈ before.parentTaskId,
      ∃ parent, s.work.tasks[p]? = some parent ∧ truthy parent.deletedAt = false)
    (hbounded : s.work.rows.Hierarchy) : s.work.rows.Fits id := by
  intro row hrow p hp
  obtain ⟨hdated, d, hd, hroom⟩ := h row hrow p hp
  obtain ⟨parent, hparent, halive⟩ := halive row hrow p hp
  have hwalk : s.work.ledger.getTaskDepth p = .ok d := by
    cases hwalk : s.work.ledger.getTaskDepth p with
    | error e => simp [hwalk, Except.toOption] at hd
    | ok n => simpa [hwalk, Except.toOption] using hd
  have hdepth := Ledger.getTaskDepth_depth hwalk (by omega)
  have hlive := liveIn_of_row hparent (live_of_dated hdated hparent halive)
  exact ⟨d, hbounded.depth hlive hdepth, hroom⟩

/-- STEP: a restored task hangs where there is room. -/
theorem restore_hierarchy {id : UuidV7} {ctx : PrincipalContext} (ha : RoomFor s.work id)
    (h : s.work.rows.Hierarchy) : (step rt s (.restoreTask id ctx)).work.rows.Hierarchy := by
  refine settle_fst_rule (I := fun work : WorkStore => work.rows.Hierarchy) h
    fun work row hcall => ?_
  obtain hsame | halive := restoreTask_cases hcall
  · rwa [hsame]
  · -- Once the task is back, it is not restored again.
    refine ((WorkStore.restoreTask_works hcall).path.invariant
      (I := fun r => r.Hierarchy ∧ (LiveIn r.tasks id ∨ r.Fits id)) ?_
      ⟨h, .inr (fits_of_roomFor ha halive h)⟩).1
    rintro r r' _ rfl htakes ⟨hbounded, hfits⟩
    refine ⟨hbounded.takes (m := .restored id) trivial (by simp) (fun k heq => ?_) htakes,
      .inl ?_⟩
    · obtain rfl : id = k := by simpa using heq
      exact hfits
    · obtain ⟨before, after, -, -, hafter, rfl⟩ := htakes
      rw [WithTask, liveIn_insert, if_pos rfl, hafter]

/-- STEP: the hierarchy stays bounded. -/
theorem step_hierarchy (a : WorkAction) (ha : Fitting s a) (h : s.work.rows.Hierarchy) :
    (step rt s a).work.rows.Hierarchy := by
  by_cases hrestore : ∃ id ctx, a = .restoreTask id ctx
  · obtain ⟨id, ctx, rfl⟩ := hrestore
    exact restore_hierarchy ha h
  · refine (step_steps a).path.invariant (fun _ _ m hm htakes hbounded =>
      hbounded.takes (makes_ordinary hm) (fun hspawned => ?_) (fun id hrestored => ?_) htakes) h
    · obtain ⟨id, ctx, rfl, -⟩ | ⟨id, status, options, ctx, rfl, before, hbefore, -, hmove⟩ |
        hplain := makes_cases hm
      · exact hrestore ⟨id, ctx, rfl⟩
      · obtain rfl | ⟨-, -, -, rfl⟩ := hmove
        · cases hspawned
        · exact ha before hbefore (Move.spawned.inj hspawned)
      · rw [hspawned] at hplain
        exact hplain
    · obtain ⟨id, ctx, rfl, -⟩ | ⟨_, _, _, _, -, _, -, -, hmove⟩ | hplain := makes_cases hm
      · exact absurd ⟨id, ctx, rfl⟩ hrestore
      · simp [hrestored] at hmove
      · rw [hrestored] at hplain
        exact hplain.elim

/-- RUN: where there is room for every restored task, the live tasks of every state that a run
    reaches have no cycle, hang under live parents, and are at most five levels deep. -/
theorem hierarchy_bounded (rt : WorkRuntime) (workspaceId : String) (principals : List Principal)
    (actions : List WorkAction)
    (hfitting : Along (step rt) Fitting (opening workspaceId principals) actions)
    {tasks : Table UuidV7 Task}
    (htasks : (run (step rt) (opening workspaceId principals) actions).work.tasks = tasks)
    (k : UuidV7) :
    ¬ Relation.TransGen (Forest.Hangs (LiveIn tasks) (parentIn tasks)) k k ∧
      (LiveIn tasks k → ∀ p ∈ parentIn tasks k, LiveIn tasks p) ∧
      (LiveIn tasks k →
        ∃ n ≤ maxTaskDepth, Forest.Depth (LiveIn tasks) (parentIn tasks) k n) := by
  subst htasks
  have hbounded : (run (step rt) (opening workspaceId principals) actions).work.rows.Hierarchy :=
    run_invariant (I := fun s : WaitStore => s.work.rows.Hierarchy)
      (fun _ a ha h => step_hierarchy a ha h) hfitting
      fun _ ⟨_, hrow, _⟩ => absurd hrow opening_tasks
  exact ⟨hbounded.acyclic k, fun hlive p hp => hbounded.parent_live hlive hp,
    fun hlive => hbounded k hlive⟩

/-! ### A task below another -/

/-- A task as it is asked for. -/
def plainInsert (id : UuidV7) (parent : Option UuidV7) : TaskInsert :=
  { plainTask.toCommitmentFields with id := id, parentTaskId := parent }

/-- A caller at an instant. -/
def plainAt (now : UnixMs) : PrincipalContext := ⟨some "p", none, none, now⟩

/-- Task 2 is created below task 1, deleted and restored there. -/
def plainRestored : List WorkAction :=
  [.createTask (plainInsert 1 none) (plainAt 1), .createTask (plainInsert 2 (some 1)) (plainAt 2),
    .softDeleteTask 2 false (plainAt 3), .restoreTask 2 (plainAt 4)]

theorem hierarchy_bounded_plain :
    ∃ n ≤ maxTaskDepth, Forest.Depth
      (LiveIn (run (step plainWorkRuntime) (opening "w" []) plainRestored).work.tasks)
      (parentIn (run (step plainWorkRuntime) (opening "w" []) plainRestored).work.tasks) 2 n := by
  have hfitting : Along (step plainWorkRuntime) Fitting (opening "w" []) plainRestored :=
    ⟨trivial, trivial, trivial,
      (by decide +kernel : RoomFor (run (step plainWorkRuntime) (opening "w" [])
        (plainRestored.take 3)).work 2), trivial⟩
  have hlive : ((run (step plainWorkRuntime) (opening "w" []) plainRestored).work.tasks[(2 :
      UuidV7)]?.map (·.deletedAt)) = some none := by decide +kernel
  obtain ⟨row, hrow, hdeleted⟩ := Option.map_eq_some_iff.1 hlive
  exact (hierarchy_bounded plainWorkRuntime "w" [] plainRestored hfitting rfl 2).2.2
    ⟨row, hrow, hdeleted⟩

end WorkSystem

end Tasq
