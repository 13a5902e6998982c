import Mathlib.Tactic
import Tasq.Relations.Store
import Tasq.Work.Recurrence

/-! What `tasq next` reads of one workspace, the score of a task, and the queue that `pickNext`
    answers.

    Quotients of times are exact; the weighted sum rounds every operation as doubles do. Rows come
    in the order of their ids. The rows of goals, areas and projects are those of every workspace,
    and a row of a premise belongs to a commitment. -/

namespace Tasq

open Text Outcome

/-! ### Rows -/

inductive GoalStatus where
  | active | paused | done | abandoned
  deriving DecidableEq, Repr

inductive ProjectStatus where
  | active | blocked | waiting | done | cancelled
  deriving DecidableEq, Repr

/-- `Importance` -/
abbrev Importance := { n : ℕ // 1 ≤ n ∧ n ≤ 5 }

/-- A row of `goal`. -/
structure Goal where
  importance : Importance
  status : GoalStatus
  deletedAt : Option UnixMs
  deriving DecidableEq

/-- A row of `area`. -/
structure Area where
  importance : Importance
  deletedAt : Option UnixMs
  deriving DecidableEq

/-- A row of `project`. -/
structure Project where
  status : ProjectStatus
  deletedAt : Option UnixMs
  deriving DecidableEq

/-- The rows of one workspace that the queue is made from. -/
structure PlanningStore extends RelationStore where
  goals : Table UuidV7 Goal
  areas : Table UuidV7 Area
  projects : Table UuidV7 Project
  /-- `uniq_task_claim_active` -/
  oneClaim : ∀ (id id' : UuidV7) (c c' : LeasedClaim), work.claims[id]? = some c →
    work.claims[id']? = some c' → c.releasedAt = none → c'.releasedAt = none →
      c.taskId = c'.taskId → id = id'

/-! ### The score -/

/-- `Math.ceil(ms / DAY_MS)` -/
def ceilDays (ms : ℤ) : ℤ := ⌈(ms : ℚ) / dayMs⌉

/-- `Math.floor(ms / DAY_MS)` -/
def floorDays (ms : ℤ) : ℤ := ⌊(ms : ℚ) / dayMs⌋

/-- `cadencePeriodMs` -/
def cadencePeriodMs (unit : RecurrenceUnit) (interval : ℕ) : ℕ :=
  let n := max 1 interval
  match unit with
  | .daily => n * dayMs
  | .weekly => n * 7 * dayMs
  | .monthly => n * 30 * dayMs
  | .yearly => n * 365 * dayMs

/-- `computeLeverage`, with its reasons. -/
def computeLeverage (task : Task) (goal : Option Goal) (area : Option Area) : ℕ × List String :=
  let importance := ((goal.map fun g => g.importance.1) <|> area.map fun a => a.importance.1).getD 3
  let inherited :=
    match goal, area with
    | some g, _ => [s!"goal-importance:{g.importance.1}"]
    | none, some a => [s!"area-importance:{a.importance.1}"]
    | none, none => []
  match task.priority with
  | some priority => (priority.1, inherited ++ [s!"priority:{priority.1}"])
  | none => (importance, inherited)

/-- What the time to the due date says of urgency. -/
def dueUrgency (dueAt : Option UnixMs) (now : UnixMs) : ℕ × List String :=
  match dueAt with
  | none => (0, [])
  | some dueAt =>
    let ms : ℤ := dueAt - now
    if ms < 0 then (5, [s!"overdue:{ceilDays (-ms)}d"])
    else if ms < dayMs then (4, ["due-today"])
    else if ms < 3 * dayMs then (3, [s!"due-in-{ceilDays ms}d"])
    else if ms < 7 * dayMs then (2, ["due-this-week"])
    else if ms < 30 * dayMs then (1, ["due-this-month"])
    else (0, [])

/-- `computeUrgency`, with its reasons. -/
def computeUrgency (task : Task) (now : UnixMs) : ℕ × List String :=
  let raise (u : ℕ × List String) (reason : String) := (2, u.2 ++ [reason])
  let u := dueUrgency task.dueAt now
  let u := if (∃ t ∈ task.scheduledAt, t ≤ now) ∧ u.1 < 2 then raise u "scheduled-now" else u
  match task.recurrence, task.lastDoneAt with
  | some unit, some lastDoneAt =>
    if (cadencePeriodMs unit task.recurrenceInterval : ℤ) < now - lastDoneAt ∧ u.1 < 2 then
      raise u "cadence-overdue"
    else u
  | _, _ => u

/-- `computeAvoidance`, with its reasons. -/
def computeAvoidance (task : Task) (now : UnixMs) : ℚ × List String :=
  if task.status ≠ .open ∧ task.status ≠ .blocked then (0, [])
  else
    let ms : ℤ := now - task.createdAt
    let age := [s!"age:{floorDays ms}d"]
    let (raw, reasons) : ℚ × List String :=
      if 14 * dayMs < ms then (5, age)
      else if 7 * dayMs < ms then (4, age)
      else if 3 * dayMs < ms then (3, age)
      else if dayMs < ms then (1, age)
      else (0, [])
    if task.status = .blocked then (raw / 2, reasons ++ ["blocked-discount"]) else (raw, reasons)

/-- `computeActive`, with its reasons. -/
def computeActive (task : Task) : ℕ × List String :=
  if task.status = .inProgress then (5, ["in-progress-boost"]) else (0, [])

/-- `ScoreBreakdown` -/
structure ScoreBreakdown where
  total : ℚ
  leverage : ℕ
  urgency : ℕ
  avoidance : ℚ
  active : ℕ
  blocked : ℚ
  actionabilityPenalty : ℚ
  reasons : List String
  deriving DecidableEq

/-- `scoreTask`, where `round` rounds to the nearest double. -/
def scoreTask (round : ℚ → ℚ) (task : Task) (goal : Option Goal) (area : Option Area)
    (unresolvedBlockers : ℕ) (now : UnixMs) : ScoreBreakdown :=
  let (leverage, leverageReasons) := computeLeverage task goal area
  let (urgency, urgencyReasons) := computeUrgency task now
  let (avoidance, avoidanceReasons) := computeAvoidance task now
  let (active, activeReasons) := computeActive task
  let blocked : ℚ := if 0 < unresolvedBlockers then 1 else 0
  let actionabilityPenalty : ℚ :=
    if task.status = .open ∧ (task.nextAction.getD "") = "" then 1 / 2 else 0
  let weigh (weight value : ℚ) : ℚ := round (round weight * value)
  let plus (a b : ℚ) : ℚ := round (a + b)
  { total := round (round (plus (plus (plus (weigh (1 / 2) leverage) (weigh (3 / 10) urgency))
      (weigh (1 / 5) avoidance)) (weigh (1 / 5) active) - blocked) - actionabilityPenalty)
    leverage, urgency, avoidance, active, blocked, actionabilityPenalty
    reasons := leverageReasons ++ urgencyReasons ++ avoidanceReasons ++ activeReasons ++
      (if 0 < unresolvedBlockers then [s!"blocked-by:{unresolvedBlockers}"] else []) ++
      (if 0 < task.streak then [s!"streak:{task.streak}"] else []) ++
      if 0 < actionabilityPenalty then ["missing-next-action"] else [] }

/-! ### The queue -/

/-- `PickNextOptions` -/
structure PickNextOptions where
  limit : Option ℤ
  areaId : Option UuidV7
  goalId : Option UuidV7
  projectId : Option UuidV7
  priority : Option ℕ
  includeParentsWithOpenSubtasks : Bool
  includeScheduled : Bool
  includeClaimed : Bool
  actor : Option String
  deriving DecidableEq

/-- The options without an area, a goal, a project or a priority to filter by. -/
def PickNextOptions.unfiltered (options : PickNextOptions) : PickNextOptions :=
  { options with areaId := none, goalId := none, projectId := none, priority := none }

/-- The task matches the filters of the options. -/
def PickNextOptions.Matches (options : PickNextOptions) (t : Task) : Prop :=
  (∀ id ∈ options.areaId, t.areaId = some id) ∧ (∀ id ∈ options.goalId, t.goalId = some id) ∧
    (∀ id ∈ options.projectId, t.projectId = some id) ∧
    ∀ p ∈ options.priority, ∃ priority ∈ t.priority, priority.1 = p

instance (options : PickNextOptions) (t : Task) : Decidable (options.Matches t) := by
  unfold PickNextOptions.Matches; infer_instance

/-- `NextResult` -/
structure NextResult where
  id : UuidV7
  task : Task
  goal : Option Goal
  area : Option Area
  claim : Option LeasedClaim
  score : ScoreBreakdown
  deriving DecidableEq

/-- The dates compare as `a ?? Infinity` and `b ?? Infinity`. -/
def compareDue : Option UnixMs → Option UnixMs → Ordering
  | some a, some b => compare a b
  | some _, none => .lt
  | none, some _ => .gt
  | none, none => .eq

/-- The comparison of the sort does not put `b` before `a`. -/
def NextResult.before (a b : NextResult) : Bool :=
  ((compare b.score.total a.score.total).then ((compareDue a.task.dueAt b.task.dueAt).then
    (compare a.task.createdAt b.task.createdAt))) ≠ .gt

/-- `candidateStatuses` -/
def candidateStatuses : List TaskStatus := [.open, .inProgress, .blocked]

/-- The task is live and open, in progress or blocked. -/
def Task.Unfinished (t : Task) : Prop := t.deletedAt = none ∧ t.status ∈ candidateStatuses

instance (t : Task) : Decidable t.Unfinished := by unfold Task.Unfinished; infer_instance

/-- `xs.slice(0, limit)` -/
def sliceTo {α : Type} (limit : ℤ) (xs : List α) : List α :=
  if 0 ≤ limit then xs.take limit.toNat else xs.take (xs.length - limit.natAbs)

/-- The record is one of `TASK_PREMISE_INVALIDATION_URI`. -/
def PremiseValue.isInvalidation : PremiseValue → Bool
  | .invalidation _ => true
  | _ => false

namespace PlanningStore

variable (s : PlanningStore)

/-- The rows of the query. -/
def taskRows (options : PickNextOptions) : List (UuidV7 × Task) :=
  s.work.tasks.rows fun _ t => t.Unfinished ∧ options.Matches t

/-- `invalidatedTaskIds` has the task. -/
def Invalidated (id : UuidV7) : Prop :=
  s.work.premises.has fun _ ref => ref.recordId = id ∧ ref.value.isInvalidation

/-- `pausedTaskIds` has the task. -/
def Paused (id : UuidV7) : Prop :=
  s.work.links.has fun _ link => link.taskId = id ∧ link.status = .active ∧
    ∃ assumption ∈ s.work.assumptions[link.assumptionId]?, assumption.status = .withdrawn

instance (id : UuidV7) : Decidable (s.Invalidated id) := by unfold Invalidated; infer_instance
instance (id : UuidV7) : Decidable (s.Paused id) := by unfold Paused; infer_instance

/-- The filters of a task by itself, before parents are left out. -/
def Offered (options : PickNextOptions) (now : UnixMs) (id : UuidV7) (t : Task) : Prop :=
  ¬ s.Invalidated id ∧ ¬ s.Paused id ∧
    (options.includeScheduled = true ∨ ∀ at' ∈ t.scheduledAt, at' ≤ now) ∧ t.status ≠ .blocked

instance (options : PickNextOptions) (now : UnixMs) (id : UuidV7) (t : Task) :
    Decidable (s.Offered options now id t) := by unfold Offered; infer_instance

/-- The tasks that the filters of a task by itself leave. -/
def offered (options : PickNextOptions) (now : UnixMs) : List (UuidV7 × Task) :=
  (s.taskRows options).filter fun e => s.Offered options now e.1 e.2

/-- The tasks without the parents of others among them. -/
def withoutParents (options : PickNextOptions) (tasks : List (UuidV7 × Task)) :
    List (UuidV7 × Task) :=
  if options.includeParentsWithOpenSubtasks then tasks
  else
    let parents := tasks.filterMap fun e => e.2.parentTaskId
    tasks.filter fun e => e.1 ∉ parents

/-- The row of `goalById`. -/
def goalById (id : UuidV7) : Option Goal := s.goals[id]?.filter fun g => g.deletedAt = none

/-- The row of `areaById`. -/
def areaById (id : UuidV7) : Option Area := s.areas[id]?.filter fun a => a.deletedAt = none

/-- The row of `projectById`. -/
def projectById (id : UuidV7) : Option Project :=
  s.projects[id]?.filter fun p => p.deletedAt = none

/-- The goal and the project of the task are active. -/
def AncestorsActive (t : Task) : Prop :=
  (∀ id ∈ t.goalId, ∃ g ∈ s.goalById id, g.status = .active) ∧
    ∀ id ∈ t.projectId, ∃ p ∈ s.projectById id, p.status = .active

instance (t : Task) : Decidable (s.AncestorsActive t) := by unfold AncestorsActive; infer_instance

/-- `statusById`: the status of a row of the query. -/
def statusById (rows : List (UuidV7 × Task)) (id : UuidV7) : Option TaskStatus :=
  (rows.find? fun e => e.1 = id).map fun e => e.2.status

/-- `activeTaskClaimMap`, for one task: the last row wins. -/
def activeTaskClaimMap (now : UnixMs) (taskId : UuidV7) : Option LeasedClaim :=
  ((s.work.claims.rows fun _ c => c.LiveAt now ∧ c.taskId = taskId).getLast?).map Prod.snd

/-- The claim does not stand in the way of the caller. -/
def ClaimPasses (options : PickNextOptions) (now : UnixMs) (id : UuidV7) : Prop :=
  options.includeClaimed = true ∨
    ∀ c ∈ s.activeTaskClaimMap now id, options.actor = some c.actor

instance (options : PickNextOptions) (now : UnixMs) (id : UuidV7) :
    Decidable (s.ClaimPasses options now id) := by unfold ClaimPasses; infer_instance

/-- The tasks that are eligible, before they are scored. -/
def eligible (options : PickNextOptions) (now : UnixMs) : List (UuidV7 × Task) :=
  let rows := s.taskRows options
  (((withoutParents options (s.offered options now)).filter
    fun e => s.AncestorsActive e.2).filter
    fun e => s.unresolvedBlockerMap (statusById rows) e.1 = 0).filter
    fun e => s.ClaimPasses options now e.1

/-- An eligible task with what it is scored by. -/
def result (round : ℚ → ℚ) (options : PickNextOptions) (now : UnixMs) (e : UuidV7 × Task) :
    NextResult :=
  let goal := e.2.goalId.bind s.goalById
  let area := e.2.areaId.bind s.areaById
  { id := e.1, task := e.2, goal, area
    claim := s.activeTaskClaimMap now e.1
    score := scoreTask round e.2 goal area
      (s.unresolvedBlockerMap (statusById (s.taskRows options)) e.1) now }

/-- `pickNext` -/
def pickNext (round : ℚ → ℚ) (options : PickNextOptions) (now : UnixMs) :
    Call (List NextResult) := do
  refuse (Json.maxSafeInteger < now) (.error "Clock must be a non-negative unix-ms integer")
  let scored := (s.eligible options now).map (s.result round options now)
  let sorted := scored.mergeSort NextResult.before
  pure (sliceTo (options.limit.getD 5) sorted)

end PlanningStore

end Tasq
