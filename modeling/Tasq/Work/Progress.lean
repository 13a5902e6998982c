import Mathlib.Data.Set.Card
import Mathlib.Tactic
import Tasq.Lib.Double
import Tasq.Work.Listing

/-! Progress of a project and of a task with what is below it: the counts over the executable
    leaves, the rounded share that is done, and the estimate of what remains.

    Quotients are rounded as doubles are. Rows of one creation time come in the order of their
    ids. -/

namespace Tasq

open Text Outcome

/-- `StatusCounts` -/
structure StatusCounts where
  total : ℕ
  «open» : ℕ
  inProgress : ℕ
  blocked : ℕ
  done : ℕ
  cancelled : ℕ
  denominator : ℕ
  deriving DecidableEq, Repr

/-- `Eta`. The estimated completion is the instant that the text names. -/
structure Eta where
  meanCompletionIntervalMs : ℤ
  remainingMs : ℤ
  sampleSize : ℕ
  estimatedCompletionAt : ℤ
  deriving DecidableEq, Repr

/-- `Progress` -/
structure Progress where
  counts : StatusCounts
  percentDone : ℤ
  eta : Option Eta
  deriving DecidableEq, Repr

/-- `countByStatus` -/
def countByStatus (tasks : List (UuidV7 × Task)) : StatusCounts :=
  let count (status : TaskStatus) := tasks.countP fun e => e.2.status = status
  { total := tasks.length
    «open» := count .open
    inProgress := count .inProgress
    blocked := count .blocked
    done := count .done
    cancelled := count .cancelled
    denominator := tasks.length - count .cancelled }

/-- `computePercentDone`, of what is done and of what is not cancelled. -/
def percentOf (done denominator : ℕ) : ℤ :=
  if denominator = 0 then 0
  else Double.mathRound (Double.round (Double.round ((done : ℚ) / denominator) * 100))

/-- `computePercentDone` -/
def computePercentDone (counts : StatusCounts) : ℤ := percentOf counts.done counts.denominator

/-- `progressLeaves`: the tasks that no other one names as its parent. -/
def progressLeaves (tasks : List (UuidV7 × Task)) : List (UuidV7 × Task) :=
  let parentIds := tasks.filterMap fun e => e.2.parentTaskId
  tasks.filter fun e => e.1 ∉ parentIds

/-- `dominantAreaId`: the most frequent area, and the first one met of several. -/
def dominantAreaId (tasks : List (UuidV7 × Task)) : Option UuidV7 :=
  let areas := tasks.filterMap fun e => e.2.areaId
  (areas.reverse.dedup.reverse).foldl (fun best id =>
    if best.all fun b => areas.count b < areas.count id then some id else best) none

/-- `ETA_WINDOW_MS` -/
def etaWindowMs : ℤ := 30 * 24 * 60 * 60 * 1000

/-- `ETA_MIN_OBSERVATION_MS` -/
def etaMinObservationMs : ℤ := 7 * 24 * 60 * 60 * 1000

/-- `ETA_MIN_SAMPLE_SIZE` -/
def etaMinSampleSize : ℕ := 3

/-- The last instant that a `Date` has. -/
def maxDateMs : ℤ := 8640000000000000

/-- The elements of an array, which are fewer than `2 ^ 32`. -/
def toArray {α : Type} (rows : List α) : Call (List α) := do
  refuse (2 ^ 32 ≤ rows.length) (.error "Invalid array length")
  pure rows

namespace WorkStore

variable (s : WorkStore)

/-- `fetchEtaSample` -/
def fetchEtaSample (areaId : Option UuidV7) (now : UnixMs) : Call (List (UuidV7 × Task)) := do
  let rows ← toArray <| Table.rows s.tasks fun _ row =>
    row.status = .done ∧ (∃ t ∈ row.completedAt, (now : ℤ) - etaWindowMs < t) ∧
      row.deletedAt = none ∧ (∀ area ∈ areaId, row.areaId = some area)
  rows.mapM parseTask

/-- `computeEta` -/
def computeEta (areaId : Option UuidV7) (tasksRemaining : ℕ) (now : UnixMs) :
    Call (Option Eta) :=
  if tasksRemaining = 0 then pure none
  else do
    let sample ← s.fetchEtaSample areaId now
    if sample.length < etaMinSampleSize then pure none
    else
      let completions := (sample.filterMap fun e => e.2.completedAt).insertionSort (· ≤ ·)
      let observedMs : ℤ := (completions.getLast?.getD 0 : ℤ) - (completions.head?.getD 0 : ℤ)
      if observedMs < etaMinObservationMs then pure none
      else
        let mean := Double.mathRound
          (Double.round ((observedMs : ℚ) / (completions.length - 1 : ℕ)))
        let remainingMs := mean * tasksRemaining
        refuse (maxDateMs < now + remainingMs) (.error "Invalid time value")
        pure (some ⟨mean, remainingMs, sample.length, now + remainingMs⟩)

/-- What both kinds of progress make of the leaves and of the area of the estimate. -/
def progressOf (leaves : List (UuidV7 × Task)) (areaId : Option UuidV7) (now : UnixMs) :
    Call Progress := do
  let counts := countByStatus leaves
  let eta ← s.computeEta areaId (counts.open + counts.inProgress + counts.blocked) now
  pure ⟨counts, computePercentDone counts, eta⟩

/-- `getProjectProgress` -/
def getProjectProgress (projectId : UuidV7) (now : UnixMs) : Call Progress := do
  refuse (Json.maxSafeInteger < now) (.error "Clock must be a non-negative unix-ms integer")
  let rows ← toArray <| Table.rows s.tasks fun _ row =>
    row.projectId = some projectId ∧ row.deletedAt = none
  let tasks ← rows.mapM parseTask
  let leaves := progressLeaves tasks
  s.progressOf leaves (dominantAreaId leaves) now

/-- The children of a frontier, in the order of their creation. -/
def children (includeDeleted : Bool) (frontier : List UuidV7) : List (UuidV7 × Task) :=
  (Table.rows s.tasks fun _ row => row.parentTaskId.any (· ∈ frontier) &&
    (includeDeleted || row.deletedAt.isNone)).insertionSort fun a b => a.2.createdAt ≤ b.2.createdAt

/-- The loop of `getTaskTree`, with the rounds that are left. -/
def treeFrom (includeDeleted : Bool) :
    ℕ → List UuidV7 → List UuidV7 → Call (List (UuidV7 × Task))
  | 0, _, _ => .error .unbounded
  | rounds + 1, seen, frontier => do
    let rows ← (s.children includeDeleted frontier).mapM parseTask
    let parsed := rows.filter fun e => e.1 ∉ seen
    if parsed = [] then pure []
    else do
      let below ← treeFrom includeDeleted rounds (seen ++ parsed.map Prod.fst)
        (parsed.map Prod.fst)
      pure (parsed ++ below)

/-- `getTaskTree`: the task, and what is below it by levels. -/
def getTaskTree (rootId : UuidV7) (includeDeleted : Bool) :
    Call (Option (List (UuidV7 × Task))) := do
  let root ← s.getTask rootId
  match root with
  | none => pure none
  | some root => do
    let below ← s.treeFrom includeDeleted (s.tasks.toList.length + 1) [rootId] [rootId]
    let tree ← toArray ((rootId, root) :: below)
    pure (some tree)

/-- `getTaskProgress` -/
def getTaskProgress (taskId : UuidV7) (now : UnixMs) : Call (Option Progress) := do
  refuse (Json.maxSafeInteger < now) (.error "Clock must be a non-negative unix-ms integer")
  let tree ← s.getTaskTree taskId false
  match tree with
  | none => pure none
  | some tree => do
    let subset := if 1 < tree.length then progressLeaves tree.tail else tree
    let p ← s.progressOf subset (tree.head?.bind fun root => root.2.areaId) now
    pure (some p)

end WorkStore

end Tasq
