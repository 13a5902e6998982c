import Mathlib.Tactic
import Tasq.EffectLedger.Request

/-! Claims: acquiring or renewing the exclusive live claim of a commitment, and releasing it.

    The other gates of an acquisition (premise, pause, blockers, cost) read tables that nothing
    here writes; each either lets the call pass or refuses it with its message. -/

namespace Tasq

open Text Outcome

/-- What the other gates say: a message refuses. -/
structure ClaimGates where
  premise : Option String
  paused : Option String
  blockers : Option String
  cost : Option String

/-- `AcquireClaimOptions` -/
structure AcquireClaimOptions where
  leaseMs : Option ℕ
  metadata : Metadata
  force : Bool
  expectedRevision : Option ℕ
  gates : ClaimGates

/-- `ReleaseClaimOptions` -/
structure ReleaseClaimOptions where
  reason : Option String
  force : Bool
  expectedRevision : Option ℕ

/-- `validateLeaseMs` -/
def validateLeaseMs (value : Option ℕ) : Call ℕ := do
  let leaseMs := value.getD (30 * 60 * 1000)
  refuse (leaseMs < 1000 ∨ 7 * 24 * 60 * 60 * 1000 < leaseMs)
    (.error "leaseMs must be an integer between 1000 and 604800000")
  pure leaseMs

/-- A gate that refuses with its message. -/
def passGate (gate : Option String) : Call Unit :=
  match gate with
  | none => pure ()
  | some message => .error (.error message)

/-- `parseClaim` -/
def parseClaim (c : LeasedClaim) : Call LeasedClaim := do
  refuse (c.actor = "" ∨ c.principalId = some "" ∨ c.revision = 0 ∨ c.fence = 0)
    (.invalid "TaskClaim")
  pure c

/-- What the insert and update triggers of `task_claim` both check. -/
def LeasedClaim.Valid (c : LeasedClaim) : Prop :=
  sqlTrim c.actor ≠ "" ∧ c.acquiredAt ≤ c.heartbeatAt ∧ c.heartbeatAt < c.expiresAt ∧
    c.createdAt ≤ c.updatedAt ∧ (c.releasedAt = none ↔ c.releaseReason = none) ∧
    (∀ t ∈ c.releasedAt, c.acquiredAt ≤ t) ∧ ∀ r ∈ c.releaseReason, sqlTrim r ≠ ""

instance decidableLeasedClaimValid (c : LeasedClaim) : Decidable c.Valid := by
  unfold LeasedClaim.Valid; infer_instance

namespace EffectStore

variable (s : EffectStore) (rt : EffectRuntime)

/-- The unreleased claim of a commitment. -/
def unreleasedClaim (taskId : UuidV7) : Option (UuidV7 × LeasedClaim) :=
  (Table.rows s.claims fun _ c => c.taskId = taskId && c.releasedAt.isNone).head?

/-- The highest fence of a commitment. -/
def highestFence (taskId : UuidV7) : ℕ :=
  ((Table.rows s.claims fun _ c => c.taskId = taskId).map fun row => row.2.fence).foldl max 0

/-- `INSERT INTO task_claim` -/
def insertClaim (id : UuidV7) (c : LeasedClaim) : Call EffectStore := do
  refuse (¬ c.Valid ∨ c.taskId ∉ s.tasks) (.constraint "invalid task claim invariant")
  refuse (∃ p ∈ c.principalId, ¬ s.HasPrincipal p)
    (.constraint "claim principal workspace mismatch")
  refuse (c.fence = 0) (.constraint "task_claim_fence_check")
  refuse (id ∈ s.claims ∨ id ∈ s.others.claims) (.constraint "UNIQUE task_claim.id")
  refuse (c.releasedAt = none ∧ (s.unreleasedClaim c.taskId).isSome)
    (.constraint "UNIQUE task_claim active")
  refuse (Table.has s.claims fun _ row => row.taskId = c.taskId && row.fence = c.fence)
    (.constraint "UNIQUE task_claim fence")
  pure { s with claims := s.claims.insert id c }

/-- `UPDATE task_claim SET ..., revision = revision + 1`, where the revision is the expected one. -/
def updateClaim (id : UuidV7) (old : LeasedClaim) (f : LeasedClaim → LeasedClaim)
    (expectedRevision : Option ℕ) : Call (EffectStore × LeasedClaim) := do
  refuse (∃ n ∈ expectedRevision, old.revision ≠ n)
    (.error s!"Stale claim revision: expected {expectedRevision.getD 0}")
  let new := { f old with revision := old.revision + 1 }
  refuse (¬ new.Valid) (.constraint "invalid task claim invariant")
  refuse old.releasedAt.isSome
    (.constraint "task claim identity and released claims are immutable")
  let parsed ← parseClaim new
  pure ({ s with claims := s.claims.insert id new }, parsed)

/-- `requireLiveTask`: a commitment deleted at time zero counts as live. -/
def requireLiveTask (taskId : UuidV7) : Call Task := do
  let found ← s.ledger.getTask taskId
  let row ← demand found (.error s!"Task not found: {taskId}")
  refuse (∃ t ∈ row.deletedAt, t ≠ 0) (.error s!"Task is deleted: {taskId}")
  pure row

/-- The claim that an idempotency record points at. -/
def priorClaim (record : IdempotencyRecord) : Call LeasedClaim := do
  let row ← demand s.claims[record.resultId]?
    (.error s!"Idempotency record points at missing claim {record.resultId}")
  parseClaim row

/-- The claim belongs to another caller. -/
def HeldByAnother (c : LeasedClaim) (caller : Principal) (actor : String) : Prop :=
  match c.principalId with
  | some id => id ≠ caller.id
  | none => c.actor ≠ actor

instance decidableHeldByAnother (c : LeasedClaim) (caller : Principal) (actor : String) :
    Decidable (HeldByAnother c caller actor) := by
  unfold HeldByAnother
  cases c.principalId <;> infer_instance

/-- The current claim, read. -/
def currentClaim (taskId : UuidV7) : Call (Option (UuidV7 × LeasedClaim)) :=
  match s.unreleasedClaim taskId with
  | none => pure none
  | some row => (fun c => some (row.1, c)) <$> parseClaim row.2

/-- The row of a new claim. -/
def acquiredClaim (taskId : UuidV7) (actor : String) (caller : Principal) (fence : ℕ)
    (metadata : Metadata) (now expiresAt : UnixMs) : LeasedClaim where
  taskId := taskId
  acquiredAt := now
  createdAt := now
  releasedAt := none
  actor := actor
  principalId := some caller.id
  revision := 1
  fence := fence
  heartbeatAt := now
  expiresAt := expiresAt
  releaseReason := none
  metadata := metadata
  updatedAt := now

/-- A claim of another that has lapsed is released before it is replaced. -/
def expireClaim (current : Option (UuidV7 × LeasedClaim)) (now : UnixMs) : Call EffectStore :=
  match current with
  | none => pure s
  | some row => do
    let (s, _) ← s.updateClaim row.1 row.2
      (fun c => { c with releasedAt := some now, releaseReason := some "expired", updatedAt := now })
      none
    pure s

/-- `acquireTaskClaim` -/
def acquireTaskClaim (taskId : UuidV7) (options : AcquireClaimOptions) (ctx : PrincipalContext)
    (freshId : UuidV7) : Call (EffectStore × LeasedClaim) := do
  let actor := ctx.actor.getD "system"
  let leaseMs ← validateLeaseMs options.leaseMs
  let expiresAt := ctx.now + leaseMs
  refuse (Json.maxSafeInteger < expiresAt) (.error "Lease expiry exceeds unix-ms range")
  let (s, prior, identity) ← s.retryResult rt ctx .claimAcquire
    (.acquire taskId actor ctx.principalId leaseMs options.metadata)
    (some defaultIdempotencyRetentionMs)
  match prior with
  | some record => do
    let c ← s.priorClaim record
    pure (s, c)
  | none => do
    let linkedTask ← s.requireLiveTask taskId
    let (s, caller) ← s.contextPrincipal rt ctx
    refuse (linkedTask.status = .done ∨ linkedTask.status = .cancelled)
      (.error s!"Cannot claim terminal task {taskId}")
    passGate options.gates.premise
    passGate options.gates.paused
    passGate (if options.force then none else options.gates.blockers)
    let current ← s.currentClaim taskId
    refuse (∃ c ∈ current, ctx.now < c.2.heartbeatAt) (.error "Claim clock moved backwards")
    refuse (∃ c ∈ current, ctx.now < c.2.expiresAt ∧ HeldByAnother c.2 caller actor)
      (.error s!"Task {taskId} is claimed")
    passGate options.gates.cost
    match current.filter fun c => ctx.now < c.2.expiresAt with
    | some live => do
      let (s, renewed) ← s.updateClaim live.1 live.2
        (fun c => { c with heartbeatAt := ctx.now, expiresAt := expiresAt, updatedAt := ctx.now })
        options.expectedRevision
      let s ← s.recordEvent rt actor caller
      let s ← s.saveIdempotencyResult identity live.1 (some renewed.revision)
      pure (s, renewed)
    | none => do
      let s ← s.expireClaim current ctx.now
      let inserted := acquiredClaim taskId actor caller (s.highestFence taskId + 1)
        options.metadata ctx.now expiresAt
      let s ← s.insertClaim freshId inserted
      let result ← parseClaim inserted
      let s ← s.recordEvent rt actor caller
      let s ← s.saveIdempotencyResult identity freshId (some result.revision)
      pure (s, result)

/-- `releaseTaskClaim` -/
def releaseTaskClaim (taskId : UuidV7) (options : ReleaseClaimOptions) (ctx : PrincipalContext) :
    Call (EffectStore × LeasedClaim) := do
  let actor := ctx.actor.getD "system"
  let (s, prior, identity) ← s.retryResult rt ctx .claimRelease
    (.release taskId actor ctx.principalId options.expectedRevision options.reason options.force)
    (some defaultIdempotencyRetentionMs)
  match prior with
  | some record => do
    let c ← s.priorClaim record
    pure (s, c)
  | none => do
    let _ ← s.requireLiveTask taskId
    let found ← s.currentClaim taskId
    let current ← demand found (.error s!"Task {taskId} has no unreleased claim")
    refuse (ctx.now < current.2.acquiredAt)
      (.error s!"Release time {ctx.now} precedes claim acquisition {current.2.acquiredAt}")
    let (s, caller) ← s.contextPrincipal rt ctx
    refuse (HeldByAnother current.2 caller actor ∧ options.force = false)
      (.error s!"Claim belongs to {current.2.actor}")
    let reason := options.reason.getD
      (if current.2.expiresAt ≤ ctx.now then "expired" else "released")
    let (s, released) ← s.updateClaim current.1 current.2
      (fun c =>
        { c with releasedAt := some ctx.now, releaseReason := some reason, updatedAt := ctx.now })
      options.expectedRevision
    let s ← s.recordEvent rt actor caller
    let s ← s.saveIdempotencyResult identity current.1 (some released.revision)
    pure (s, released)

end EffectStore

end Tasq
