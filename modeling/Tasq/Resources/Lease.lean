import Mathlib.Tactic
import Tasq.Resources.Store

/-! Resource leases: acquire, renew, release, verify and sweep.

    Every call samples the clock of its own caller, so a reading may be earlier than the one before
    it. Expiry is judged where a call meets a lease: no other transition releases an expired one. -/

namespace Tasq

open Text Outcome

/-- `MIN_RESOURCE_LEASE_MS` -/
def minResourceLeaseMs : ℕ := 1000

/-- `MAX_RESOURCE_LEASE_MS` -/
def maxResourceLeaseMs : ℕ := 7 * 24 * 60 * 60 * 1000

/-- `DEFAULT_RESOURCE_LEASE_MS` -/
def defaultResourceLeaseMs : ℕ := 30 * 60 * 1000

/-- `MAX_RESOURCE_METADATA_BYTES` -/
def maxResourceMetadataBytes : ℕ := 16 * 1024

/-- `ResourceContext`, with the reading of its clock. -/
structure ResourceContext where
  actor : String
  principalId : Option String
  clock : UnixMs

/-- `ResourceMutationContext` -/
structure ResourceMutationContext extends ResourceContext where
  idempotencyKey : String

/-- `ResourceLeaseOperation` -/
structure ResourceLeaseOperation where
  disposition : ResourceDisposition
  observedAt : UnixMs
  leaseId : UuidV7
  lease : ResourceLease
  afterSequence : ℕ

/-- `ResourceFenceVerification` -/
structure ResourceFenceVerification where
  workspaceId : String
  resourceKey : String
  leaseId : UuidV7
  fence : ℕ
  holderPrincipalId : String
  verifiedAt : UnixMs
  expiresAt : UnixMs

/-- `ResourceSweep` -/
structure ResourceSweep where
  observedAt : UnixMs
  expired : List (UuidV7 × ResourceLease)
  afterSequence : ℕ

/-! ### Inputs -/

/-- A control character. -/
def isControl (c : Char) : Bool := c.toNat ≤ 0x1f || c.toNat = 0x7f

/-- `ResourceKey.parse` -/
def parseResourceKey (rt : ResourceRuntime) (key : String) : ResourceCall String := do
  refuse (key = "" ∨ jsTrim key ≠ key ∨ rt.normalized key = false ∨ key.toList.any isControl ∨
    512 < key.utf8ByteSize) (.call (.invalid "ResourceKey"))
  pure key

/-- `BootstrapActorAlias.parse` -/
def parseActor (actor : String) : ResourceCall String := do
  refuse (actor = "" ∨ 200 < utf16Length actor ∨ jsTrim actor ≠ actor ∨ actor.toList.any isControl)
    (.call (.invalid "BootstrapActorAlias"))
  pure actor

/-- `nowFrom` -/
def nowFrom (clock : UnixMs) : ResourceCall UnixMs := do
  refuse (Json.maxSafeInteger < clock)
    (.lease .invalidInput "clock must return a non-negative unix-ms integer" none)
  pure clock

/-- `leaseDuration` -/
def leaseDuration (value : Option ℕ) : ResourceCall ℕ := do
  let duration := value.getD defaultResourceLeaseMs
  refuse (duration < minResourceLeaseMs ∨ maxResourceLeaseMs < duration)
    (.lease .invalidInput
      s!"leaseMs must be an integer between {minResourceLeaseMs} and {maxResourceLeaseMs}" none)
  pure duration

/-- `safePositive` -/
def safePositive (value : ℕ) (label : String) : ResourceCall ℕ := do
  refuse (value = 0 ∨ Json.maxSafeInteger < value)
    (.lease .invalidInput s!"{label} must be a positive integer" none)
  pure value

/-- `boundedLimit` -/
def boundedLimit (value : Option ℕ) : ResourceCall ℕ := do
  let limit := value.getD 1000
  refuse (limit < 1 ∨ 10000 < limit)
    (.lease .invalidInput "limit must be an integer between 1 and 10000" none)
  pure limit

/-- `validateMetadata` -/
def validateMetadata (rt : ResourceRuntime) (value : Option Metadata) : ResourceCall Metadata := do
  let metadata := value.getD ⟨[]⟩
  refuse (maxResourceMetadataBytes < rt.metadataBytes metadata)
    (.lease .invalidInput s!"metadata exceeds {maxResourceMetadataBytes} UTF-8 bytes" none)
  pure metadata

/-- `requireIdempotencyKey` -/
def requireIdempotencyKey (key : String) : ResourceCall Unit :=
  refuse (Blank key)
    (.lease .invalidInput "idempotencyKey is required for resource mutations" none)

/-- The end of a lease of this duration that starts now. -/
def leaseExpiry (now duration : UnixMs) : ResourceCall UnixMs := do
  refuse (Json.maxSafeInteger < now + duration)
    (.lease .invalidInput "lease expiry exceeds unix-ms range" none)
  pure (now + duration)

/-- `assertClockNotBefore` -/
def assertClockNotBefore (id : UuidV7) (lease : ResourceLease) (now : UnixMs) : ResourceCall Unit :=
  refuse (now < lease.heartbeatAt ∨ now < lease.updatedAt)
    (.lease .clockRegression
      s!"Clock moved backwards for {lease.resourceKey}: {now} < {max lease.heartbeatAt lease.updatedAt}"
      (some (lease.view id now)))

/-- `assertOwned` -/
def assertOwned (id : UuidV7) (lease : ResourceLease) (principalId : String) (leaseId : UuidV7)
    (fence : ℕ) (now : UnixMs) : ResourceCall Unit := do
  assertClockNotBefore id lease now
  let current := some (lease.view id now)
  refuse (lease.releasedAt ≠ none) (.lease .released s!"Lease {id} was released" current)
  refuse (lease.expiresAt ≤ now)
    (.lease .expired s!"Lease {id} expired at {lease.expiresAt}" current)
  refuse (id ≠ leaseId ∨ lease.fence ≠ fence)
    (.lease .staleFence s!"Stale lease or fence for {lease.resourceKey}" current)
  refuse (lease.holderPrincipalId ≠ principalId)
    (.lease .notHolder s!"Resource {lease.resourceKey} is held by {lease.holderActor}" current)

namespace ResourceStore

variable (s : ResourceStore) (rt : ResourceRuntime)

/-! ### Reads and retries -/

/-- `requireSpace` -/
def requireSpace : ResourceCall Unit :=
  refuse (s.space = false)
    (.lease .spaceNotFound s!"Coordination space not found: {s.workspaceId}" none)

/-- `resolvePrincipal` -/
def resolvePrincipal (ctx : ResourceContext) : ResourceCall (ResourceStore × Principal) :=
  match ctx.principalId.filter (· ≠ "") with
  | some id => do
    let p ← demand (s.principals.find? (·.id = id))
      (.lease .notHolder s!"Principal not found in space: {id}" none)
    refuse (p.enabled = false) (.lease .notHolder s!"Principal is disabled: {id}" none)
    pure (s, p)
  | none => do
    let l ← liftCall (s.ledger.ensureLocalPrincipal rt.toRuntime ctx.actor)
    let p ← demand (l.principals.find? (·.localAlias = some ctx.actor))
      (.call (.error s!"Failed to resolve local principal for {ctx.actor}"))
    pure ({ s with principals := l.principals }, p)

/-- `resolveExistingPrincipal` -/
def resolveExistingPrincipal (ctx : ResourceContext) : ResourceCall Principal :=
  let id := ctx.principalId.getD (localPrincipalId rt.toRuntime s.workspaceId ctx.actor)
  demand ((s.principals.find? (·.id = id)).filter (·.enabled))
    (.lease .notHolder s!"Enabled principal not found in space: {id}" none)

/-- `retryIdentity` -/
def retryIdentity (ctx : ResourceMutationContext) (operation : ResourceOperation)
    (request : ResourceRequest) (now : UnixMs) :
    ResourceCall (Option (Retry.Identity ResourceOperation)) :=
  liftCall (Retry.prepareIdempotency s.workspaceId ctx.actor ctx.principalId
    (some ctx.idempotencyKey) operation (rt.retryDigest request) none now)

/-- `replayOperation`: the store with the earlier answer. -/
def replayOperation (identity : Option (Retry.Identity ResourceOperation)) (observedAt : UnixMs) :
    ResourceCall (ResourceStore × Option ResourceLeaseOperation) := do
  let (retries, prior) ← liftCall (Retry.findIdempotencyResult s.retries identity)
  let s := { s with retries := retries }
  match prior with
  | none => pure (s, none)
  | some prior => do
    let row ← demand s.leases[prior.resultId]?
      (.lease .storageError s!"Retry identity points at missing lease {prior.resultId}" none)
    let lease ← parseLease row
    assertClockNotBefore prior.resultId lease observedAt
    pure (s, some ⟨prior.resultStatus.getD .acquired, prior.createdAt, prior.resultId, lease,
      prior.eventSequence.getD 0⟩)

/-- `saveOperation` -/
def saveOperation (identity : Option (Retry.Identity ResourceOperation))
    (disposition : ResourceDisposition) (id : UuidV7) (lease : ResourceLease)
    (eventSequence : ℕ) : ResourceCall ResourceStore := do
  let retries ← liftCall (Retry.saveIdempotencyResult s.retries identity
    ⟨id, some disposition, some lease.revision,
      if eventSequence > 0 then some eventSequence else none⟩)
  pure { s with retries := retries }

/-- The refusal where a resource has no live lease. -/
def noLiveLease {α : Type} (resourceKey : String) (now : UnixMs) : ResourceCall α := do
  let latest ← s.latestLease resourceKey
  .error (.lease (if latest.isSome then .released else .notFound)
    s!"No live lease for {resourceKey}" (latest.map fun row => row.2.view row.1 now))

/-! ### Transitions -/

/-- `expireLease`: the store with the expired lease and the sequence of its event. -/
def expireLease (id : UuidV7) (lease : ResourceLease) (actor principalId : String) (now : UnixMs)
    (expectedRevision : Option ℕ) : ResourceCall (ResourceStore × ResourceLease × ℕ) := do
  assertClockNotBefore id lease now
  let (s, expired) ← s.updateLease id expectedRevision
    (.lease .staleFence s!"Lease changed while expiring {lease.resourceKey}" none)
    fun r => { r with releasedAt := some now, releaseReason := some "expired", updatedAt := now }
  let (s, sequence) := s.appendResourceEvent id expired actor principalId
    (.expired expired.fence now) now
  pure (s, expired, sequence)

/-- The end of `acquireResourceLease`: a new lease under the fence after `priorFence`. -/
def insertAcquired (newId : UuidV7) (identity : Option (Retry.Identity ResourceOperation))
    (resourceKey actor : String) (principal : Principal) (metadata : Metadata)
    (disposition : ResourceDisposition) (priorFence : ℕ) (now expiresAt : UnixMs) :
    ResourceCall (ResourceStore × ResourceLeaseOperation) := do
  refuse (Json.maxSafeInteger ≤ priorFence)
    (.lease .unavailable s!"Fence space exhausted for {resourceKey}" none)
  let row : ResourceLease :=
    { resourceKey := resourceKey
      holderActor := actor
      holderPrincipalId := principal.id
      revision := 1
      fence := priorFence + 1
      acquiredAt := now
      heartbeatAt := now
      expiresAt := expiresAt
      releasedAt := none
      releaseReason := none
      metadata := canonical metadata
      createdAt := now
      updatedAt := now }
  let s ← s.insertLease newId row
  let lease ← parseLease row
  let (s, sequence) := s.appendResourceEvent newId lease actor principal.id
    (.acquired lease.fence lease.expiresAt disposition) now
  let s ← s.saveOperation identity disposition newId lease sequence
  pure (s, ⟨disposition, now, newId, lease, sequence⟩)

/-- `acquireResourceLease` -/
def acquireResourceLease (newId : UuidV7) (resourceKeyInput : String)
    (ctx : ResourceMutationContext) (leaseMs : Option ℕ) (metadata : Option Metadata) :
    ResourceCall (ResourceStore × ResourceLeaseOperation) := do
  let actor ← parseActor ctx.actor
  let resourceKey ← parseResourceKey rt resourceKeyInput
  let duration ← leaseDuration leaseMs
  let metadata ← validateMetadata rt metadata
  requireIdempotencyKey ctx.idempotencyKey
  let now ← nowFrom ctx.clock
  let expiresAt ← leaseExpiry now duration
  let identity ← s.retryIdentity rt ctx .acquire
    (.acquire resourceKey ctx.principalId duration metadata) now
  let (s, replay) ← s.replayOperation identity now
  match replay with
  | some answer => pure (s, answer)
  | none => do
    s.requireSpace
    let (s, principal) ← s.resolvePrincipal rt ctx.toResourceContext
    let current ← s.liveLease resourceKey
    match current with
    | none => do
      let latest ← s.latestLease resourceKey
      s.insertAcquired newId identity resourceKey actor principal metadata .acquired
        ((latest.map fun row => row.2.fence).getD 0) now expiresAt
    | some (id, current) => do
      assertClockNotBefore id current now
      if now < current.expiresAt then do
        refuse (current.holderPrincipalId ≠ principal.id)
          (.lease .contended
            s!"Resource {resourceKey} is held by {current.holderActor} until {current.expiresAt}"
            (some (current.view id now)))
        let cursor := s.leaseEventCursor id
        let s ← s.saveOperation identity .alreadyHeld id current cursor
        pure (s, ⟨.alreadyHeld, now, id, current, cursor⟩)
      else do
        let (s, _) ← s.expireLease id current actor principal.id now none
        s.insertAcquired newId identity resourceKey actor principal metadata .reclaimed
          current.fence now expiresAt

/-- `renewResourceLease` -/
def renewResourceLease (resourceKeyInput : String) (ctx : ResourceMutationContext)
    (leaseId : UuidV7) (fence expectedRevision : ℕ) (leaseMs : Option ℕ) :
    ResourceCall (ResourceStore × ResourceLeaseOperation) := do
  let actor ← parseActor ctx.actor
  let resourceKey ← parseResourceKey rt resourceKeyInput
  let duration ← leaseDuration leaseMs
  let fence ← safePositive fence "fence"
  let expectedRevision ← safePositive expectedRevision "expectedRevision"
  requireIdempotencyKey ctx.idempotencyKey
  let now ← nowFrom ctx.clock
  let expiresAt ← leaseExpiry now duration
  let identity ← s.retryIdentity rt ctx .renew
    (.renew resourceKey ctx.principalId leaseId fence expectedRevision duration) now
  let (s, replay) ← s.replayOperation identity now
  match replay with
  | some answer => pure (s, answer)
  | none => do
    s.requireSpace
    let (s, principal) ← s.resolvePrincipal rt ctx.toResourceContext
    let current ← s.liveLease resourceKey
    match current with
    | none => s.noLiveLease resourceKey now
    | some (id, current) => do
      assertOwned id current principal.id leaseId fence now
      let (s, lease) ← s.updateLease id (some expectedRevision)
        (.lease .staleFence s!"Stale revision for {resourceKey}" (some (current.view id now)))
        fun r => { r with heartbeatAt := now, expiresAt := expiresAt, updatedAt := now }
      let (s, sequence) := s.appendResourceEvent id lease actor principal.id
        (.renewed lease.fence expectedRevision expiresAt) now
      let s ← s.saveOperation identity .renewed id lease sequence
      pure (s, ⟨.renewed, now, id, lease, sequence⟩)

/-- `releaseResourceLease` -/
def releaseResourceLease (resourceKeyInput : String) (ctx : ResourceMutationContext)
    (leaseId : UuidV7) (fence expectedRevision : ℕ) (reason : Option String) :
    ResourceCall (ResourceStore × ResourceLeaseOperation) := do
  let actor ← parseActor ctx.actor
  let resourceKey ← parseResourceKey rt resourceKeyInput
  let fence ← safePositive fence "fence"
  let expectedRevision ← safePositive expectedRevision "expectedRevision"
  let reason := reason.getD "released"
  refuse (Blank reason ∨ 1000 < utf16Length reason)
    (.lease .invalidInput "reason must contain 1..1000 characters" none)
  requireIdempotencyKey ctx.idempotencyKey
  let now ← nowFrom ctx.clock
  let identity ← s.retryIdentity rt ctx .release
    (.release resourceKey ctx.principalId leaseId fence expectedRevision reason) now
  let (s, replay) ← s.replayOperation identity now
  match replay with
  | some answer => pure (s, answer)
  | none => do
    s.requireSpace
    let (s, principal) ← s.resolvePrincipal rt ctx.toResourceContext
    let current ← s.liveLease resourceKey
    match current with
    | none => s.noLiveLease resourceKey now
    | some (id, current) => do
      assertClockNotBefore id current now
      if current.expiresAt ≤ now then do
        refuse (id ≠ leaseId ∨ current.fence ≠ fence)
          (.lease .staleFence s!"Stale lease or fence for {resourceKey}" (some (current.view id now)))
        refuse (current.holderPrincipalId ≠ principal.id)
          (.lease .notHolder s!"Resource {resourceKey} is held by {current.holderActor}"
            (some (current.view id now)))
        let (s, expired, sequence) ← s.expireLease id current actor principal.id now
          (some expectedRevision)
        let s ← s.saveOperation identity .expired id expired sequence
        pure (s, ⟨.expired, now, id, expired, sequence⟩)
      else do
        assertOwned id current principal.id leaseId fence now
        let (s, lease) ← s.updateLease id (some expectedRevision)
          (.lease .staleFence s!"Stale revision for {resourceKey}" (some (current.view id now)))
          fun r => { r with releasedAt := some now, releaseReason := some reason, updatedAt := now }
        let (s, sequence) := s.appendResourceEvent id lease actor principal.id
          (.released lease.fence reason) now
        let s ← s.saveOperation identity .released id lease sequence
        pure (s, ⟨.released, now, id, lease, sequence⟩)

/-- `verifyResourceFence` -/
def verifyResourceFence (resourceKeyInput : String) (ctx : ResourceContext) (leaseId : UuidV7)
    (fence : ℕ) : ResourceCall ResourceFenceVerification := do
  let _ ← parseActor ctx.actor
  let resourceKey ← parseResourceKey rt resourceKeyInput
  let fence ← safePositive fence "fence"
  s.requireSpace
  let principal ← s.resolveExistingPrincipal rt ctx
  let current ← s.liveLease resourceKey
  let now ← nowFrom ctx.clock
  match current with
  | none => s.noLiveLease resourceKey now
  | some (id, current) => do
    assertOwned id current principal.id leaseId fence now
    pure ⟨s.workspaceId, resourceKey, id, current.fence, current.holderPrincipalId, now,
      current.expiresAt⟩

/-! ### Sweep -/

/-- The order of a sweep: by expiry, then by resource. -/
def sweepOrder (a b : UuidV7 × ResourceLease) : Prop :=
  a.2.expiresAt < b.2.expiresAt ∨
    a.2.expiresAt = b.2.expiresAt ∧ a.2.resourceKey ≤ b.2.resourceKey

instance decidableSweepOrder : DecidableRel sweepOrder := by
  intro a b
  unfold sweepOrder
  infer_instance

/-- The unreleased leases that have expired at `now`, in the order of a sweep. -/
def expiredLeases (now : UnixMs) : List (UuidV7 × ResourceLease) :=
  (Table.rows s.leases fun _ r => r.releasedAt.isNone && decide (r.expiresAt ≤ now)).insertionSort
    sweepOrder

/-- One round of the loop of a sweep. -/
def sweepLease (actor principalId : String) (now : UnixMs)
    (state : ResourceStore × List (UuidV7 × ResourceLease) × ℕ) (row : UuidV7 × ResourceLease) :
    ResourceCall (ResourceStore × List (UuidV7 × ResourceLease) × ℕ) := do
  let lease ← parseLease row.2
  let (s, expired, sequence) ← state.1.expireLease row.1 lease actor principalId now none
  pure (s, state.2.1 ++ [(row.1, expired)], sequence)

/-- `sweepExpiredResources` -/
def sweepExpiredResources (ctx : ResourceContext) (limit : Option ℕ) :
    ResourceCall (ResourceStore × ResourceSweep) := do
  let actor ← parseActor ctx.actor
  let limit ← boundedLimit limit
  let now ← nowFrom ctx.clock
  s.requireSpace
  let (s, principal) ← s.resolvePrincipal rt ctx
  let rows := (s.expiredLeases now).take limit
  let (s, expired, cursor) ← rows.foldlM (sweepLease actor principal.id now) (s, [], 0)
  let cursor := if cursor = 0 then (s.events.map (·.sequence)).foldl max 0 else cursor
  pure (s, ⟨now, expired, cursor⟩)

end ResourceStore

end Tasq
