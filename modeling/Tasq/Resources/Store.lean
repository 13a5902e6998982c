import Mathlib.Data.List.MinMax
import Mathlib.Tactic
import Tasq.Idempotency
import Tasq.Ledger
import Tasq.Lib.Lease

/-! The tables of resource coordination in one workspace: leases of resources under fences, their
    events, and the retry identities of the mutations. `insertLease` and `updateLease` carry the
    constraints and triggers of the database.

    The id of a lease is its key. A lease is never deleted: a released one stays as history. -/

namespace Tasq

open Text Outcome

/-- `ResourceProblemCode` -/
inductive ResourceProblemCode where
  | invalidInput | spaceNotFound | notFound | contended | notHolder | staleFence | expired
  | released | clockRegression | storageError | unavailable
  deriving DecidableEq, Repr

/-- `ResourceLease` -/
structure ResourceLease where
  resourceKey : String
  holderActor : String
  holderPrincipalId : String
  revision : ℕ
  fence : ℕ
  acquiredAt : UnixMs
  heartbeatAt : UnixMs
  expiresAt : UnixMs
  releasedAt : Option UnixMs
  releaseReason : Option String
  metadata : Metadata
  createdAt : UnixMs
  updatedAt : UnixMs
  deriving DecidableEq

inductive ResourceLeaseEffectiveStatus where
  | active | expired | released
  deriving DecidableEq, Repr

/-- `ResourceLeaseView` -/
structure ResourceLeaseView where
  status : ResourceLeaseEffectiveStatus
  observedAt : UnixMs
  leaseId : UuidV7
  lease : ResourceLease
  deriving DecidableEq

/-- What a resource call throws: a `ResourceLeaseError`, or what the calls under it throw. -/
inductive ResourceFailure where
  | lease (code : ResourceProblemCode) (message : String) (currentLease : Option ResourceLeaseView)
  | call (failure : Failure)
  deriving DecidableEq

/-- A resource call. -/
abbrev ResourceCall (σ : Type) := Except ResourceFailure σ

/-- What the calls under it throw, a resource call throws. -/
def liftCall {α : Type} (x : Call α) : ResourceCall α := x.mapError .call

@[simp] theorem liftCall_eq_ok {α : Type} (x : Call α) (a : α) :
    liftCall x = .ok a ↔ x = .ok a := by
  cases x <;> simp [liftCall, Except.mapError]

/-- The disposition of a lease operation. -/
inductive ResourceDisposition where
  | acquired | alreadyHeld | reclaimed | renewed | released | expired
  deriving DecidableEq, Repr

/-- `ResourceEventType`, with the payload of each type. -/
inductive ResourceEventType where
  | acquired (fence : ℕ) (expiresAt : UnixMs) (disposition : ResourceDisposition)
  | renewed (fence previousRevision : ℕ) (expiresAt : UnixMs)
  | released (fence : ℕ) (reason : String)
  | expired (fence : ℕ) (expiredAt : UnixMs)
  deriving DecidableEq

/-- A row of `resource_event`. -/
structure ResourceEvent where
  sequence : ℕ
  resourceKey : String
  leaseId : UuidV7
  actor : String
  principalId : String
  eventType : ResourceEventType
  createdAt : UnixMs
  deriving DecidableEq

/-- The operations that have a retry identity. -/
inductive ResourceOperation where
  | acquire | renew | release
  deriving DecidableEq, Repr

instance : ToString ResourceOperation where
  toString
    | .acquire => "resource.acquire"
    | .renew => "resource.renew"
    | .release => "resource.release"

/-- What the digest of an idempotent resource call is taken of. -/
inductive ResourceRequest where
  | acquire (resourceKey : String) (principalId : Option String) (leaseMs : ℕ) (metadata : Metadata)
  | renew (resourceKey : String) (principalId : Option String) (leaseId : UuidV7)
      (fence expectedRevision leaseMs : ℕ)
  | release (resourceKey : String) (principalId : Option String) (leaseId : UuidV7)
      (fence expectedRevision : ℕ) (reason : String)
  deriving DecidableEq

/-- The platform under resource coordination. -/
structure ResourceRuntime extends Runtime where
  /-- The text is in Unicode normalization form C. -/
  normalized : String → Bool
  /-- `Buffer.byteLength` of the canonical text of metadata. -/
  metadataBytes : Metadata → ℕ
  /-- The digest of an idempotent request. -/
  retryDigest : ResourceRequest → Digest

/-- The rows of one workspace. -/
structure ResourceStore where
  workspaceId : String
  /-- The coordination space has a row. -/
  space : Bool
  principals : List Principal
  leases : Table UuidV7 ResourceLease
  events : List ResourceEvent
  /-- The last sequence that `resource_event` gave, in any workspace. -/
  lastSequence : ℕ
  retries : List (Retry.IdempotencyRecord ResourceOperation ResourceDisposition)
  /-- Lease ids of the other workspaces of the store. -/
  otherLeaseIds : List UuidV7

/-- A lease as a fenced lease of its resource. -/
def resourceLease : Lease ResourceLease String :=
  ⟨ResourceLease.resourceKey, ResourceLease.fence, fun r => r.releasedAt.isSome⟩

namespace ResourceLease

/-- What the `ResourceLease` schema checks beyond the bounds of the texts, and the `CHECK`
    constraints of `resource_lease`. -/
@[mk_iff] structure Refined (r : ResourceLease) : Prop where
  revision_pos : 0 < r.revision
  fence_pos : 0 < r.fence
  heartbeat : r.acquiredAt ≤ r.heartbeatAt
  expiry : r.heartbeatAt < r.expiresAt
  reason : r.releasedAt = none ↔ r.releaseReason = none
  release : ∀ t ∈ r.releasedAt, r.acquiredAt ≤ t
  stated : ∀ reason ∈ r.releaseReason, sqlTrim reason ≠ ""

instance decidableRefined (r : ResourceLease) : Decidable r.Refined :=
  decidable_of_iff' _ r.refined_iff

/-- The columns that no update may change. -/
def SameIdentity (old new : ResourceLease) : Prop :=
  new.resourceKey = old.resourceKey ∧ new.holderActor = old.holderActor ∧
    new.holderPrincipalId = old.holderPrincipalId ∧ new.fence = old.fence ∧
    new.acquiredAt = old.acquiredAt ∧ new.createdAt = old.createdAt ∧ new.metadata = old.metadata

/-- What `resource_lease_transition_guard` lets pass: a later heartbeat with a later expiry, or a
    release that leaves both. -/
@[mk_iff] structure Guarded (old new : ResourceLease) : Prop where
  unreleased : old.releasedAt = none
  revision : new.revision = old.revision + 1
  heartbeat : old.heartbeatAt ≤ new.heartbeatAt
  expiry : new.heartbeatAt < new.expiresAt
  updated : old.updatedAt ≤ new.updatedAt
  renewal : new.releasedAt = none →
    new.heartbeatAt ≠ old.heartbeatAt ∧ old.expiresAt < new.expiresAt
  release : ∀ t ∈ new.releasedAt, new.heartbeatAt = old.heartbeatAt ∧
    new.expiresAt = old.expiresAt ∧ new.updatedAt = t

instance decidableSameIdentity (old new : ResourceLease) : Decidable (SameIdentity old new) := by
  unfold SameIdentity; infer_instance

instance decidableGuarded (old new : ResourceLease) : Decidable (Guarded old new) :=
  decidable_of_iff' _ (guarded_iff old new)

/-- `view` -/
def view (id : UuidV7) (lease : ResourceLease) (observedAt : UnixMs) : ResourceLeaseView where
  status :=
    if lease.releasedAt.isSome then
      if lease.releaseReason = some "expired" then .expired else .released
    else if lease.expiresAt ≤ observedAt then .expired else .active
  observedAt := observedAt
  leaseId := id
  lease := lease

end ResourceLease

namespace ResourceStore

variable (s : ResourceStore)

/-- The work ledger, as attribution reads it. -/
def ledger : Ledger where
  workspaceId := s.workspaceId
  tasks := ∅
  claims := ∅
  attempts := ∅
  waits := ∅
  principals := s.principals
  references := []
  otherTaskIds := []

/-- `parseLease` -/
def parseLease (r : ResourceLease) : ResourceCall ResourceLease := do
  refuse (¬ r.Refined) (.call (.invalid "ResourceLease"))
  pure r

/-- The leases of a resource. -/
def leasesOf (resourceKey : String) : List (UuidV7 × ResourceLease) :=
  Table.rows s.leases fun _ r => r.resourceKey = resourceKey

/-- `latestLease` -/
def latestLease (resourceKey : String) : ResourceCall (Option (UuidV7 × ResourceLease)) :=
  match (s.leasesOf resourceKey).argmax fun row => row.2.fence with
  | none => pure none
  | some row => (fun r => some (row.1, r)) <$> parseLease row.2

/-- `liveLease` -/
def liveLease (resourceKey : String) : ResourceCall (Option (UuidV7 × ResourceLease)) :=
  match ((s.leasesOf resourceKey).filter fun row => row.2.releasedAt.isNone).head? with
  | none => pure none
  | some row => (fun r => some (row.1, r)) <$> parseLease row.2

/-- `INSERT INTO resource_lease` -/
def insertLease (id : UuidV7) (r : ResourceLease) : ResourceCall ResourceStore := do
  refuse (¬ r.Refined) (.call (.constraint "CHECK resource_lease"))
  refuse (id ∈ s.leases ∨ id ∈ s.otherLeaseIds) (.call (.constraint "UNIQUE resource_lease.id"))
  refuse (r.releasedAt = none ∧
      Table.has s.leases fun _ row => row.resourceKey = r.resourceKey && row.releasedAt.isNone)
    (.call (.constraint "uniq_resource_lease_active"))
  refuse (Table.has s.leases fun _ row => row.resourceKey = r.resourceKey && row.fence = r.fence)
    (.call (.constraint "uniq_resource_lease_fence"))
  pure { s with leases := s.leases.insert id r }

/-- `UPDATE resource_lease SET ..., revision = revision + 1 WHERE id = ? AND released_at IS NULL`,
    and where the revision is the expected one. Without such a row the call throws `stale`. -/
def updateLease (id : UuidV7) (expectedRevision : Option ℕ) (stale : ResourceFailure)
    (f : ResourceLease → ResourceLease) : ResourceCall (ResourceStore × ResourceLease) := do
  let old ← demand (s.leases[id]?.filter fun r =>
    r.releasedAt.isNone && expectedRevision.all (· = r.revision)) stale
  let new := { f old with revision := old.revision + 1 }
  refuse (¬ ResourceLease.SameIdentity old new)
    (.call (.constraint "resource_lease identity is immutable"))
  refuse (¬ ResourceLease.Guarded old new)
    (.call (.constraint "invalid resource_lease transition"))
  refuse (¬ new.Refined) (.call (.constraint "CHECK resource_lease"))
  let parsed ← parseLease new
  pure ({ s with leases := s.leases.insert id new }, parsed)

/-- `appendResourceEvent`: the store with the sequence of the new event. -/
def appendResourceEvent (id : UuidV7) (lease : ResourceLease) (actor principalId : String)
    (eventType : ResourceEventType) (now : UnixMs) : ResourceStore × ℕ :=
  ({ s with
      events := s.events ++ [⟨s.lastSequence + 1, lease.resourceKey, id, actor, principalId,
        eventType, now⟩]
      lastSequence := s.lastSequence + 1 }, s.lastSequence + 1)

/-- `leaseEventCursor` -/
def leaseEventCursor (id : UuidV7) : ℕ :=
  ((s.events.filter (·.leaseId = id)).map (·.sequence)).foldl max 0

end ResourceStore

end Tasq
