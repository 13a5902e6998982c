import Mathlib.Data.Prod.Lex
import Mathlib.Data.String.Basic
import Mathlib.Tactic
import Tasq.Failure
import Tasq.Lib.Json
import Tasq.Lib.Table
import Tasq.Lib.Text
import Tasq.Schema.Commitment

/-! The durable outbox of one workspace: sinks, the events they are owed, and the calls by which
    workers lease, complete and fail deliveries.

    An outbox row is kept under its sink and event sequence, the unique key of the table, so the
    rows of a sink come in event order. The calls that look at the store before they open their
    transaction take that earlier store as `seen`: other calls may have come in between. -/

namespace Tasq

open Text Outcome

inductive DeliverySinkStatus where
  | enabled | disabled
  deriving DecidableEq, Repr

inductive DeliveryOutboxStatus where
  | pending | delivering | delivered | quarantined
  deriving DecidableEq, Repr

/-- A row of `delivery_sink`. -/
structure DeliverySink where
  kind : String
  configurationDigest : String
  status : DeliverySinkStatus
  startAfterSequence : ℕ
  createdAt : UnixMs
  updatedAt : UnixMs
  deriving DecidableEq

/-- A row of `delivery_outbox`. -/
structure DeliveryOutbox where
  id : String
  eventId : String
  status : DeliveryOutboxStatus
  attemptCount : ℕ
  availableAt : UnixMs
  leaseOwner : Option String
  leaseExpiresAt : Option UnixMs
  lastError : Option String
  deliveredAt : Option UnixMs
  quarantinedAt : Option UnixMs
  createdAt : UnixMs
  updatedAt : UnixMs
  deriving DecidableEq

/-- A row of `event`, as far as a delivery reads it. -/
structure SourceEvent where
  id : String
  createdAt : UnixMs
  deriving DecidableEq

/-- The rows of one workspace. -/
structure DeliveryStore where
  sinks : Table String DeliverySink
  events : Table ℕ SourceEvent
  /-- The last sequence that `event` gave, in any workspace. -/
  lastSequence : ℕ
  outbox : Table (String ×ₗ ℕ) DeliveryOutbox

/-- `EnsureDeliverySinkInput` -/
structure EnsureDeliverySinkInput where
  id : String
  kind : String
  configurationDigest : String
  deriving DecidableEq

/-- `LeaseNextDeliveryOptions`, with the reading of the clock. -/
structure LeaseNextDeliveryOptions where
  leaseOwner : String
  leaseMs : ℕ
  now : UnixMs
  deriving DecidableEq

/-- `FailDeliveryOptions`, with the reading of the clock. -/
structure FailDeliveryOptions where
  leaseOwner : String
  now : UnixMs
  error : String
  maxAttempts : Option ℕ := none
  baseBackoffMs : Option ℕ := none
  maxBackoffMs : Option ℕ := none
  deriving DecidableEq

/-- `LeasedDelivery`: the item of a sink that a worker is handed, and its event. -/
structure LeasedDelivery where
  sinkId : String
  eventSequence : ℕ
  delivery : DeliveryOutbox
  event : SourceEvent
  deriving DecidableEq

/-! ### Checks of the inputs -/

/-- `/^sha256:[0-9a-f]{64}$/` -/
def isSha256Text (s : String) : Bool :=
  s.toList.take 7 == "sha256:".toList && (s.toList.drop 7).length == 64 &&
    (s.toList.drop 7).all fun c => c.isDigit || ('a' ≤ c && c ≤ 'f')

/-- `validateInput` -/
def validateSinkInput (input : EnsureDeliverySinkInput) : Call Unit := do
  refuse (Blank input.id ∨ 500 < utf16Length input.id)
    (.error "delivery sink id must contain 1..500 characters")
  refuse (Blank input.kind ∨ 500 < utf16Length input.kind)
    (.error "delivery sink kind must contain 1..500 characters")
  refuse (isSha256Text input.configurationDigest = false)
    (.error "delivery sink configurationDigest must be sha256:<64 lowercase hex>")

/-- `assertSameBinding` -/
def assertSameBinding (row : DeliverySink) (input : EnsureDeliverySinkInput) : Call Unit :=
  refuse (row.kind ≠ input.kind ∨ row.configurationDigest ≠ input.configurationDigest)
    (.error s!"Delivery sink {input.id} is already bound to a different kind or configuration")

/-- `validateLeaseOwner` -/
def validateLeaseOwner (owner : String) : Call Unit :=
  refuse (Blank owner ∨ 500 < utf16Length owner)
    (.error "delivery leaseOwner must contain 1..500 characters")

/-- `validateLease` -/
def validateLease (owner : String) (leaseMs : ℕ) : Call Unit := do
  validateLeaseOwner owner
  refuse (Json.maxSafeInteger < leaseMs ∨ leaseMs = 0)
    (.error "delivery leaseMs must be a positive safe integer")

/-- `isLeaseableHead` -/
def isLeaseableHead (head : DeliveryOutbox) (now : UnixMs) : Bool :=
  match head.status with
  | .quarantined => false
  | .pending => head.availableAt ≤ now
  | .delivering | .delivered => head.leaseExpiresAt.getD 0 ≤ now

/-- A positive safe integer for the option `label`. -/
def positiveOption (label : String) (value : ℕ) : Call Unit :=
  refuse (Json.maxSafeInteger < value ∨ value = 0)
    (.error s!"delivery {label} must be a positive safe integer")

/-! ### Rows after an update -/

namespace DeliveryOutbox

/-- What a lease sets. -/
def leased (owner : String) (leaseExpiresAt now : UnixMs) (row : DeliveryOutbox) : DeliveryOutbox :=
  { row with
    status := .delivering
    attemptCount := row.attemptCount + 1
    leaseOwner := some owner
    leaseExpiresAt := some leaseExpiresAt
    lastError := none
    deliveredAt := none
    quarantinedAt := none
    updatedAt := now }

/-- What a completion sets. -/
def completed (now : UnixMs) (row : DeliveryOutbox) : DeliveryOutbox :=
  { row with
    status := .delivered
    leaseOwner := none
    leaseExpiresAt := none
    lastError := none
    deliveredAt := some now
    quarantinedAt := none
    updatedAt := now }

/-- The row is leased to `owner` and its id is in `ids`. -/
def Owned (ids : List String) (owner : String) (row : DeliveryOutbox) : Prop :=
  row.id ∈ ids ∧ row.status = .delivering ∧ row.leaseOwner = some owner

instance instDecidableOwned (ids : List String) (owner : String) (row : DeliveryOutbox) :
    Decidable (row.Owned ids owner) := inferInstanceAs (Decidable (_ ∧ _))

end DeliveryOutbox

/-- `s.slice(0, n)`, counted in code units. -/
def sliceUnits : ℕ → List Char → List Char
  | _, [] => []
  | n, c :: cs =>
    if (charUnits c).length ≤ n then c :: sliceUnits (n - (charUnits c).length) cs else []

namespace FailDeliveryOptions

/-- `maxAttempts`, or its default. -/
def attempts (options : FailDeliveryOptions) : ℕ := options.maxAttempts.getD 5

/-- The delay after `attemptCount` attempts. -/
def delay (options : FailDeliveryOptions) (attemptCount : ℕ) : ℕ :=
  min (options.maxBackoffMs.getD 300000)
    (options.baseBackoffMs.getD 1000 * 2 ^ (max 0 (attemptCount - 1)))

/-- The text of the error that is kept. -/
def detail (options : FailDeliveryOptions) : String :=
  let error := String.ofList (sliceUnits 4000 (jsTrim options.error).toList)
  if error = "" then "delivery failed without detail" else error

end FailDeliveryOptions

/-- What a failure sets. -/
def DeliveryOutbox.failed (options : FailDeliveryOptions) (row : DeliveryOutbox) : DeliveryOutbox :=
  let quarantined : Bool := options.attempts ≤ row.attemptCount
  { row with
    status := if quarantined then .quarantined else .pending
    availableAt :=
      if quarantined then row.availableAt else options.now + options.delay row.attemptCount
    leaseOwner := none
    leaseExpiresAt := none
    lastError := some options.detail
    deliveredAt := none
    quarantinedAt := if quarantined then some options.now else none
    updatedAt := options.now }

namespace DeliveryStore

/-! ### Sinks and events -/

/-- `ensureDeliverySink` -/
def ensureDeliverySink (seen s : DeliveryStore) (input : EnsureDeliverySinkInput) (now : UnixMs) :
    Call (DeliveryStore × DeliverySink) := do
  validateSinkInput input
  let current := seen.sinks[input.id]?
  current.elim (pure ()) fun row => assertSameBinding row input
  match current.filter (·.status = .enabled) with
  | some row => pure (s, row)
  | none =>
    match s.sinks[input.id]? with
    | some inside =>
      assertSameBinding inside input
      if inside.status = .enabled then
        pure (s, inside)
      else
        let row := { inside with status := .enabled, updatedAt := now }
        pure ({ s with sinks := s.sinks.insert input.id row }, row)
    | none =>
      let latest := (s.events.rows fun _ _ => true).getLast?
      let row : DeliverySink :=
        { kind := input.kind, configurationDigest := input.configurationDigest, status := .enabled
          startAfterSequence := latest.elim 0 Prod.fst, createdAt := now, updatedAt := now }
      pure ({ s with sinks := s.sinks.insert input.id row }, row)

/-- `disableDeliverySink` -/
def disableDeliverySink (seen s : DeliveryStore) (id : String) (now : UnixMs) :
    DeliveryStore × Option DeliverySink :=
  match seen.sinks[id]? with
  | none => (s, none)
  | some current =>
    if current.status = .disabled then (s, some current)
    else
      match s.sinks[id]? with
      | none => (s, none)
      | some row =>
        let row := { row with status := .disabled, updatedAt := now }
        ({ s with sinks := s.sinks.insert id row }, some row)

/-- The enabled sinks that are owed the event of a sequence. -/
def owed (s : DeliveryStore) (sequence : ℕ) : List (String × DeliverySink) :=
  s.sinks.rows fun _ sink => sink.status = .enabled ∧ sink.startAfterSequence < sequence

/-- The id of a delivery. -/
def deliveryId (sinkId eventId : String) : String := sinkId ++ "/" ++ eventId

/-- The row that the trigger adds for a sink. -/
def enqueued (event : SourceEvent) (sinkId : String) : DeliveryOutbox where
  id := deliveryId sinkId event.id
  eventId := event.id
  status := .pending
  attemptCount := 0
  availableAt := event.createdAt
  leaseOwner := none
  leaseExpiresAt := none
  lastError := none
  deliveredAt := none
  quarantinedAt := none
  createdAt := event.createdAt
  updatedAt := event.createdAt

/-- `INSERT INTO event`, with the trigger `delivery_outbox_after_event_insert`. -/
def insertEvent (s : DeliveryStore) (event : SourceEvent) : Call DeliveryStore := do
  refuse (s.events.has fun _ e => e.id = event.id) (.constraint "event.id")
  let sequence := s.lastSequence + 1
  let sinks := s.owed sequence
  refuse (s.outbox.has fun _ row => sinks.any fun e => row.id = deliveryId e.1 event.id)
    (.constraint "delivery_outbox")
  pure { s with
    events := s.events.insert sequence event
    lastSequence := sequence
    outbox := s.outbox.insertAll (fun e => toLex (e.1, sequence)) (fun e => enqueued event e.1)
      sinks }

/-! ### Leases -/

/-- The rows of a sink that are not delivered, in event order. -/
def queue (s : DeliveryStore) (sinkId : String) : List ((String ×ₗ ℕ) × DeliveryOutbox) :=
  s.outbox.rows fun k row => (ofLex k).1 = sinkId ∧ row.status ≠ .delivered

/-- `findDeliveryHead` -/
def findDeliveryHead (s : DeliveryStore) (sinkId : String) :
    Option ((String ×ₗ ℕ) × DeliveryOutbox) :=
  (s.queue sinkId).head?

/-- The head of the queue, when it can be leased. -/
def leaseableHead (s : DeliveryStore) (sinkId : String) (now : UnixMs) :
    Option ((String ×ₗ ℕ) × DeliveryOutbox) :=
  (s.findDeliveryHead sinkId).filter fun head => isLeaseableHead head.2 now

/-- The rows that satisfy `p` are updated, and the others stay. -/
def updateOutbox (s : DeliveryStore) (p : (String ×ₗ ℕ) → DeliveryOutbox → Bool)
    (g : DeliveryOutbox → DeliveryOutbox) : DeliveryStore :=
  { s with outbox := s.outbox.map fun k row => if p k row = true then g row else row }

/-- The event that a delivery points at. -/
def sourceEvent (s : DeliveryStore) (entry : (String ×ₗ ℕ) × DeliveryOutbox) :
    Call SourceEvent :=
  demand (s.events[(ofLex entry.1).2]?.filter (·.id = entry.2.eventId))
    (.error s!"Delivery {entry.2.id} points at a missing or mismatched event")

/-- `leaseNextDelivery` -/
def leaseNextDelivery (seen s : DeliveryStore) (sinkId : String)
    (options : LeaseNextDeliveryOptions) : Call (DeliveryStore × List LeasedDelivery) := do
  validateLease options.leaseOwner options.leaseMs
  let leaseExpiresAt := options.now + options.leaseMs
  refuse (Json.maxSafeInteger < leaseExpiresAt)
    (.error "delivery lease expiry exceeds safe unix-ms range")
  if (seen.leaseableHead sinkId options.now).isNone then
    pure (s, [])
  else
    match s.leaseableHead sinkId options.now with
    | none => pure (s, [])
    | some head =>
      let p : (String ×ₗ ℕ) → DeliveryOutbox → Bool := fun _ row => row.id = head.2.id
      let g := DeliveryOutbox.leased options.leaseOwner leaseExpiresAt options.now
      let leased ← demand (s.outbox.rows p).head? (.invalid "DeliveryOutbox")
      let source ← s.sourceEvent leased
      pure (s.updateOutbox p g,
        [⟨(ofLex leased.1).1, (ofLex leased.1).2, g leased.2, source⟩])

/-- One item of a batch: the updated row of the candidate with its event. -/
def batchItem (s : DeliveryStore) (leasedRows : List ((String ×ₗ ℕ) × DeliveryOutbox))
    (candidate : (String ×ₗ ℕ) × DeliveryOutbox) : Call LeasedDelivery := do
  let delivery ← demand (leasedRows.find? fun e => e.2.id = candidate.2.id)
    (.error s!"Delivery {candidate.2.id} points at a missing or mismatched event")
  let source ← s.sourceEvent candidate
  pure ⟨(ofLex delivery.1).1, (ofLex delivery.1).2, delivery.2, source⟩

/-- `leaseDeliveryBatch` -/
def leaseDeliveryBatch (seen s : DeliveryStore) (sinkId : String)
    (options : LeaseNextDeliveryOptions) (maxItems : ℕ) :
    Call (DeliveryStore × List LeasedDelivery) := do
  validateLease options.leaseOwner options.leaseMs
  refuse (maxItems < 1 ∨ 50 < maxItems) (.error "delivery maxItems must be an integer in 1..50")
  let leaseExpiresAt := options.now + options.leaseMs
  refuse (Json.maxSafeInteger < leaseExpiresAt)
    (.error "delivery lease expiry exceeds safe unix-ms range")
  if (seen.leaseableHead sinkId options.now).isNone then
    pure (s, [])
  else
    let candidates := ((s.queue sinkId).take maxItems).takeWhile fun candidate =>
      isLeaseableHead candidate.2 options.now
    if candidates.length = 0 then
      pure (s, [])
    else
      let ids := candidates.map fun candidate => candidate.2.id
      let p : (String ×ₗ ℕ) → DeliveryOutbox → Bool :=
        fun k row => (ofLex k).1 = sinkId ∧ row.id ∈ ids
      let g := DeliveryOutbox.leased options.leaseOwner leaseExpiresAt options.now
      let leasedRows := (s.outbox.rows p).map fun e => (e.1, g e.2)
      refuse (leasedRows.length ≠ candidates.length)
        (.error "Delivery batch lease lost queue ownership")
      let items ← candidates.mapM (s.batchItem leasedRows)
      pure (s.updateOutbox p g, items)

/-! ### Completions and failures -/

/-- The deliveries `ids` that `owner` holds. -/
def ownedRows (s : DeliveryStore) (ids : List String) (owner : String) :
    List ((String ×ₗ ℕ) × DeliveryOutbox) :=
  s.outbox.rows fun _ row => row.Owned ids owner

/-- The store after `owner` completes what it holds of `ids`. -/
def completeOwned (s : DeliveryStore) (ids : List String) (owner : String) (now : UnixMs) :
    DeliveryStore :=
  s.updateOutbox (fun _ row => row.Owned ids owner) (DeliveryOutbox.completed now)

/-- `completeDelivery` -/
def completeDelivery (s : DeliveryStore) (id owner : String) (now : UnixMs) :
    Call DeliveryStore := do
  validateLeaseOwner owner
  refuse (s.ownedRows [id] owner = []) (.error s!"Delivery lease is no longer owned: {id}")
  pure (s.completeOwned [id] owner now)

/-- `completeDeliveryBatch` -/
def completeDeliveryBatch (s : DeliveryStore) (ids : List String) (owner : String)
    (now : UnixMs) : Call DeliveryStore := do
  validateLeaseOwner owner
  refuse (ids.length < 1 ∨ 50 < ids.length ∨ ¬ ids.Nodup ∨
      ∃ id ∈ ids, Blank id ∨ 1500 < utf16Length id)
    (.error "delivery batch ids must contain 1..50 unique bounded identities")
  refuse ((s.ownedRows ids owner).length ≠ ids.length)
    (.error "Delivery batch lease is no longer wholly owned")
  pure (s.completeOwned ids owner now)

/-- `failDelivery` -/
def failDelivery (s : DeliveryStore) (id : String) (options : FailDeliveryOptions) :
    Call DeliveryStore := do
  validateLeaseOwner options.leaseOwner
  positiveOption "maxAttempts" options.attempts
  positiveOption "baseBackoffMs" (options.baseBackoffMs.getD 1000)
  positiveOption "maxBackoffMs" (options.maxBackoffMs.getD 300000)
  let current ← demand (s.ownedRows [id] options.leaseOwner).head?
    (.error s!"Delivery lease is no longer owned: {id}")
  refuse (Json.maxSafeInteger < options.now + options.delay current.2.attemptCount)
    (.error "delivery backoff exceeds safe unix-ms range")
  pure (s.updateOutbox (fun _ row => row.Owned [id] options.leaseOwner)
    (DeliveryOutbox.failed options))

end DeliveryStore

end Tasq
