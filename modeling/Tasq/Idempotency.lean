import Mathlib.Tactic
import Tasq.Runtime

/-! Durable identities of mutations: who made an idempotent call, what is remembered of it, and the
    replay of an earlier result.

    The services differ in their operations `ο` and in the statuses `σ` of their results; a row
    carries both. `findIdempotencyResult` answers the rows that stay with the one it found. -/

namespace Tasq

open Text Outcome

/-- `DEFAULT_IDEMPOTENCY_RETENTION_MS` -/
def defaultIdempotencyRetentionMs : ℕ := 30 * 24 * 60 * 60 * 1000

/-- Who made an idempotent call. -/
inductive CallerScope where
  | principal (id : String)
  | actor (name : String)
  | legacy
  deriving DecidableEq

/-- The text of a caller scope. -/
def CallerScope.text : CallerScope → String
  | .principal id => s!"principal:{id}"
  | .actor name => s!"actor:{name}"
  | .legacy => "workspace:legacy"

/-- `bounded` -/
def bounded (value label : String) (max : ℕ) : Call Unit :=
  refuse (Blank value ∨ max < utf16Length value)
    (.error s!"{label} must contain 1..{max} characters")

namespace Retry

/-- `PreparedIdempotency`. It is durable when it has no expiry. -/
structure Identity (ο : Type) where
  callerScope : CallerScope
  operation : ο
  key : String
  requestDigest : Digest
  legacyRequestDigest : Option Digest
  expiresAt : Option UnixMs
  createdAt : UnixMs

/-- `IdempotencyOutcome` -/
structure IdempotencyOutcome (σ : Type) where
  resultId : UuidV7
  resultStatus : Option σ
  resultRevision : Option ℕ
  eventSequence : Option ℕ
  deriving DecidableEq

/-- A row of `idempotency_key`. -/
structure IdempotencyRecord (ο σ : Type) extends IdempotencyOutcome σ where
  callerScope : CallerScope
  operation : ο
  key : String
  /-- The digest is of the version before scoped keys. -/
  legacyDigest : Bool
  requestDigest : Digest
  expiresAt : Option UnixMs
  createdAt : UnixMs
  deriving DecidableEq

/-- `idempotencyCallerScope` -/
def idempotencyCallerScope (actor : String) (principalId : Option String) : Call CallerScope :=
  match principalId with
  | some id => do
    bounded id "principalId" 980
    pure (.principal id)
  | none => do
    bounded actor "actor" 500
    pure (.actor actor)

section

variable {ο σ : Type} [DecidableEq ο] [ToString ο]

/-- `prepareIdempotency`, with the standard retention. -/
def prepareIdempotency (workspaceId actor : String) (principalId idempotencyKey : Option String)
    (operation : ο) (requestDigest : Digest) (legacyRequestDigest : Option Digest) (now : UnixMs) :
    Call (Option (Identity ο)) :=
  match idempotencyKey with
  | none => pure none
  | some key => do
    bounded key "idempotencyKey" 500
    bounded workspaceId "idempotency workspace" 500
    let expiresAt := now + defaultIdempotencyRetentionMs
    refuse (Json.maxSafeInteger < expiresAt) (.error "idempotency expiry exceeds unix-ms range")
    let callerScope ← idempotencyCallerScope actor principalId
    pure (some ⟨callerScope, operation, key, requestDigest, legacyRequestDigest, some expiresAt,
      now⟩)

/-- The identity, as errors name it. -/
def Identity.text (p : Identity ο) : String :=
  s!"{p.callerScope.text}/{p.operation}/{p.key}"

/-- The row under an exact identity. -/
def row (rows : List (IdempotencyRecord ο σ)) (callerScope : CallerScope) (operation : ο)
    (key : String) : Option (IdempotencyRecord ο σ) :=
  rows.find? fun r => r.callerScope = callerScope ∧ r.operation = operation ∧ r.key = key

/-- The expired row of the exact identity is removed. -/
def dropExpired (rows : List (IdempotencyRecord ο σ)) (p : Identity ο) :
    List (IdempotencyRecord ο σ) :=
  rows.filter fun r => ¬ (r.callerScope = p.callerScope ∧ r.operation = p.operation ∧
    r.key = p.key ∧ ∃ t ∈ r.expiresAt, t ≤ p.createdAt)

/-- `findIdempotencyResult` -/
def findIdempotencyResult (rows : List (IdempotencyRecord ο σ)) (prepared : Option (Identity ο)) :
    Call (List (IdempotencyRecord ο σ) × Option (IdempotencyRecord ο σ)) :=
  match prepared with
  | none => pure (rows, none)
  | some p => do
    let rows := dropExpired rows p
    let found := row rows p.callerScope p.operation p.key <|> row rows .legacy p.operation p.key
    refuse (∃ r ∈ found, some r.requestDigest ≠
        if r.legacyDigest then p.legacyRequestDigest else some p.requestDigest)
      (.error s!"Idempotency identity already used with a different request: {p.text}")
    pure (rows, found)

/-- `saveIdempotencyResult` -/
def saveIdempotencyResult (rows : List (IdempotencyRecord ο σ)) (prepared : Option (Identity ο))
    (outcome : IdempotencyOutcome σ) : Call (List (IdempotencyRecord ο σ)) :=
  match prepared with
  | none => pure rows
  | some p => do
    refuse (∃ n ∈ outcome.resultRevision, ¬ (0 < n ∧ n ≤ Json.maxSafeInteger))
      (.error "idempotency resultRevision must be a positive integer")
    refuse (∃ n ∈ outcome.eventSequence, ¬ (0 < n ∧ n ≤ Json.maxSafeInteger))
      (.error "idempotency eventSequence must be a positive integer")
    refuse (row rows p.callerScope p.operation p.key).isSome (.constraint "UNIQUE idempotency_key")
    pure (rows ++ [⟨outcome, p.callerScope, p.operation, p.key, false, p.requestDigest, p.expiresAt,
      p.createdAt⟩])

end

end Retry

end Tasq
