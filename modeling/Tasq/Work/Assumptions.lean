import Mathlib.Data.List.MinMax
import Mathlib.Tactic
import Tasq.Work.Calls

/-! Shared assumptions: one sentence that several commitments rest on, and that is withdrawn for all
    of them at once.

    A sentence names the record that stands under its normalised text, or else the one withdrawn
    last. A commitment is paused while it has an active link to a withdrawn record; nothing keeps
    that in a column. Of the input of a call, texts come as they are typed and ids are well
    formed. -/

namespace Tasq

open Text Outcome

/-! ### Texts -/

/-- `.replace(/\s+/g, " ")`; `inRun` says whether the last character was white space. -/
def collapseSpaces : (inRun : Bool) → List Char → List Char
  | _, [] => []
  | inRun, c :: cs =>
    if isJsSpace c then (if inRun then [] else [' ']) ++ collapseSpaces true cs
    else c :: collapseSpaces false cs

/-- `normalizeAssumptionText` -/
def normalizeAssumptionText (rt : WorkRuntime) (raw : String) : String :=
  rt.toLowerCase (String.ofList (collapseSpaces false (jsTrim (rt.nfc raw)).toList))

/-- `z.string().trim().min(1).max(maximum)` -/
def trimmedText (maximum : ℕ) (schema raw : String) : Call String := do
  let text := jsTrim raw
  refuse (text = "" ∨ maximum < utf16Length text) (.invalid schema)
  pure text

/-- `AssumptionText` -/
def assumptionText : String → Call String := trimmedText 200 "AssumptionText"

/-- `Reason` -/
def assumptionReason : String → Call String := trimmedText 2000 "Reason"

/-- `serviceNow`, of a context that carries its clock. -/
def PrincipalContext.serviceNow (ctx : PrincipalContext) : Call UnixMs := do
  refuse (Json.maxSafeInteger < ctx.now) (.error "Clock must be a non-negative unix-ms integer")
  pure ctx.now

/-- What `withdrawAssumption` is asked. -/
structure WithdrawAssumptionInput where
  text : Option String
  assumptionId : Option UuidV7
  reason : String
  evidenceIds : List UuidV7
  deriving DecidableEq

/-- The input, as its schema leaves it. -/
def WithdrawAssumptionInput.parse (input : WithdrawAssumptionInput) :
    Call WithdrawAssumptionInput := do
  let texts ← input.text.toList.mapM assumptionText
  let reason ← assumptionReason input.reason
  refuse (128 < input.evidenceIds.length) (.invalid "EvidenceIds")
  refuse (texts = [] ∧ input.assumptionId = none)
    (.invalid "Withdrawing an assumption requires its text or its id")
  pure ⟨texts.head?, input.assumptionId, reason, sortedIds input.evidenceIds⟩

/-- No record is the one that a withdrawal is about. -/
def WithdrawAssumptionInput.notFound (input : WithdrawAssumptionInput) : Failure :=
  match input.assumptionId with
  | some id => .error s!"Assumption not found: {id}"
  | none =>
    let text := input.text.getD ""
    .error s!"No standing assumption matches: {text}"

/-- `WithdrawAssumptionResult` -/
structure WithdrawAssumptionResult where
  assumption : UuidV7 × Assumption
  pausedTaskIds : List UuidV7
  replayed : Bool
  deriving DecidableEq

/-- A row of the join of links and assumptions. -/
structure WithdrawnLink where
  assumption : UuidV7 × Assumption
  link : UuidV7 × AssumptionLink
  deriving DecidableEq

/-- `TaskAssumptionState`, without the labels of its principals. -/
structure TaskAssumptionState where
  taskId : UuidV7
  paused : Bool
  assumptions : List WithdrawnLink

/-- The link as a resumption leaves it. -/
def AssumptionLink.unlinkedAs (principalId reason : String) (now : UnixMs) (l : AssumptionLink) :
    AssumptionLink :=
  { l with
    status := .unlinked
    unlinkedByPrincipalId := some principalId
    unlinkedAt := some now
    unlinkReason := some reason }

/-! ### Constraints of the database -/

/-- The `CHECK` constraints of `assumption`. -/
def Assumption.Checked (a : Assumption) : Prop :=
  1 ≤ a.text.length ∧ a.text.length ≤ 200 ∧
    1 ≤ a.normalizedText.length ∧ a.normalizedText.length ≤ 200 ∧
    (∀ r ∈ a.withdrawalReason, 1 ≤ r.length ∧ r.length ≤ 2000) ∧
    (a.withdrawnByPrincipalId.isSome ↔ a.status = .withdrawn) ∧
    (a.withdrawnAt.isSome ↔ a.status = .withdrawn) ∧
    (a.withdrawalReason.isSome ↔ a.status = .withdrawn) ∧ ∀ t ∈ a.withdrawnAt, a.statedAt ≤ t

instance decidableAssumptionChecked (a : Assumption) : Decidable a.Checked := by
  unfold Assumption.Checked; infer_instance

/-- The `CHECK` constraints of `assumption_link`. -/
def AssumptionLink.Checked (l : AssumptionLink) : Prop :=
  (l.unlinkedByPrincipalId.isSome ↔ l.status = .unlinked) ∧
    (l.unlinkedAt.isSome ↔ l.status = .unlinked) ∧
    (l.unlinkReason.isSome ↔ l.status = .unlinked) ∧
    (∀ r ∈ l.unlinkReason, 1 ≤ r.length ∧ r.length ≤ 2000) ∧ ∀ t ∈ l.unlinkedAt, l.linkedAt ≤ t

instance decidableAssumptionLinkChecked (l : AssumptionLink) : Decidable l.Checked := by
  unfold AssumptionLink.Checked; infer_instance

namespace WorkStore

variable (s : WorkStore) (rt : WorkRuntime)

/-- `INSERT INTO assumption` -/
def insertAssumption (id : UuidV7) (row : Assumption) : Call WorkStore := do
  refuse (¬ row.Checked) (.constraint "CHECK assumption")
  refuse (id ∈ s.assumptions ∨ id ∈ s.others .assumption) (.constraint "UNIQUE assumption.id")
  refuse (row.status = .standing ∧ Table.has s.assumptions (fun _ r =>
      r.normalizedText = row.normalizedText && r.status = .standing) = true)
    (.constraint "uniq_assumption_text")
  pure { s with assumptions := s.assumptions.insert id row }

/-- `UPDATE assumption`: a withdrawn row is final, and the sentence is immutable. -/
def updateAssumption (id : UuidV7) (old new : Assumption) : Call WorkStore := do
  refuse (old.text ≠ new.text ∨ old.normalizedText ≠ new.normalizedText ∨
      old.statedByPrincipalId ≠ new.statedByPrincipalId ∨ old.statedAt ≠ new.statedAt)
    (.constraint "assumption text and statement are immutable")
  refuse (old.status = .withdrawn)
    (.constraint "a withdrawn assumption is final; state a new one instead")
  refuse (¬ new.Checked) (.constraint "CHECK assumption")
  pure { s with assumptions := s.assumptions.insert id new }

/-- `INSERT INTO assumption_link` -/
def insertLink (id : UuidV7) (row : AssumptionLink) : Call WorkStore := do
  refuse (¬ row.Checked) (.constraint "CHECK assumption_link")
  refuse (row.assumptionId ∉ s.assumptions ∨ row.taskId ∉ s.tasks)
    (.constraint "FOREIGN KEY assumption_link")
  refuse (id ∈ s.links ∨ id ∈ s.others .assumptionLink) (.constraint "UNIQUE assumption_link.id")
  refuse (row.status = .active ∧ Table.has s.links (fun _ r =>
      r.assumptionId = row.assumptionId && r.taskId = row.taskId && r.status = .active) = true)
    (.constraint "uniq_assumption_link_active")
  pure { s with links := s.links.insert id row }

/-- `UPDATE assumption_link`: an unlinked row is final. -/
def updateLink (id : UuidV7) (old new : AssumptionLink) : Call WorkStore := do
  refuse (old.assumptionId ≠ new.assumptionId ∨ old.taskId ≠ new.taskId ∨
      old.linkedByPrincipalId ≠ new.linkedByPrincipalId ∨ old.linkedAt ≠ new.linkedAt)
    (.constraint "an assumption link binding is immutable")
  refuse (old.status = .unlinked)
    (.constraint "an unlinked assumption link is final; link again instead")
  refuse (¬ new.Checked) (.constraint "CHECK assumption_link")
  pure { s with links := s.links.insert id new }

/-! ### Lookups -/

/-- `findStanding` -/
def findStanding (normalized : String) : Option (UuidV7 × Assumption) :=
  (s.assumptions.rows fun _ a => a.normalizedText = normalized && a.status = .standing).head?

/-- The record of a text that was withdrawn last. -/
def findWithdrawn (normalized : String) : Option (UuidV7 × Assumption) :=
  (s.assumptions.rows fun _ a => a.normalizedText = normalized && a.status = .withdrawn).argmax
    fun e => e.2.withdrawnAt.getD 0

/-- The active link of a commitment to an assumption. -/
def activeLink (assumptionId taskId : UuidV7) : Option (UuidV7 × AssumptionLink) :=
  (s.links.rows fun _ l =>
    l.assumptionId = assumptionId && l.taskId = taskId && l.status = .active).head?

/-- The active links of an assumption. -/
def activeLinks (assumptionId : UuidV7) : List (UuidV7 × AssumptionLink) :=
  s.links.rows fun _ l => l.assumptionId = assumptionId && l.status = .active

/-- `innerJoin(assumption, eq(assumptionLink.assumptionId, assumption.id))` -/
def joinedLinks : List WithdrawnLink :=
  s.links.toList.filterMap fun e =>
    (s.assumptions[e.2.assumptionId]?).map fun a => ⟨(e.2.assumptionId, a), e⟩

/-- `withdrawnLinksForTask` -/
def withdrawnLinksForTask (taskId : UuidV7) : List WithdrawnLink :=
  s.joinedLinks.filter fun e => e.link.2.taskId = taskId && e.link.2.status = .active &&
    e.assumption.2.status = .withdrawn

/-- `pausedTaskIds` -/
def pausedTaskIds : List UuidV7 :=
  ((s.joinedLinks.filter fun e => e.link.2.status = .active &&
    e.assumption.2.status = .withdrawn).map fun e => e.link.2.taskId).dedup

/-- `assertCommitmentNotPaused` -/
def assertCommitmentNotPaused (taskId : UuidV7) : Call Unit :=
  match s.withdrawnLinksForTask taskId with
  | [] => pure ()
  | first :: _ =>
    let a := first.assumption.2
    let because := (a.withdrawalReason.filter (· ≠ "")).elim "" fun r => s!" ({r})"
    .error (.error (s!"Task {taskId} is paused: the assumption \"{a.text}\" was withdrawn{because}. "
      ++ s!"Run `tasq why {taskId}` to read the chain, or `tasq resume {taskId} --reason <text>` to "
      ++ "continue anyway."))

/-- `getTaskAssumptions` -/
def getTaskAssumptions (taskId : UuidV7) : TaskAssumptionState :=
  let entries := (s.joinedLinks.filter fun e => e.link.2.taskId = taskId).insertionSort
    fun e e' => e.link.2.linkedAt ≤ e'.link.2.linkedAt
  { taskId := taskId
    paused := entries.any fun e =>
      e.link.2.status = .active && e.assumption.2.status = .withdrawn
    assumptions := entries }

/-! ### Attach -/

/-- `ensureLocalPrincipal`, of the actor of a context. -/
def ensureActor (actor : String) (now : UnixMs) : Call (WorkStore × Principal) :=
  s.resolveCallerPrincipal rt
    { actor := some actor, principalId := none, idempotencyKey := none, now := now }

/-- The standing record of a text, or a new one under `newId`. -/
def findOrState (actor principalId text normalized : String) (now : UnixMs) (newId : UuidV7) :
    Call (WorkStore × UuidV7 × Assumption) :=
  match s.findStanding normalized with
  | some found => pure (s, found)
  | none => do
    let row : Assumption :=
      { text := text
        normalizedText := normalized
        status := .standing
        statedByPrincipalId := principalId
        statedAt := now
        withdrawnByPrincipalId := none
        withdrawnAt := none
        withdrawalReason := none
        withdrawalEvidenceIds := [] }
    let s ← s.insertAssumption newId row
    let s ← s.recordEvent rt actor (some principalId)
    pure (s, newId, row)

/-- The active link of a commitment to an assumption, or a new one under `newId`. -/
def findOrLink (actor principalId : String) (assumptionId taskId : UuidV7) (now : UnixMs)
    (newId : UuidV7) : Call (WorkStore × UuidV7 × AssumptionLink) :=
  match s.activeLink assumptionId taskId with
  | some found => pure (s, found)
  | none => do
    let row : AssumptionLink :=
      { assumptionId := assumptionId
        taskId := taskId
        status := .active
        linkedByPrincipalId := principalId
        linkedAt := now
        unlinkedByPrincipalId := none
        unlinkedAt := none
        unlinkReason := none }
    let s ← s.insertLink newId row
    let s ← s.recordEvent rt actor (some principalId)
    pure (s, newId, row)

/-- `attachInTransaction` -/
def attachInTransaction (actor : String) (taskId : UuidV7) (raw : String) (now : UnixMs)
    (newId newLinkId : UuidV7) : Call (WorkStore × WithdrawnLink) := do
  let text ← assumptionText raw
  let normalized := normalizeAssumptionText rt text
  refuse (normalized = "") (.error "An assumption cannot be empty")
  let found ← s.getTask taskId
  let task ← demand found (.error s!"Task not found: {taskId}")
  refuse (task.deletedAt ≠ none) (.error s!"Task is deleted: {taskId}")
  let (s, principal) ← s.ensureActor rt actor now
  let (s, row) ← s.findOrState rt actor principal.id text normalized now newId
  let (s, link) ← s.findOrLink rt actor principal.id row.1 taskId now newLinkId
  pure (s, ⟨row, link⟩)

/-- `attachAssumption`, with the ids that new rows would get. -/
def attachAssumption (taskId : UuidV7) (raw : String) (newId newLinkId : UuidV7)
    (ctx : PrincipalContext) : Call (WorkStore × WithdrawnLink) := do
  let text ← assumptionText raw
  let now ← ctx.serviceNow
  s.attachInTransaction rt (ctx.actor.getD "system") taskId text now newId newLinkId

/-! ### Withdraw -/

/-- The record that a withdrawal is about. -/
def namedAssumption (input : WithdrawAssumptionInput) : Option (UuidV7 × Assumption) :=
  match input.assumptionId with
  | some id => (s.assumptions[id]?).map (Prod.mk id)
  | none =>
    let normalized := normalizeAssumptionText rt (input.text.getD "")
    s.findStanding normalized <|> s.findWithdrawn normalized

/-- The commitment of a link, where it is live and still open. -/
def stillOpen (link : UuidV7 × AssumptionLink) : Call (List UuidV7) := do
  let found ← s.getTask link.2.taskId
  pure (if ∃ task ∈ found, ¬ task.Closed then [link.2.taskId] else [])

/-- The first withdrawal of a record that stands. -/
def withdrawStanding (input : WithdrawAssumptionInput) (id : UuidV7) (row : Assumption)
    (actor : String) (now : UnixMs) : Call (WorkStore × WithdrawAssumptionResult) := do
  let (s, principal) ← s.ensureActor rt actor now
  let updated := { row with
    status := .withdrawn
    withdrawnByPrincipalId := some principal.id
    withdrawnAt := some now
    withdrawalReason := some input.reason
    withdrawalEvidenceIds := input.evidenceIds }
  let s ← s.updateAssumption id row updated
  let parts ← (s.activeLinks id).mapM s.stillOpen
  let paused := parts.flatten.insertionSort (· ≤ ·)
  let s ← paused.foldlM (fun s _ => s.recordEvent rt actor (some principal.id)) s
  pure (s, ⟨(id, updated), paused, false⟩)

/-- `withdrawAssumption` -/
def withdrawAssumption (raw : WithdrawAssumptionInput) (ctx : PrincipalContext) :
    Call (WorkStore × WithdrawAssumptionResult) := do
  let input ← raw.parse
  let now ← ctx.serviceNow
  let (id, row) ← demand (s.namedAssumption rt input) input.notFound
  if row.status = .withdrawn then
    -- the replay answers every active link, whatever has become of its commitment
    let paused := ((s.activeLinks id).map fun e => e.2.taskId).insertionSort (· ≤ ·)
    pure (s, ⟨(id, row), paused, true⟩)
  else s.withdrawStanding rt input id row (ctx.actor.getD "system") now

/-! ### Resume -/

/-- A link to a withdrawn assumption, unlinked, with its event. -/
def unlink (actor principalId reason : String) (now : UnixMs) (e : WithdrawnLink) :
    Call WorkStore := do
  let s ← s.updateLink e.link.1 e.link.2 (e.link.2.unlinkedAs principalId reason now)
  s.recordEvent rt actor (some principalId)

/-- `resumeCommitment`, with the links as it leaves them. -/
def resumeCommitment (taskId : UuidV7) (rawReason : String) (ctx : PrincipalContext) :
    Call (WorkStore × List (UuidV7 × AssumptionLink)) := do
  let reason ← assumptionReason rawReason
  let now ← ctx.serviceNow
  let actor := ctx.actor.getD "system"
  let found ← s.getTask taskId
  let _ ← demand found (.error s!"Task not found: {taskId}")
  let withdrawn := s.withdrawnLinksForTask taskId
  refuse (withdrawn = []) (.error s!"Task {taskId} is not paused by a withdrawn assumption")
  let (s, principal) ← s.ensureActor rt actor now
  let s ← withdrawn.foldlM (fun s e => s.unlink rt actor principal.id reason now e) s
  pure (s, withdrawn.map fun e => (e.link.1, e.link.2.unlinkedAs principal.id reason now))

end WorkStore

end Tasq
