import Mathlib.Tactic
import Tasq.Custody.Schema
import Tasq.Lib.Rows
import Tasq.Lib.Run

/-! The custody store: a principal establishes custody of a target, offers it to another one, who
    accepts or refuses, and either may report incidents.

    Every mutation is one transaction that replays a known call first. Clock readings and generated
    ids are inputs; a refused transaction is rolled back. Of the operational events only what can
    be refused about them is kept, the canonical form of their payload. -/

namespace Tasq.Custody

open Text Outcome Rows

/-- A row of `experimental_custody_idempotency`. -/
structure CustodyReplay where
  workspaceId : String
  actorPrincipalId : String
  operation : String
  idempotencyKey : String
  requestDigest : Digest
  resultType : String
  resultId : String
  createdAt : ℕ
  deriving DecidableEq

/-- The tables of the custody store. -/
structure CustodyStore where
  targets : List CustodyTarget
  states : List CustodyState
  handoffs : List CustodyHandoff
  incidents : List CustodyIncident
  idempotency : List CustodyReplay
  deriving DecidableEq

/-- The tables of a new database. -/
def CustodyStore.empty : CustodyStore where
  targets := []
  states := []
  handoffs := []
  incidents := []
  idempotency := []

/-- `CustodyMutationContext` -/
structure CustodyMutationContext where
  workspaceId : String
  actorPrincipalId : String
  idempotencyKey : String
  deriving DecidableEq, Repr

/-! ### Checks of input -/

/-- `required` -/
def required (value label : String) : Call String := do
  let parsed := jsTrim value
  refuse (parsed = "" ∨ 500 < utf16Length parsed)
    (.error s!"{label} must be a non-blank portable identifier")
  pure parsed

/-- `unixMs` -/
def unixMs (value : ℕ) (label : String) : Call ℕ := do
  refuse (Json.maxSafeInteger < value) (.error s!"{label} must be non-negative unix-ms")
  pure value

/-- `positiveInteger` -/
def positiveInteger (value : ℕ) (label : String) : Call ℕ := do
  refuse (Json.maxSafeInteger < value ∨ value < 1) (.error s!"{label} must be a positive integer")
  pure value

/-- Distinct values, in the order of code units. -/
def sortedSet (values : List String) : List String :=
  values.dedup.insertionSort fun a b => utf16 a ≤ utf16 b

/-- `refs` -/
def refs (values : List String) (label : String) (requireOne : Bool) : Call (List String) := do
  let values ← values.mapM fun value => required value label
  let result := sortedSet values
  refuse (requireOne = true ∧ result = []) (.error s!"{label} requires at least one reference")
  refuse (100 < result.length) (.error s!"{label} exceeds 100 references")
  pure result

/-- `context` -/
def context (input : CustodyMutationContext) : Call CustodyMutationContext := do
  let workspaceId ← required input.workspaceId "workspaceId"
  let actorPrincipalId ← required input.actorPrincipalId "actorPrincipalId"
  let idempotencyKey ← required input.idempotencyKey "idempotencyKey"
  pure ⟨workspaceId, actorPrincipalId, idempotencyKey⟩

/-- A condition as it is stored, and its digest. -/
def prepareCondition (rt : CustodyRuntime) (input : Metadata) : Call (Metadata × Digest) := do
  rt.assertCanonical (.condition input)
  let conditionDigest ← rt.custodyDigest (.condition (canonical input))
  pure (canonical input, conditionDigest)

namespace CustodyStore

variable (rt : CustodyRuntime) (s : CustodyStore)

/-! ### Rows -/

/-- `stateById` -/
def stateById (workspaceId id : String) : Option CustodyState :=
  s.states.find? fun st => st.workspaceId = workspaceId ∧ st.id = id

/-- `handoffById` -/
def handoffById (workspaceId id : String) : Option CustodyHandoff :=
  s.handoffs.find? fun h => h.workspaceId = workspaceId ∧ h.id = id

/-- `SELECT * FROM experimental_custody_incident` -/
def incidentById (workspaceId id : String) : Option CustodyIncident :=
  s.incidents.find? fun i => i.workspaceId = workspaceId ∧ i.id = id

/-- The target of a foreign key exists. -/
def HasTarget (workspaceId : String) (targetDigest : Digest) : Prop :=
  ∃ t ∈ s.targets, t.workspaceId = workspaceId ∧ t.targetDigest = targetDigest

instance (workspaceId : String) (targetDigest : Digest) :
    Decidable (s.HasTarget workspaceId targetDigest) := by unfold HasTarget; infer_instance

/-- The state of a foreign key exists. -/
def HasState (workspaceId id : String) : Prop :=
  ∃ st ∈ s.states, st.workspaceId = workspaceId ∧ st.id = id

instance (workspaceId id : String) : Decidable (s.HasState workspaceId id) := by
  unfold HasState; infer_instance

/-- `INSERT INTO experimental_custody_target` -/
def insertTarget (t : CustodyTarget) : Call CustodyStore := do
  let targets ← insertRow s.targets
    (fun u => u.workspaceId = t.workspaceId ∧ u.targetDigest = t.targetDigest) t
    (.constraint "experimental_custody_target")
  pure { s with targets }

/-- Two states that the primary key and the two lineage indexes keep apart. -/
def StateClash (st other : CustodyState) : Prop :=
  other.id = st.id ∨ other.workspaceId = st.workspaceId ∧
    (st.predecessorStateId = none ∧ other.predecessorStateId = none ∧
        other.targetDigest = st.targetDigest ∨
      st.predecessorStateId ≠ none ∧ other.predecessorStateId = st.predecessorStateId)

instance (st : CustodyState) : DecidablePred (StateClash st) := fun other => by
  unfold StateClash; infer_instance

/-- `INSERT INTO experimental_custody_state` -/
def insertState (st : CustodyState) : Call CustodyStore := do
  refuse (st.predecessorStateId.isSome ≠ st.acceptedHandoffId.isSome)
    (.constraint "experimental_custody_state")
  let states ← insertRow s.states (StateClash st) st
    (.constraint "experimental_custody_one_successor")
  refuse (¬ s.HasTarget st.workspaceId st.targetDigest) (.constraint "FOREIGN KEY")
  refuse (¬ ∀ id ∈ st.predecessorStateId, s.HasState st.workspaceId id)
    (.constraint "FOREIGN KEY")
  pure { s with states }

/-- `INSERT INTO experimental_custody_handoff` -/
def insertHandoff (h : CustodyHandoff) : Call CustodyStore := do
  refuse (h.fromPrincipalId = h.toPrincipalId ∨ h.expiresAt ≤ h.offeredAt ∨ ¬ h.Lifecycle)
    (.constraint "experimental_custody_handoff")
  let handoffs ← insertRow s.handoffs (fun g => g.id = h.id) h
    (.constraint "experimental_custody_handoff")
  refuse (¬ s.HasTarget h.workspaceId h.targetDigest) (.constraint "FOREIGN KEY")
  refuse (¬ s.HasState h.workspaceId h.sourceStateId) (.constraint "FOREIGN KEY")
  pure { s with handoffs }

/-- `INSERT INTO experimental_custody_incident` -/
def insertIncident (i : CustodyIncident) : Call CustodyStore := do
  let incidents ← insertRow s.incidents (fun j => j.id = i.id) i
    (.constraint "experimental_custody_incident")
  refuse (¬ s.HasTarget i.workspaceId i.targetDigest) (.constraint "FOREIGN KEY")
  refuse (¬ s.HasState i.workspaceId i.stateId) (.constraint "FOREIGN KEY")
  pure { s with incidents }

/-- `UPDATE experimental_custody_handoff`, guarded by status and revision. -/
def updateHandoff (workspaceId id : String) (expectedRevision : ℕ)
    (f : CustodyHandoff → CustodyHandoff) (race : String) : Call CustodyStore := do
  refuse (∃ h ∈ s.handoffs, (h.workspaceId = workspaceId ∧ h.id = id ∧ h.status = .offered ∧
      h.revision = expectedRevision) ∧ ¬ (f h).Lifecycle)
    (.constraint "invalid custody handoff transition")
  let handoffs ← updateRow s.handoffs (fun h => h.workspaceId = workspaceId ∧ h.id = id ∧
      h.status = .offered ∧ h.revision = expectedRevision) f (.error race)
  pure { s with handoffs }

/-! ### Replays -/

/-- `replay` -/
def replay (ctx : CustodyMutationContext) (operation : String) (requestDigest : Digest) :
    Call (Option CustodyReplay) :=
  match s.idempotency.find? fun r => r.workspaceId = ctx.workspaceId ∧
      r.actorPrincipalId = ctx.actorPrincipalId ∧ r.operation = operation ∧
      r.idempotencyKey = ctx.idempotencyKey with
  | none => pure none
  | some row => do
    refuse (row.requestDigest ≠ requestDigest)
      (.error "custody idempotency key reused with different input")
    pure (some row)

/-- `saveReplay` -/
def saveReplay (ctx : CustodyMutationContext) (operation : String) (requestDigest : Digest)
    (resultType resultId : String) (now : ℕ) : Call CustodyStore := do
  let idempotency ← insertRow s.idempotency (fun r => r.workspaceId = ctx.workspaceId ∧
      r.actorPrincipalId = ctx.actorPrincipalId ∧ r.operation = operation ∧
      r.idempotencyKey = ctx.idempotencyKey)
    ⟨ctx.workspaceId, ctx.actorPrincipalId, operation, ctx.idempotencyKey, requestDigest,
      resultType, resultId, now⟩ (.constraint "experimental_custody_idempotency")
  pure { s with idempotency }

/-- `parseState` of the row that an id finds. -/
def readState (workspaceId id missing : String) : Call CustodyState := do
  let st ← demand (s.stateById workspaceId id) (.error missing)
  refuse (¬ IsCustodyState st) (.invalid "CustodyStateV1")
  pure st

/-- `parseHandoff` of the row that an id finds. -/
def readHandoff (workspaceId id missing : String) : Call CustodyHandoff := do
  let h ← demand (s.handoffById workspaceId id) (.error missing)
  refuse (¬ IsCustodyHandoff h) (.invalid "CustodyHandoffV1")
  pure h

/-- `parseIncident` of the row that an id finds. -/
def readIncident (workspaceId id missing : String) : Call CustodyIncident := do
  let i ← demand (s.incidentById workspaceId id) (.error missing)
  refuse (¬ rt.IsCustodyIncident i) (.invalid "CustodyIncidentV1")
  pure i

/-! ### The operations -/

/-- The input of `establish`. -/
structure Establishment where
  target : TargetRef
  custodianPrincipalId : String
  condition : Metadata
  evidenceRefs : List String
  effectiveAt : ℕ
  deriving DecidableEq

/-- `establish` -/
def establish (input : Establishment) (contextInput : CustodyMutationContext) (now : ℕ)
    (id : String) : Call (CustodyStore × CustodyState) := do
  let ctx ← context contextInput
  let targetDigest ← rt.prepareTargetRefV1 input.target
  let custodianPrincipalId ← required input.custodianPrincipalId "custodianPrincipalId"
  refuse (ctx.actorPrincipalId ≠ custodianPrincipalId)
    (.error "initial custodian must establish their own custody assertion")
  let evidenceRefs ← refs input.evidenceRefs "evidenceRefs" true
  let (condition, conditionDigest) ← prepareCondition rt input.condition
  let effectiveAt ← unixMs input.effectiveAt "effectiveAt"
  let requestDigest ← rt.custodyDigest
    (.request (.establish input.target custodianPrincipalId condition evidenceRefs effectiveAt))
  let now ← unixMs now "clock"
  match ← s.replay ctx "establish" requestDigest with
  | some prior => do
    refuse (prior.resultType ≠ "state") (.error "custody replay type mismatch")
    let found ← s.readState ctx.workspaceId prior.resultId "custody replay state missing"
    pure (s, found)
  | none => do
    refuse (now < effectiveAt) (.error "custody effectiveAt cannot be in the future")
    let s ← s.insertTarget ⟨ctx.workspaceId, targetDigest, input.target, now⟩
    rt.assertCanonical (.refs evidenceRefs)
    let s ← s.insertState
      { id, workspaceId := ctx.workspaceId, targetDigest, custodianPrincipalId
        predecessorStateId := none, acceptedHandoffId := none, condition, conditionDigest
        evidenceRefs, effectiveAt, recordedAt := now }
    rt.assertCanonical (.payload (.established custodianPrincipalId conditionDigest evidenceRefs))
    let s ← s.saveReplay ctx "establish" requestDigest "state" id now
    let st ← s.readState ctx.workspaceId id "state"
    pure (s, st)

/-- The input of `offer`. -/
structure Offer where
  targetDigest : Digest
  sourceStateId : String
  toPrincipalId : String
  condition : Metadata
  evidenceRequirements : List String
  expiresAt : ℕ
  deriving DecidableEq

/-- `offer` -/
def offer (input : Offer) (contextInput : CustodyMutationContext) (now : ℕ) (id : String) :
    Call (CustodyStore × CustodyHandoff) := do
  let ctx ← context contextInput
  let sourceStateId ← required input.sourceStateId "sourceStateId"
  let toPrincipalId ← required input.toPrincipalId "toPrincipalId"
  refuse (toPrincipalId = ctx.actorPrincipalId)
    (.error "custody handoff requires two distinct principals")
  let (condition, conditionDigest) ← prepareCondition rt input.condition
  let evidenceRequirements ← refs input.evidenceRequirements "evidenceRequirements" true
  let expiresAt ← unixMs input.expiresAt "expiresAt"
  let requestDigest ← rt.custodyDigest (.request (.offer input.targetDigest sourceStateId
    toPrincipalId condition evidenceRequirements expiresAt))
  let now ← unixMs now "clock"
  match ← s.replay ctx "offer" requestDigest with
  | some prior => do
    let found ← s.readHandoff ctx.workspaceId prior.resultId "custody replay handoff missing"
    pure (s, found)
  | none => do
    refuse (expiresAt ≤ now) (.error "custody handoff expiry must be in the future")
    let source ← s.readState ctx.workspaceId sourceStateId
      "custody source state not found for target"
    refuse (source.targetDigest ≠ input.targetDigest)
      (.error "custody source state not found for target")
    refuse (source.custodianPrincipalId ≠ ctx.actorPrincipalId)
      (.error "only the recorded current custodian may offer handoff")
    refuse (∃ st ∈ s.states, st.workspaceId = ctx.workspaceId ∧
        st.predecessorStateId = some sourceStateId)
      (.error "custody source state is no longer current")
    rt.assertCanonical (.refs evidenceRequirements)
    let s ← s.insertHandoff
      { id, workspaceId := ctx.workspaceId, targetDigest := input.targetDigest, sourceStateId
        fromPrincipalId := ctx.actorPrincipalId, toPrincipalId, status := .offered, condition
        conditionDigest, evidenceRequirements, acceptanceEvidence := [], offeredAt := now
        expiresAt, decidedAt := none, refusalReason := none, revision := 1 }
    rt.assertCanonical (.payload
      (.offered sourceStateId ctx.actorPrincipalId toPrincipalId conditionDigest))
    let s ← s.saveReplay ctx "offer" requestDigest "handoff" id now
    let h ← s.readHandoff ctx.workspaceId id "handoff"
    pure (s, h)

/-- The input of `accept`. -/
structure Acceptance where
  expectedRevision : ℕ
  conditionDigest : Digest
  acceptanceEvidence : List AcceptanceEvidence
  effectiveAt : ℕ
  deriving DecidableEq

/-- One entry of the evidence of an acceptance. -/
def parseEvidence (e : AcceptanceEvidence) : Call AcceptanceEvidence := do
  let requirement ← required e.requirement "acceptanceEvidence.requirement"
  let evidenceRef ← required e.evidenceRef "acceptanceEvidence.evidenceRef"
  pure ⟨requirement, evidenceRef⟩

/-- The evidence of an acceptance, by requirement and then by reference. -/
def sortEvidence (values : List AcceptanceEvidence) : List AcceptanceEvidence :=
  values.insertionSort fun a b =>
    ((rt.localeCompare a.requirement b.requirement).then
      (rt.localeCompare a.evidenceRef b.evidenceRef)) ≠ .gt

/-- `accept` -/
def accept (handoffIdInput : String) (input : Acceptance) (contextInput : CustodyMutationContext)
    (now : ℕ) (stateId : String) : Call (CustodyStore × CustodyHandoff × CustodyState) := do
  let ctx ← context contextInput
  let handoffId ← required handoffIdInput "handoffId"
  let expectedRevision ← positiveInteger input.expectedRevision "expectedRevision"
  let effectiveAt ← unixMs input.effectiveAt "effectiveAt"
  let evidence ← input.acceptanceEvidence.mapM parseEvidence
  let acceptanceEvidence := sortEvidence rt evidence
  refuse (¬ (acceptanceEvidence.map fun e => e.requirement ++ "\x00" ++ e.evidenceRef).Nodup)
    (.error "duplicate custody acceptance evidence")
  let requestDigest ← rt.custodyDigest (.request (.accept handoffId expectedRevision
    input.conditionDigest acceptanceEvidence effectiveAt))
  let now ← unixMs now "clock"
  match ← s.replay ctx "accept" requestDigest with
  | some prior => do
    let st ← s.readState ctx.workspaceId prior.resultId "custody acceptance replay missing"
    let h ← s.readHandoff ctx.workspaceId handoffId "custody acceptance replay missing"
    pure (s, h, st)
  | none => do
    let h ← s.readHandoff ctx.workspaceId handoffId "custody handoff not found"
    refuse (h.status ≠ .offered) (.error s!"custody handoff is {h.status.text}")
    refuse (h.revision ≠ expectedRevision) (.error "custody handoff revision conflict")
    refuse (h.toPrincipalId ≠ ctx.actorPrincipalId)
      (.error "only the proposed recipient may accept custody")
    refuse (h.expiresAt ≤ now) (.error "custody handoff expired")
    refuse (now < effectiveAt) (.error "custody effectiveAt cannot be in the future")
    refuse (input.conditionDigest ≠ h.conditionDigest) (.error "custody condition digest drift")
    refuse (¬ Covers h.evidenceRequirements
        (acceptanceEvidence.map AcceptanceEvidence.requirement))
      (.error "custody acceptance evidence does not cover exact requirements")
    let source ← s.readState ctx.workspaceId h.sourceStateId "custody source state missing"
    let evidenceRefs := sortedSet (acceptanceEvidence.map AcceptanceEvidence.evidenceRef)
    rt.assertCanonical (.condition h.condition)
    rt.assertCanonical (.refs evidenceRefs)
    let s ← s.insertState
      { id := stateId, workspaceId := ctx.workspaceId, targetDigest := h.targetDigest
        custodianPrincipalId := h.toPrincipalId, predecessorStateId := some h.sourceStateId
        acceptedHandoffId := some h.id, condition := h.condition
        conditionDigest := h.conditionDigest, evidenceRefs, effectiveAt, recordedAt := now }
    rt.assertCanonical (.evidence acceptanceEvidence)
    let s ← s.updateHandoff ctx.workspaceId h.id expectedRevision
      (fun h => { h with
        status := .accepted, acceptanceEvidence, decidedAt := some now, revision := h.revision + 1 })
      "custody handoff lost acceptance race"
    rt.assertCanonical (.payload
      (.accepted handoffId source.id h.toPrincipalId input.conditionDigest acceptanceEvidence))
    let s ← s.saveReplay ctx "accept" requestDigest "state" stateId now
    let h ← s.readHandoff ctx.workspaceId h.id "handoff"
    let st ← s.readState ctx.workspaceId stateId "state"
    pure (s, h, st)

/-- `refuse` -/
def refuseHandoff (handoffIdInput : String) (expectedRevision : ℕ) (reason : String)
    (contextInput : CustodyMutationContext) (now : ℕ) : Call (CustodyStore × CustodyHandoff) := do
  let ctx ← context contextInput
  let handoffId ← required handoffIdInput "handoffId"
  let expectedRevision ← positiveInteger expectedRevision "expectedRevision"
  let reason ← required reason "reason"
  let requestDigest ← rt.custodyDigest (.request (.refuse handoffId expectedRevision reason))
  let now ← unixMs now "clock"
  match ← s.replay ctx "refuse" requestDigest with
  | some prior => do
    refuse (prior.resultType ≠ "handoff") (.error "custody replay type mismatch")
    let found ← s.readHandoff ctx.workspaceId prior.resultId "custody replay handoff missing"
    pure (s, found)
  | none => do
    let h ← s.readHandoff ctx.workspaceId handoffId "custody handoff not found"
    refuse (h.status ≠ .offered ∨ h.revision ≠ expectedRevision)
      (.error "custody handoff is terminal or stale")
    refuse (h.toPrincipalId ≠ ctx.actorPrincipalId)
      (.error "only the proposed recipient may refuse custody")
    let s ← s.updateHandoff ctx.workspaceId handoffId expectedRevision
      (fun h => { h with
        status := .refused, decidedAt := some now, refusalReason := some reason
        revision := h.revision + 1 })
      "custody handoff lost refusal race"
    rt.assertCanonical (.payload (.refused reason))
    let s ← s.saveReplay ctx "refuse" requestDigest "handoff" handoffId now
    let h ← s.readHandoff ctx.workspaceId handoffId "handoff"
    pure (s, h)

/-- The input of `reportIncident`. -/
structure IncidentReport where
  targetDigest : Digest
  stateId : String
  kindUri : String
  summary : String
  evidenceRefs : List String
  occurredAt : ℕ
  deriving DecidableEq

/-- `reportIncident` -/
def reportIncident (input : IncidentReport) (contextInput : CustodyMutationContext) (now : ℕ)
    (id : String) : Call (CustodyStore × CustodyIncident) := do
  let ctx ← context contextInput
  let stateId ← required input.stateId "stateId"
  let url ← demand (rt.url input.kindUri) (.error "Invalid URL")
  refuse (url.href ≠ input.kindUri ∨ url.username ≠ "" ∨ url.password ≠ "")
    (.error "kindUri must be a canonical absolute URI without credentials")
  let summary := jsTrim input.summary
  refuse (summary = "" ∨ 2000 < utf16Length summary)
    (.error "incident summary must contain 1-2000 characters")
  let evidenceRefs ← refs input.evidenceRefs "evidenceRefs" false
  let occurredAt ← unixMs input.occurredAt "occurredAt"
  let requestDigest ← rt.custodyDigest (.request
    (.incident input.targetDigest stateId url.href summary evidenceRefs occurredAt))
  let now ← unixMs now "clock"
  match ← s.replay ctx "incident" requestDigest with
  | some prior => do
    refuse (prior.resultType ≠ "incident") (.error "custody replay type mismatch")
    let found ← s.readIncident rt ctx.workspaceId prior.resultId "custody replay incident missing"
    pure (s, found)
  | none => do
    refuse (now < occurredAt) (.error "incident occurredAt cannot be in the future")
    let st ← s.readState ctx.workspaceId stateId "incident state not found for target"
    refuse (st.targetDigest ≠ input.targetDigest) (.error "incident state not found for target")
    rt.assertCanonical (.refs evidenceRefs)
    let s ← s.insertIncident
      { id, workspaceId := ctx.workspaceId, targetDigest := input.targetDigest, stateId
        reporterPrincipalId := ctx.actorPrincipalId, kindUri := url.href, summary, evidenceRefs
        occurredAt, recordedAt := now }
    rt.assertCanonical (.payload (.reported stateId url.href evidenceRefs))
    let s ← s.saveReplay ctx "incident" requestDigest "incident" id now
    let i ← s.readIncident rt ctx.workspaceId id "incident"
    pure (s, i)

end CustodyStore

end Tasq.Custody
