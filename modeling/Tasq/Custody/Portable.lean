import Mathlib.Tactic
import Tasq.Custody.Store

/-! Export and import of a workspace. The export reads every table in a fixed order; the import
    checks the whole document with rules of its own, and then inserts it into an empty store, a
    state as soon as its predecessor is there. -/

namespace Tasq.Custody

open Text Outcome Rows

/-! ### Reading -/

/-- Rows in the order of a time and then of an id. -/
def byTime {α : Type} (time : α → ℕ) (id : α → String) (rows : List α) : List α :=
  rows.insertionSort fun a b => time a < time b ∨ time a = time b ∧ id a ≤ id b

/-- Rows that a schema admits, or none at all. -/
def parseRows {α : Type} (p : α → Prop) [DecidablePred p] (schema : String) (rows : List α) :
    Call (List α) := do
  refuse (¬ ∀ r ∈ rows, p r) (.invalid schema)
  pure rows

theorem parseRows_eq_ok {α : Type} {p : α → Prop} [DecidablePred p] {schema : String}
    {rows rows' : List α} :
    parseRows p schema rows = .ok rows' ↔ (∀ r ∈ rows, p r) ∧ rows = rows' := by
  simp only [parseRows, bind_eq_ok, refuse_eq_ok, pure_eq_ok, exists_const, not_not]

namespace CustodyStore

variable (rt : CustodyRuntime) (s : CustodyStore)

def exportedTargets (workspaceId : String) : List CustodyTarget :=
  (s.targets.filter (·.workspaceId = workspaceId)).insertionSort
    fun a b => rt.hex a.targetDigest ≤ rt.hex b.targetDigest

def exportedStates (workspaceId : String) : List CustodyState :=
  byTime (·.recordedAt) (·.id) (s.states.filter (·.workspaceId = workspaceId))

def exportedHandoffs (workspaceId : String) : List CustodyHandoff :=
  byTime (·.offeredAt) (·.id) (s.handoffs.filter (·.workspaceId = workspaceId))

def exportedIncidents (workspaceId : String) : List CustodyIncident :=
  byTime (·.recordedAt) (·.id) (s.incidents.filter (·.workspaceId = workspaceId))

/-- `exportPortable` -/
def exportPortable (workspaceIdInput : String) (exportedAt : ℕ) : Call CustodyPortable := do
  let workspaceId ← required workspaceIdInput "workspaceId"
  let exportedAt ← unixMs exportedAt "exportedAt"
  let targets ← parseRows rt.IsCustodyTarget "CustodyTargetV1" (s.exportedTargets rt workspaceId)
  let states ← parseRows IsCustodyState "CustodyStateV1" (s.exportedStates workspaceId)
  let handoffs ← parseRows IsCustodyHandoff "CustodyHandoffV1" (s.exportedHandoffs workspaceId)
  let incidents ← parseRows rt.IsCustodyIncident "CustodyIncidentV1"
    (s.exportedIncidents workspaceId)
  let content : PortableContent :=
    { workspaceId, exportedAt, targets, states, handoffs, incidents }
  let exportDigest ← rt.custodyDigest (.portable content.canonical)
  pure { content with exportDigest }

end CustodyStore

/-! ### The checks of an import -/

namespace PortableContent

variable (rt : CustodyRuntime) (c : PortableContent)

/-- `targetByDigest` -/
def targetByDigest (d : Digest) : Option CustodyTarget := c.targets.find? (·.targetDigest = d)

/-- `stateByIdentity` -/
def stateByIdentity (id : String) : Option CustodyState := c.states.find? (·.id = id)

/-- `handoffByIdentity` -/
def handoffByIdentity (id : String) : Option CustodyHandoff := c.handoffs.find? (·.id = id)

/-- `rootsPerTarget` -/
def rootsPerTarget (d : Digest) : ℕ :=
  c.states.countP fun st => st.predecessorStateId = none ∧ st.targetDigest = d

/-- `successorsPerState` -/
def successorsPerState (id : String) : ℕ :=
  c.states.countP fun st => st.predecessorStateId = some id

/-- `statesPerAcceptedHandoff` -/
def statesPerAcceptedHandoff (id : String) : ℕ :=
  c.states.countP fun st => st.predecessorStateId ≠ none ∧ st.acceptedHandoffId = some id

/-- The checks of a state that succeeds another one. -/
def checkSuccessor (st : CustodyState) (predecessorId : String) : Call Unit := do
  let missing : Failure :=
    .error "custody portable successor requires an accepted handoff and predecessor"
  let predecessor ← demand (c.stateByIdentity predecessorId) missing
  let accepted ← demand (st.acceptedHandoffId.bind c.handoffByIdentity) missing
  refuse (accepted.status ≠ .accepted) missing
  refuse (predecessor.targetDigest ≠ st.targetDigest ∨ accepted.targetDigest ≠ st.targetDigest ∨
      accepted.sourceStateId ≠ predecessor.id ∨
      accepted.toPrincipalId ≠ st.custodianPrincipalId ∨
      accepted.conditionDigest ≠ st.conditionDigest)
    (.error "custody portable accepted handoff does not bind the successor exactly")

/-- The checks of one state. -/
def checkState (st : CustodyState) : Call Unit := do
  refuse ((c.targetByDigest st.targetDigest).isNone)
    (.error "custody portable state target missing")
  let conditionDigest ← rt.custodyDigest (.condition (CanonicalJson.canonical st.condition))
  refuse (conditionDigest ≠ st.conditionDigest)
    (.error "custody portable state condition digest mismatch")
  match st.predecessorStateId with
  | none =>
    refuse (st.acceptedHandoffId ≠ none) (.error "custody portable root cannot cite a handoff")
  | some predecessorId => c.checkSuccessor st predecessorId

/-- The checks of one handoff. -/
def checkHandoff (h : CustodyHandoff) : Call Unit := do
  let mismatch : Failure := .error "custody portable handoff source mismatch"
  let source ← demand (c.stateByIdentity h.sourceStateId) mismatch
  refuse (source.targetDigest ≠ h.targetDigest ∨ source.custodianPrincipalId ≠ h.fromPrincipalId)
    mismatch
  let conditionDigest ← rt.custodyDigest (.condition (CanonicalJson.canonical h.condition))
  refuse (conditionDigest ≠ h.conditionDigest)
    (.error "custody portable handoff condition digest mismatch")
  refuse (h.evidenceRequirements = [] ∨ ¬ h.evidenceRequirements.Nodup ∨ ¬ h.supplied.Nodup ∨
      h.status = .accepted ∧ ¬ Covers h.evidenceRequirements h.supplied)
    (.error "custody portable handoff evidence requirements are inconsistent")
  refuse (h.status = .accepted ∧ c.statesPerAcceptedHandoff h.id ≠ 1 ∨
      h.status ≠ .accepted ∧ c.statesPerAcceptedHandoff h.id ≠ 0)
    (.error "custody portable handoff status disagrees with successor lineage")
  refuse (¬ h.Lifecycle) (.error "custody portable handoff lifecycle is inconsistent")

/-- The checks of one incident. -/
def checkIncident (i : CustodyIncident) : Call Unit := do
  let mismatch : Failure := .error "custody portable incident state mismatch"
  let st ← demand (c.stateByIdentity i.stateId) mismatch
  refuse (st.targetDigest ≠ i.targetDigest) mismatch

/-- What `importPortable` checks before its transaction. -/
def check : Call Unit := do
  let _ ← parseRows rt.IsCustodyTarget "CustodyTargetV1" c.targets
  let _ ← parseRows IsCustodyState "CustodyStateV1" c.states
  let _ ← parseRows IsCustodyHandoff "CustodyHandoffV1" c.handoffs
  let _ ← parseRows rt.IsCustodyIncident "CustodyIncidentV1" c.incidents
  refuse (¬ ((∀ t ∈ c.targets, t.workspaceId = c.workspaceId) ∧
      (∀ st ∈ c.states, st.workspaceId = c.workspaceId) ∧
      (∀ h ∈ c.handoffs, h.workspaceId = c.workspaceId) ∧
      ∀ i ∈ c.incidents, i.workspaceId = c.workspaceId))
    (.error "custody portable workspace mismatch")
  refuse (¬ ((c.targets.map CustodyTarget.targetDigest).Nodup ∧
      (c.states.map CustodyState.id).Nodup ∧ (c.handoffs.map CustodyHandoff.id).Nodup))
    (.error "custody portable identities must be unique")
  c.targets.forM fun t => do
    let targetDigest ← rt.prepareTargetRefV1 t.target
    refuse (targetDigest ≠ t.targetDigest) (.error "custody portable target digest mismatch")
  c.states.forM (c.checkState rt)
  refuse ((∃ t ∈ c.targets, c.rootsPerTarget t.targetDigest ≠ 1) ∨
      ∃ st ∈ c.states, ∃ id ∈ st.predecessorStateId, c.successorsPerState id ≠ 1)
    (.error "custody portable lineage must have one root and at most one successor")
  c.handoffs.forM (c.checkHandoff rt)
  c.incidents.forM c.checkIncident

end PortableContent

/-! ### The insertions of an import -/

namespace CustodyStore

variable (rt : CustodyRuntime) (s : CustodyStore)

/-- The row of an imported target. -/
def importTarget (t : CustodyTarget) : Call CustodyStore := do
  rt.assertCanonical (.target t.target)
  s.insertTarget t

/-- The row of an imported state. -/
def importState (st : CustodyState) : Call CustodyStore := do
  rt.assertCanonical (.condition st.condition)
  rt.assertCanonical (.refs st.evidenceRefs)
  s.insertState st.canonical

/-- The row of an imported handoff. -/
def importHandoff (h : CustodyHandoff) : Call CustodyStore := do
  rt.assertCanonical (.condition h.condition)
  rt.assertCanonical (.refs h.evidenceRequirements)
  rt.assertCanonical (.evidence h.acceptanceEvidence)
  s.insertHandoff h.canonical

/-- The row of an imported incident. -/
def importIncident (i : CustodyIncident) : Call CustodyStore := do
  rt.assertCanonical (.refs i.evidenceRefs)
  s.insertIncident i

/-- The state waits for a predecessor that is not inserted yet. -/
def Waits (remaining : List CustodyState) (st : CustodyState) : Prop :=
  ∃ id ∈ st.predecessorStateId, ∃ other ∈ remaining, other.id = id

instance (remaining : List CustodyState) (st : CustodyState) : Decidable (Waits remaining st) := by
  unfold Waits; infer_instance

/-- One state of a pass: it is inserted and no longer remains, unless it waits. -/
def importNext (outcome : CustodyStore × List CustodyState) (st : CustodyState) :
    Call (CustodyStore × List CustodyState) :=
  if Waits outcome.2 st then pure outcome
  else do
    let s ← outcome.1.importState rt st
    pure (s, outcome.2.filter (·.id ≠ st.id))

/-- Passes over the remaining states, until none remains. -/
def importStates (s : CustodyStore) : ℕ → List CustodyState → Call CustodyStore
  | 0, remaining => do
    refuse (remaining ≠ []) .unbounded
    pure s
  | fuel + 1, remaining =>
    if remaining = [] then pure s
    else do
      let (s, left) ← remaining.foldlM (importNext rt) (s, remaining)
      refuse (left.length = remaining.length)
        (.error "custody portable state lineage has a cycle or missing predecessor")
      importStates s fuel left

/-- `importPortable` -/
def importPortable (packet : CustodyPortable) (now : ℕ) : Call CustodyStore := do
  let d ← rt.custodyDigest (.portable packet.toPortableContent.canonical)
  refuse (d ≠ packet.exportDigest) (.error "custody portable digest mismatch")
  packet.toPortableContent.check rt
  let _ ← unixMs now "clock"
  refuse (s.targets ≠ []) (.error "custody portable import requires an empty store")
  let s ← packet.targets.foldlM (importTarget rt) s
  let s ← s.importStates rt packet.states.length packet.states
  let s ← packet.handoffs.foldlM (importHandoff rt) s
  packet.incidents.foldlM (importIncident rt) s

end CustodyStore

end Tasq.Custody
