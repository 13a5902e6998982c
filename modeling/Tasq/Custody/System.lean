import Mathlib.Tactic
import Tasq.Custody.Portable

/-! The custody store as a system: its operations one after another, by any principals, at any
    readings of the clock. Every operation is inverted once: what it found, and what it wrote. -/

namespace Tasq.Custody

open Text Outcome Rows

/-- A call of the custody store that writes. -/
inductive CustodyAction where
  | establish (input : CustodyStore.Establishment) (context : CustodyMutationContext) (now : ℕ)
      (id : String)
  | offer (input : CustodyStore.Offer) (context : CustodyMutationContext) (now : ℕ) (id : String)
  | accept (handoffId : String) (input : CustodyStore.Acceptance)
      (context : CustodyMutationContext) (now : ℕ) (stateId : String)
  | refuse (handoffId : String) (expectedRevision : ℕ) (reason : String)
      (context : CustodyMutationContext) (now : ℕ)
  | reportIncident (input : CustodyStore.IncidentReport) (context : CustodyMutationContext)
      (now : ℕ) (id : String)
  | importPortable (packet : CustodyPortable) (now : ℕ)
  deriving DecidableEq

/-! ### Input -/

theorem required_eq_ok {value label parsed : String} (h : required value label = .ok parsed) :
    parsed = jsTrim value ∧ IsCustodyId parsed := by
  simp only [required, bind_eq_ok, refuse_eq_ok, pure_eq_ok, exists_const, not_or, not_lt] at h
  obtain ⟨⟨hblank, hlong⟩, rfl⟩ := h
  exact ⟨rfl, utf16Length_pos hblank, hlong⟩

theorem unixMs_eq_ok {value n : ℕ} {label : String} (h : unixMs value label = .ok n) :
    n = value := by
  simp only [unixMs, bind_eq_ok, refuse_eq_ok, pure_eq_ok, exists_const] at h
  exact h.2.symm

/-- A parsed context names a workspace, and its actor is the one given. -/
theorem context_eq_ok {input ctx : CustodyMutationContext} (h : context input = .ok ctx) :
    IsCustodyId ctx.workspaceId ∧ ctx.actorPrincipalId = jsTrim input.actorPrincipalId := by
  simp only [context, bind_eq_ok, pure_eq_ok] at h
  obtain ⟨w, hw, a, ha, _, -, rfl⟩ := h
  exact ⟨(required_eq_ok hw).2, (required_eq_ok ha).1⟩

theorem refs_eq_ok {values result : List String} {label : String} {requireOne : Bool}
    (h : refs values label requireOne = .ok result) :
    result.Nodup ∧ (requireOne = true → result ≠ []) := by
  simp only [refs, bind_eq_ok, refuse_eq_ok, pure_eq_ok, exists_const, not_and] at h
  obtain ⟨parsed, -, hone, -, rfl⟩ := h
  exact ⟨(List.perm_insertionSort _ _).nodup_iff.2 (List.nodup_dedup _), hone⟩

theorem prepareCondition_eq_ok {rt : CustodyRuntime} {input condition : Metadata} {d : Digest}
    (h : prepareCondition rt input = .ok (condition, d)) :
    condition = canonical input ∧ d = rt.digest (.condition condition) := by
  simp only [prepareCondition, bind_eq_ok, CustodyRuntime.assertCanonical_eq_ok,
    CustodyRuntime.custodyDigest_eq_ok, pure_eq_ok, exists_const, Prod.mk.injEq] at h
  obtain ⟨-, _, ⟨-, rfl⟩, rfl, rfl⟩ := h
  exact ⟨rfl, rfl⟩

namespace CustodyStore

variable (rt : CustodyRuntime) (s : CustodyStore)

/-- The state after a call. -/
def step (s : CustodyStore) : CustodyAction → CustodyStore
  | .establish input context now id => settle s (Prod.fst <$> s.establish rt input context now id)
  | .offer input context now id => settle s (Prod.fst <$> s.offer rt input context now id)
  | .accept handoffId input context now stateId =>
    settle s (Prod.fst <$> s.accept rt handoffId input context now stateId)
  | .refuse handoffId expectedRevision reason context now =>
    settle s (Prod.fst <$> s.refuseHandoff rt handoffId expectedRevision reason context now)
  | .reportIncident input context now id =>
    settle s (Prod.fst <$> s.reportIncident rt input context now id)
  | .importPortable packet now => settle s (s.importPortable rt packet now)

/-- The state after a run of calls. -/
abbrev run (actions : List CustodyAction) : CustodyStore := Run.run (step rt) s actions

/-! ### Insertions -/

/-- A state that can be inserted. -/
structure NewState (st : CustodyState) : Prop where
  linked : st.predecessorStateId.isSome = st.acceptedHandoffId.isSome
  fresh : ∀ other ∈ s.states, ¬ StateClash st other
  target : s.HasTarget st.workspaceId st.targetDigest
  predecessor : ∀ id ∈ st.predecessorStateId, s.HasState st.workspaceId id

/-- What the constraints ask of a handoff, its key apart. -/
structure FitsHandoff (h : CustodyHandoff) : Prop where
  apart : h.fromPrincipalId ≠ h.toPrincipalId
  expires : h.offeredAt < h.expiresAt
  lifecycle : h.Lifecycle
  target : s.HasTarget h.workspaceId h.targetDigest
  source : s.HasState h.workspaceId h.sourceStateId

/-- A handoff that can be inserted. -/
structure NewHandoff (h : CustodyHandoff) : Prop extends s.FitsHandoff h where
  fresh : ∀ g ∈ s.handoffs, g.id ≠ h.id

/-- What the foreign keys ask of an incident. -/
structure FitsIncident (i : CustodyIncident) : Prop where
  target : s.HasTarget i.workspaceId i.targetDigest
  state : s.HasState i.workspaceId i.stateId

/-- An incident that can be inserted. -/
structure NewIncident (i : CustodyIncident) : Prop extends s.FitsIncident i where
  fresh : ∀ j ∈ s.incidents, j.id ≠ i.id

section

variable {rt : CustodyRuntime} {s s' : CustodyStore}

theorem insertTarget_eq_ok {t : CustodyTarget} : s.insertTarget t = .ok s' ↔
    (∀ u ∈ s.targets, ¬ (u.workspaceId = t.workspaceId ∧ u.targetDigest = t.targetDigest)) ∧
      { s with targets := s.targets ++ [t] } = s' := by
  simp only [insertTarget, bind_eq_ok, insertRow_eq_ok, pure_eq_ok]
  constructor
  · rintro ⟨_, ⟨hfresh, rfl⟩, rfl⟩
    exact ⟨hfresh, rfl⟩
  · rintro ⟨hfresh, rfl⟩
    exact ⟨_, ⟨hfresh, rfl⟩, rfl⟩

theorem insertState_eq_ok {st : CustodyState} : s.insertState st = .ok s' ↔
    s.NewState st ∧ { s with states := s.states ++ [st] } = s' := by
  simp only [insertState, bind_eq_ok, refuse_eq_ok, insertRow_eq_ok, pure_eq_ok, exists_const,
    not_not, ne_eq]
  constructor
  · rintro ⟨hlinked, _, ⟨hfresh, rfl⟩, htarget, hpredecessor, rfl⟩
    exact ⟨⟨hlinked, hfresh, htarget, hpredecessor⟩, rfl⟩
  · rintro ⟨⟨hlinked, hfresh, htarget, hpredecessor⟩, rfl⟩
    exact ⟨hlinked, _, ⟨hfresh, rfl⟩, htarget, hpredecessor, rfl⟩

theorem insertHandoff_eq_ok {h : CustodyHandoff} : s.insertHandoff h = .ok s' ↔
    s.NewHandoff h ∧ { s with handoffs := s.handoffs ++ [h] } = s' := by
  simp only [insertHandoff, bind_eq_ok, refuse_eq_ok, insertRow_eq_ok, pure_eq_ok, exists_const,
    not_or, not_not, not_le]
  constructor
  · rintro ⟨⟨hapart, hexpires, hlifecycle⟩, _, ⟨hfresh, rfl⟩, htarget, hsource, rfl⟩
    exact ⟨⟨⟨hapart, hexpires, hlifecycle, htarget, hsource⟩, hfresh⟩, rfl⟩
  · rintro ⟨⟨⟨hapart, hexpires, hlifecycle, htarget, hsource⟩, hfresh⟩, rfl⟩
    exact ⟨⟨hapart, hexpires, hlifecycle⟩, _, ⟨hfresh, rfl⟩, htarget, hsource, rfl⟩

theorem insertIncident_eq_ok {i : CustodyIncident} : s.insertIncident i = .ok s' ↔
    s.NewIncident i ∧ { s with incidents := s.incidents ++ [i] } = s' := by
  simp only [insertIncident, bind_eq_ok, refuse_eq_ok, insertRow_eq_ok, pure_eq_ok, exists_const,
    not_not]
  constructor
  · rintro ⟨_, ⟨hfresh, rfl⟩, htarget, hstate, rfl⟩
    exact ⟨⟨⟨htarget, hstate⟩, hfresh⟩, rfl⟩
  · rintro ⟨⟨⟨htarget, hstate⟩, hfresh⟩, rfl⟩
    exact ⟨_, ⟨hfresh, rfl⟩, htarget, hstate, rfl⟩

/-- What an update of a handoff does to a row. -/
def decidedRow (workspaceId id : String) (revision : ℕ) (f : CustodyHandoff → CustodyHandoff)
    (h : CustodyHandoff) : CustodyHandoff :=
  if h.workspaceId = workspaceId ∧ h.id = id ∧ h.status = .offered ∧ h.revision = revision then f h
  else h

theorem updateHandoff_eq_ok {workspaceId id race : String} {revision : ℕ}
    {f : CustodyHandoff → CustodyHandoff}
    (h : s.updateHandoff workspaceId id revision f race = .ok s') :
    (∀ h ∈ s.handoffs, h.workspaceId = workspaceId ∧ h.id = id ∧ h.status = .offered ∧
        h.revision = revision → (f h).Lifecycle) ∧
      s' = { s with handoffs := s.handoffs.map (decidedRow workspaceId id revision f) } := by
  simp only [updateHandoff, bind_eq_ok, refuse_eq_ok, exists_const, updateRow_eq_ok, pure_eq_ok,
    not_exists, not_and, not_not] at h
  obtain ⟨hlifecycle, _, ⟨-, rfl⟩, rfl⟩ := h
  exact ⟨fun h hh hfound => hlifecycle h hh hfound, rfl⟩

theorem readState_eq_ok {workspaceId id missing : String} {st : CustodyState} :
    s.readState workspaceId id missing = .ok st ↔
      s.stateById workspaceId id = some st ∧ IsCustodyState st := by
  simp only [readState, bind_eq_ok, demand_eq_ok, refuse_eq_ok, pure_eq_ok, exists_const, not_not]
  constructor
  · rintro ⟨_, hfound, hst, rfl⟩
    exact ⟨hfound, hst⟩
  · rintro ⟨hfound, hst⟩
    exact ⟨st, hfound, hst, rfl⟩

theorem readHandoff_eq_ok {workspaceId id missing : String} {h : CustodyHandoff} :
    s.readHandoff workspaceId id missing = .ok h ↔
      s.handoffById workspaceId id = some h ∧ IsCustodyHandoff h := by
  simp only [readHandoff, bind_eq_ok, demand_eq_ok, refuse_eq_ok, pure_eq_ok, exists_const,
    not_not]
  constructor
  · rintro ⟨_, hfound, hh, rfl⟩
    exact ⟨hfound, hh⟩
  · rintro ⟨hfound, hh⟩
    exact ⟨h, hfound, hh, rfl⟩

theorem readIncident_eq_ok {workspaceId id missing : String} {i : CustodyIncident} :
    s.readIncident rt workspaceId id missing = .ok i ↔
      s.incidentById workspaceId id = some i ∧ rt.IsCustodyIncident i := by
  simp only [readIncident, bind_eq_ok, demand_eq_ok, refuse_eq_ok, pure_eq_ok, exists_const,
    not_not]
  constructor
  · rintro ⟨_, hfound, hi, rfl⟩
    exact ⟨hfound, hi⟩
  · rintro ⟨hfound, hi⟩
    exact ⟨i, hfound, hi, rfl⟩

theorem stateById_mem {workspaceId id : String} {st : CustodyState}
    (h : s.stateById workspaceId id = some st) :
    st ∈ s.states ∧ st.workspaceId = workspaceId ∧ st.id = id :=
  ⟨List.mem_of_find?_eq_some h, by simpa using List.find?_some h⟩

theorem handoffById_mem {workspaceId id : String} {h : CustodyHandoff}
    (hfound : s.handoffById workspaceId id = some h) :
    h ∈ s.handoffs ∧ h.workspaceId = workspaceId ∧ h.id = id :=
  ⟨List.mem_of_find?_eq_some hfound, by simpa using List.find?_some hfound⟩

/-- Behind rows with other ids, the new row is the one that is found. -/
theorem find?_concat {α : Type} {rows : List α} {row : α} {p : α → Bool} (hp : p row)
    (hrows : ∀ r ∈ rows, ¬ p r) : (rows ++ [row]).find? p = some row := by
  rw [List.find?_append, List.find?_eq_none.2 hrows, Option.none_or, List.find?_cons_of_pos hp]

/-- An update that keeps ids finds the same handoffs, updated. -/
theorem handoffById_decided {workspaceId id : String} {revision : ℕ}
    {f : CustodyHandoff → CustodyHandoff} (hworkspace : ∀ h, (f h).workspaceId = h.workspaceId)
    (hid : ∀ h, (f h).id = h.id) (w i : String) :
    ({ s with handoffs := s.handoffs.map (decidedRow workspaceId id revision f) } :
      CustodyStore).handoffById w i = (s.handoffById w i).map (decidedRow workspaceId id revision f) := by
  have hkeys : ∀ h, (decidedRow workspaceId id revision f h).workspaceId = h.workspaceId ∧
      (decidedRow workspaceId id revision f h).id = h.id := by
    intro h
    unfold decidedRow
    split
    · exact ⟨hworkspace h, hid h⟩
    · exact ⟨rfl, rfl⟩
  simp only [handoffById, List.find?_map, Function.comp_def, hkeys]

theorem saveReplay_eq_ok {ctx : CustodyMutationContext} {operation resultType resultId : String}
    {requestDigest : Digest} {now : ℕ}
    (h : s.saveReplay ctx operation requestDigest resultType resultId now = .ok s') :
    ∃ row, s' = { s with idempotency := s.idempotency ++ [row] } := by
  simp only [saveReplay, bind_eq_ok, insertRow_eq_ok, pure_eq_ok] at h
  obtain ⟨_, ⟨-, rfl⟩, rfl⟩ := h
  exact ⟨_, rfl⟩

end

/-! ### What an operation does -/

/-- What every recorded state satisfies by itself. -/
structure RecordedState (st : CustodyState) : Prop where
  admitted : IsCustodyState st
  read : st.canonical = st
  digested : rt.digest (.condition st.condition) = st.conditionDigest

/-- What every recorded handoff satisfies by itself. -/
structure RecordedHandoff (h : CustodyHandoff) : Prop where
  admitted : IsCustodyHandoff h
  read : h.canonical = h
  digested : rt.digest (.condition h.condition) = h.conditionDigest
  required : h.evidenceRequirements ≠ []
  distinct : h.evidenceRequirements.Nodup
  covered : h.status = .accepted → Covers h.evidenceRequirements h.supplied

/-- The handoff after its acceptance. -/
def acceptedRow (evidence : List AcceptanceEvidence) (now : ℕ) (h : CustodyHandoff) :
    CustodyHandoff :=
  { h with
    status := .accepted, acceptanceEvidence := evidence, decidedAt := some now
    revision := h.revision + 1 }

/-- The handoff after its refusal. -/
def refusedRow (reason : String) (now : ℕ) (h : CustodyHandoff) : CustodyHandoff :=
  { h with
    status := .refused, decidedAt := some now, refusalReason := some reason
    revision := h.revision + 1 }

/-- The target and the root that an actor establishes. -/
structure Establishes (actor : String) (t : CustodyTarget) (st : CustodyState) : Prop where
  fresh : ∀ u ∈ s.targets, ¬ (u.workspaceId = t.workspaceId ∧ u.targetDigest = t.targetDigest)
  target : rt.IsCustodyTarget t
  derived : rt.targetDigest t.target = t.targetDigest
  workspace : st.workspaceId = t.workspaceId
  digest : st.targetDigest = t.targetDigest
  root : st.predecessorStateId = none
  custodian : st.custodianPrincipalId = actor
  state : NewState { s with targets := s.targets ++ [t] } st
  recorded : RecordedState rt st

/-- The handoff of its own custody that an actor offers. -/
structure Offers (actor : String) (now : ℕ) (source : CustodyState) (h : CustodyHandoff) :
    Prop where
  recordedSource : source ∈ s.states
  workspace : source.workspaceId = h.workspaceId
  identity : source.id = h.sourceStateId
  digest : source.targetDigest = h.targetDigest
  custodian : source.custodianPrincipalId = h.fromPrincipalId
  offering : h.fromPrincipalId = actor
  current : ∀ st ∈ s.states, st.workspaceId = h.workspaceId →
    st.predecessorStateId ≠ some h.sourceStateId
  status : h.status = .offered
  live : now < h.expiresAt
  handoff : s.NewHandoff h
  recorded : RecordedHandoff rt h

/-- The state that an actor creates in accepting a handoff. -/
structure Accepts (actor : String) (now : ℕ) (h : CustodyHandoff)
    (evidence : List AcceptanceEvidence) (st : CustodyState) : Prop where
  handoff : h ∈ s.handoffs
  offered : h.status = .offered
  recipient : h.toPrincipalId = actor
  live : now < h.expiresAt
  covers : Covers h.evidenceRequirements (evidence.map AcceptanceEvidence.requirement)
  workspace : st.workspaceId = h.workspaceId
  digest : st.targetDigest = h.targetDigest
  custodian : st.custodianPrincipalId = h.toPrincipalId
  predecessor : st.predecessorStateId = some h.sourceStateId
  accepted : st.acceptedHandoffId = some h.id
  condition : st.condition = h.condition
  conditionDigest : st.conditionDigest = h.conditionDigest
  state : s.NewState st
  admitted : IsCustodyState st
  lifecycle : (acceptedRow evidence now h).Lifecycle
  row : IsCustodyHandoff (acceptedRow evidence now h)

/-- The handoff that an actor refuses. -/
structure Refuses (actor : String) (now : ℕ) (h : CustodyHandoff) (reason : String) : Prop where
  handoff : h ∈ s.handoffs
  offered : h.status = .offered
  recipient : h.toPrincipalId = actor
  lifecycle : (refusedRow reason now h).Lifecycle
  row : IsCustodyHandoff (refusedRow reason now h)

/-- The incident that is reported. -/
structure Reports (i : CustodyIncident) : Prop where
  incident : s.NewIncident i
  state : ∃ st ∈ s.states, st.workspaceId = i.workspaceId ∧ st.id = i.stateId ∧
    st.targetDigest = i.targetDigest
  admitted : rt.IsCustodyIncident i

section

variable {rt : CustodyRuntime} {s s' : CustodyStore} {contextInput : CustodyMutationContext}
  {now : ℕ} {id : String}

theorem establish_eq_ok {input : Establishment} {st : CustodyState}
    (h : s.establish rt input contextInput now id = .ok (s', st)) :
    s' = s ∨ ∃ ctx t row, context contextInput = .ok ctx ∧
      s.Establishes rt ctx.actorPrincipalId t st ∧
      s' = { s with
        targets := s.targets ++ [t], states := s.states ++ [st]
        idempotency := s.idempotency ++ [row] } := by
  simp only [establish, bind_eq_ok, CustodyRuntime.prepareTargetRefV1_eq_ok, refuse_eq_ok,
    exists_const, not_not, CustodyRuntime.custodyDigest_eq_ok, ne_eq] at h
  obtain ⟨ctx, hctx, _, ⟨htarget, rfl⟩, custodian, hcustodian, hself, evidence, hevidence,
    ⟨condition, conditionDigest⟩, hcondition, effectiveAt, heffective, _, ⟨-, rfl⟩, now, hnow,
    prior, hreplay, h⟩ := h
  cases prior with
  | some prior =>
    simp only [bind_eq_ok, refuse_eq_ok, exists_const, pure_eq_ok, Prod.mk.injEq] at h
    obtain ⟨-, _, -, rfl, -⟩ := h
    exact .inl rfl
  | none =>
    simp only [bind_eq_ok, refuse_eq_ok, exists_const, insertTarget_eq_ok, insertState_eq_ok,
      CustodyRuntime.assertCanonical_eq_ok, readState_eq_ok, pure_eq_ok, Prod.mk.injEq] at h
    obtain ⟨-, _, ⟨hfresh, rfl⟩, -, _, ⟨hnew, rfl⟩, -, _, hsaved, _, ⟨hfound, hst⟩, rfl, rfl⟩ := h
    obtain ⟨row, rfl⟩ := saveReplay_eq_ok hsaved
    obtain ⟨rfl, rfl⟩ := prepareCondition_eq_ok hcondition
    have hrow := (find?_concat (by simp) fun r hr => by
      simpa using fun _ hid => hnew.fresh r hr (.inl hid)).symm.trans hfound
    obtain rfl := Option.some.inj hrow
    refine .inr ⟨ctx, _, row, hctx, ?_, rfl⟩
    refine ⟨hfresh, ⟨(context_eq_ok hctx).1, htarget⟩, rfl, rfl, rfl, rfl, hself.symm, hnew,
      ⟨hst, ?_, rfl⟩⟩
    simp [CustodyState.canonical]

theorem offer_eq_ok {input : Offer} {h : CustodyHandoff}
    (hcall : s.offer rt input contextInput now id = .ok (s', h)) :
    s' = s ∨ ∃ ctx source row, context contextInput = .ok ctx ∧
      s.Offers rt ctx.actorPrincipalId now source h ∧
      s' = { s with handoffs := s.handoffs ++ [h], idempotency := s.idempotency ++ [row] } := by
  simp only [offer, bind_eq_ok, refuse_eq_ok, exists_const, CustodyRuntime.custodyDigest_eq_ok]
    at hcall
  obtain ⟨ctx, hctx, sourceId, hsourceId, recipient, hrecipient, hapart, ⟨condition, conditionDigest⟩,
    hcondition, requirements, hrequirements, expiresAt, hexpires, _, ⟨-, rfl⟩, now', hnow, prior,
    hreplay, hcall⟩ := hcall
  obtain rfl := unixMs_eq_ok hnow
  cases prior with
  | some prior =>
    simp only [bind_eq_ok, pure_eq_ok, Prod.mk.injEq] at hcall
    obtain ⟨_, -, rfl, -⟩ := hcall
    exact .inl rfl
  | none =>
    simp only [bind_eq_ok, refuse_eq_ok, exists_const, insertHandoff_eq_ok, readState_eq_ok,
      CustodyRuntime.assertCanonical_eq_ok, readHandoff_eq_ok, pure_eq_ok, Prod.mk.injEq, ne_eq,
      not_not, not_exists, not_and, not_le] at hcall
    obtain ⟨hlive, source, ⟨hsource, -⟩, hdigest, hcustodian, hcurrent, -, _, ⟨hnew, rfl⟩, -, _,
      hsaved, _, ⟨hfound, hh⟩, rfl, rfl⟩ := hcall
    obtain ⟨row, rfl⟩ := saveReplay_eq_ok hsaved
    obtain ⟨rfl, rfl⟩ := prepareCondition_eq_ok hcondition
    have hrow := (find?_concat (by simp) fun g hg => by
      simpa using fun _ hid => hnew.fresh g hg hid).symm.trans hfound
    obtain rfl := Option.some.inj hrow
    obtain ⟨hmem, hworkspace, hid⟩ := stateById_mem hsource
    obtain ⟨hdistinct, hsome⟩ := refs_eq_ok hrequirements
    refine .inr ⟨ctx, source, row, hctx, ⟨hmem, hworkspace, hid, hdigest, hcustodian, rfl,
      hcurrent, rfl, hlive, hnew, ⟨hh, ?_, rfl, hsome rfl, hdistinct, by simp⟩⟩, rfl⟩
    simp [CustodyHandoff.canonical]

theorem accept_eq_ok {handoffId : String} {input : Acceptance} {h : CustodyHandoff}
    {st : CustodyState}
    (hcall : s.accept rt handoffId input contextInput now id = .ok (s', h, st)) :
    s' = s ∨ ∃ ctx offered evidence row, context contextInput = .ok ctx ∧
      s.Accepts ctx.actorPrincipalId now offered evidence st ∧
      s' = { s with
        states := s.states ++ [st]
        handoffs := s.handoffs.map (decidedRow offered.workspaceId offered.id offered.revision
          (acceptedRow evidence now))
        idempotency := s.idempotency ++ [row] } := by
  simp only [accept, bind_eq_ok, refuse_eq_ok, exists_const, CustodyRuntime.custodyDigest_eq_ok]
    at hcall
  obtain ⟨ctx, hctx, handoffId, hhandoffId, revision, hrevision, effectiveAt, heffective, evidence,
    hevidence, hdistinct, _, ⟨-, rfl⟩, now', hnow, prior, hreplay, hcall⟩ := hcall
  obtain rfl := unixMs_eq_ok hnow
  cases prior with
  | some prior =>
    simp only [bind_eq_ok, pure_eq_ok, Prod.mk.injEq] at hcall
    obtain ⟨_, -, _, -, rfl, -⟩ := hcall
    exact .inl rfl
  | none =>
    simp only [bind_eq_ok, refuse_eq_ok, exists_const, insertState_eq_ok, readState_eq_ok,
      CustodyRuntime.assertCanonical_eq_ok, readHandoff_eq_ok, pure_eq_ok, Prod.mk.injEq, ne_eq,
      not_not, not_le] at hcall
    obtain ⟨offered, ⟨hoffered, -⟩, hstatus, rfl, hrecipient, hlive, -, -, hcovers, source,
      -, -, -, _, ⟨hnew, rfl⟩, -, _, hupdated, -, _, hsaved, h', ⟨hfound, hh⟩, st',
      ⟨hst, hadmitted⟩, rfl, rfl, rfl⟩ := hcall
    obtain ⟨row, rfl⟩ := saveReplay_eq_ok hsaved
    obtain ⟨hlifecycle, rfl⟩ := updateHandoff_eq_ok hupdated
    obtain ⟨hmem, hworkspace, -⟩ := handoffById_mem hoffered
    have hrow := (find?_concat (by simp) fun r hr => by
      simpa using fun _ hid => hnew.fresh r hr (.inl hid)).symm.trans hst
    obtain rfl := Option.some.inj hrow
    have hmet : offered.workspaceId = ctx.workspaceId ∧ offered.id = offered.id ∧
        offered.status = .offered ∧ offered.revision = offered.revision :=
      ⟨hworkspace, rfl, hstatus, rfl⟩
    have hupdatedRow := (handoffById_decided (s := s) (f := acceptedRow (sortEvidence rt evidence)
      now') (fun _ => rfl) (fun _ => rfl) ctx.workspaceId offered.id).symm.trans hfound
    have hsame : s.handoffById ctx.workspaceId offered.id = some offered := by
      rw [(handoffById_mem hoffered).2.2]
      exact hoffered
    rw [hsame, Option.map_some, Option.some.injEq, decidedRow, if_pos hmet] at hupdatedRow
    refine .inr ⟨ctx, offered, sortEvidence rt evidence, row, hctx, ⟨hmem, hstatus, hrecipient,
      hlive, hcovers, hworkspace.symm, rfl, rfl, rfl, rfl, rfl, rfl, hnew, hadmitted,
      hlifecycle offered hmem hmet, hupdatedRow ▸ hh⟩, ?_⟩
    rw [hworkspace]
    rfl

theorem refuseHandoff_eq_ok {handoffId reasonInput : String} {revision : ℕ} {h : CustodyHandoff}
    (hcall : s.refuseHandoff rt handoffId revision reasonInput contextInput now = .ok (s', h)) :
    s' = s ∨ ∃ ctx offered reason row, context contextInput = .ok ctx ∧
      s.Refuses ctx.actorPrincipalId now offered reason ∧
      s' = { s with
        handoffs := s.handoffs.map (decidedRow offered.workspaceId offered.id offered.revision
          (refusedRow reason now))
        idempotency := s.idempotency ++ [row] } := by
  simp only [refuseHandoff, bind_eq_ok, CustodyRuntime.custodyDigest_eq_ok] at hcall
  obtain ⟨ctx, hctx, handoffId, hhandoffId, revision, hrevision, reason, hreason, _, ⟨-, rfl⟩, now',
    hnow, prior, hreplay, hcall⟩ := hcall
  obtain rfl := unixMs_eq_ok hnow
  cases prior with
  | some prior =>
    simp only [bind_eq_ok, pure_eq_ok, Prod.mk.injEq, refuse_eq_ok, exists_const] at hcall
    obtain ⟨-, _, -, rfl, -⟩ := hcall
    exact .inl rfl
  | none =>
    simp only [bind_eq_ok, refuse_eq_ok, exists_const, CustodyRuntime.assertCanonical_eq_ok,
      readHandoff_eq_ok, pure_eq_ok, Prod.mk.injEq, ne_eq, not_not, not_or] at hcall
    obtain ⟨offered, ⟨hoffered, -⟩, ⟨hstatus, rfl⟩, hrecipient, _, hupdated, -, _, hsaved, h',
      ⟨hfound, hh⟩, rfl, rfl⟩ := hcall
    obtain ⟨row, rfl⟩ := saveReplay_eq_ok hsaved
    obtain ⟨hlifecycle, rfl⟩ := updateHandoff_eq_ok hupdated
    obtain ⟨hmem, hworkspace, rfl⟩ := handoffById_mem hoffered
    have hmet : offered.workspaceId = ctx.workspaceId ∧ offered.id = offered.id ∧
        offered.status = .offered ∧ offered.revision = offered.revision :=
      ⟨hworkspace, rfl, hstatus, rfl⟩
    have hupdatedRow := (handoffById_decided (s := s) (f := refusedRow reason now')
      (fun _ => rfl) (fun _ => rfl) ctx.workspaceId offered.id).symm.trans hfound
    rw [hoffered, Option.map_some, Option.some.injEq, decidedRow, if_pos hmet] at hupdatedRow
    refine .inr ⟨ctx, offered, reason, row, hctx, ⟨hmem, hstatus, hrecipient,
      hlifecycle offered hmem hmet, hupdatedRow ▸ hh⟩, ?_⟩
    rw [hworkspace]
    rfl

theorem reportIncident_eq_ok {input : IncidentReport} {i : CustodyIncident}
    (hcall : s.reportIncident rt input contextInput now id = .ok (s', i)) :
    s' = s ∨ ∃ row, s.Reports rt i ∧
      s' = { s with incidents := s.incidents ++ [i], idempotency := s.idempotency ++ [row] } := by
  simp only [reportIncident, bind_eq_ok, demand_eq_ok, refuse_eq_ok, exists_const,
    CustodyRuntime.custodyDigest_eq_ok] at hcall
  obtain ⟨ctx, hctx, stateId, hstateId, url, hurl, -, -, evidence, hevidence, occurredAt, hoccurred,
    _, ⟨-, rfl⟩, now', hnow, prior, hreplay, hcall⟩ := hcall
  cases prior with
  | some prior =>
    simp only [bind_eq_ok, pure_eq_ok, Prod.mk.injEq, refuse_eq_ok, exists_const] at hcall
    obtain ⟨-, _, -, rfl, -⟩ := hcall
    exact .inl rfl
  | none =>
    simp only [bind_eq_ok, refuse_eq_ok, exists_const, CustodyRuntime.assertCanonical_eq_ok,
      readState_eq_ok, readIncident_eq_ok, insertIncident_eq_ok, pure_eq_ok, Prod.mk.injEq, ne_eq,
      not_not] at hcall
    obtain ⟨-, st, ⟨hst, -⟩, hdigest, -, _, ⟨hnew, rfl⟩, -, _, hsaved, i', ⟨hfound, hi⟩, rfl, rfl⟩ :=
      hcall
    obtain ⟨row, rfl⟩ := saveReplay_eq_ok hsaved
    have hrow := (find?_concat (by simp) fun r hr => by
      simpa using fun _ hid => hnew.fresh r hr hid).symm.trans hfound
    obtain rfl := Option.some.inj hrow
    obtain ⟨hmem, hworkspace, hid⟩ := stateById_mem hst
    exact .inr ⟨row, ⟨hnew, ⟨st, hmem, hworkspace, hid, hdigest⟩, hi⟩, rfl⟩

end

end CustodyStore

end Tasq.Custody
