import Mathlib.Data.String.Basic
import Mathlib.Tactic
import Tasq.Custody.Succession

/-! Recovery: what a store exports, an empty store imports, and exports again.

    Every row that calls record satisfies what an import checks of it, but for one rule of its own:
    an import takes one piece of evidence for each requirement, where an acceptance takes any
    number. So recovery fails exactly where an acceptance brought more, or where the document as a
    whole is beyond the limits of canonical text. -/

namespace Tasq.Custody.CustodyStore

open Text Outcome Rows

variable {rt : CustodyRuntime} {s s' : CustodyStore}

/-! ### What is recorded -/

/-- The state that an incident is about is recorded, and of its target. -/
def Placed (s : CustodyStore) (i : CustodyIncident) : Prop :=
  ∃ st ∈ s.states, st.workspaceId = i.workspaceId ∧ st.id = i.stateId ∧
    st.targetDigest = i.targetDigest

variable (rt s) in
/-- INVARIANT: the lineage, and every row is one that its schema admits, with the digests that the
    platform derives. -/
structure Recorded : Prop extends s.Lineage where
  targetRows : ∀ t ∈ s.targets, rt.IsCustodyTarget t ∧ rt.targetDigest t.target = t.targetDigest
  stateRows : ∀ st ∈ s.states, RecordedState rt st
  handoffRows : ∀ h ∈ s.handoffs, RecordedHandoff rt h
  incidentIds : (s.incidents.map CustodyIncident.id).Nodup
  incidentRows : ∀ i ∈ s.incidents, rt.IsCustodyIncident i ∧ s.Placed i

theorem recorded_empty : Recorded rt .empty where
  toLineage := lineage_empty
  targetRows := by simp [CustodyStore.empty]
  stateRows := by simp [CustodyStore.empty]
  handoffRows := by simp [CustodyStore.empty]
  incidentIds := by simp [CustodyStore.empty]
  incidentRows := by simp [CustodyStore.empty]

/-- Incidents stay placed while states are added. -/
theorem Placed.mono {i : CustodyIncident} (h : s.Placed i) (hstates : ∀ st ∈ s.states, st ∈ s'.states) :
    s'.Placed i := by
  obtain ⟨st, hst, hplace⟩ := h
  exact ⟨st, hstates st hst, hplace⟩

/-- STEP: the establishment of a target. -/
theorem Recorded.establishes (hs : Recorded rt s) {actor : String} {t : CustodyTarget}
    {st : CustodyState} (h : s.Establishes rt actor t st) (rows : List CustodyReplay) :
    Recorded rt { s with
      targets := s.targets ++ [t], states := s.states ++ [st], idempotency := rows } := by
  refine { (hs.toLineage.establishes h).replays rows with
    targetRows := ?_, stateRows := ?_, handoffRows := hs.handoffRows
    incidentIds := hs.incidentIds, incidentRows := ?_ }
  · intro u hu
    rcases List.mem_append.1 hu with hu | hu
    · exact hs.targetRows u hu
    · rw [List.mem_singleton.1 hu]
      exact ⟨h.target, h.derived⟩
  · intro other hother
    rcases List.mem_append.1 hother with hother | hother
    · exact hs.stateRows other hother
    · rw [List.mem_singleton.1 hother]
      exact h.recorded
  · intro i hi
    obtain ⟨hadmitted, hplaced⟩ := hs.incidentRows i hi
    exact ⟨hadmitted, hplaced.mono fun _ => List.mem_append_left _⟩

/-- STEP: an offer. -/
theorem Recorded.offers (hs : Recorded rt s) {actor : String} {now : ℕ} {source : CustodyState}
    {h : CustodyHandoff} (hoffers : s.Offers rt actor now source h) (rows : List CustodyReplay) :
    Recorded rt { s with handoffs := s.handoffs ++ [h], idempotency := rows } := by
  refine { (hs.toLineage.offers hoffers).replays rows with
    targetRows := hs.targetRows, stateRows := hs.stateRows, handoffRows := ?_
    incidentIds := hs.incidentIds, incidentRows := hs.incidentRows }
  intro g hg
  rcases List.mem_append.1 hg with hg | hg
  · exact hs.handoffRows g hg
  · rw [List.mem_singleton.1 hg]
    exact hoffers.recorded

/-- A decision leaves a handoff recorded, when its row is admitted and what it accepts is covered. -/
theorem RecordedHandoff.decided {h h' : CustodyHandoff} (hh : RecordedHandoff rt h)
    (hsame : SameOffer h h') (hadmitted : IsCustodyHandoff h')
    (hcovered : h'.status = .accepted → Covers h.evidenceRequirements h'.supplied) :
    RecordedHandoff rt h' where
  admitted := hadmitted
  read := by
    have hcondition : h.canonical.condition = h.condition := by rw [hh.read]
    have hread : canonical h'.condition = h'.condition := by
      rw [hsame.condition]
      exact hcondition
    rw [CustodyHandoff.canonical, hread]
  digested := by
    rw [hsame.condition, hsame.conditionDigest]
    exact hh.digested
  required := hsame.requirements ▸ hh.required
  distinct := hsame.requirements ▸ hh.distinct
  covered haccepted := hsame.requirements ▸ hcovered haccepted

/-- STEP: an acceptance. -/
theorem Recorded.accepts (hs : Recorded rt s) {actor : String} {now : ℕ} {h : CustodyHandoff}
    {evidence : List AcceptanceEvidence} {st : CustodyState}
    (haccepts : s.Accepts actor now h evidence st) (rows : List CustodyReplay) :
    Recorded rt { s with
      states := s.states ++ [st]
      handoffs := s.handoffs.map (decidedRow h.workspaceId h.id h.revision
        (acceptedRow evidence now))
      idempotency := rows } := by
  have hrow := hs.handoffRows h haccepts.handoff
  refine { (hs.toLineage.accepts haccepts).replays rows with
    targetRows := hs.targetRows, stateRows := ?_, handoffRows := ?_
    incidentIds := hs.incidentIds, incidentRows := ?_ }
  · intro other hother
    rcases List.mem_append.1 hother with hother | hother
    · exact hs.stateRows other hother
    · rw [List.mem_singleton.1 hother]
      have hcondition : h.canonical.condition = h.condition := by rw [hrow.read]
      have hread : canonical st.condition = st.condition := by
        rw [haccepts.condition]
        exact hcondition
      refine ⟨haccepts.admitted, ?_, ?_⟩
      · rw [CustodyState.canonical, hread]
      · rw [haccepts.condition, haccepts.conditionDigest]
        exact hrow.digested
  · intro g hg
    rcases (mem_decided hs.handoffIds haccepts.handoff haccepts.offered).1 hg with rfl | ⟨hg, -⟩
    · exact hrow.decided (sameOffer_accepted evidence now h) haccepts.row fun _ => haccepts.covers
    · exact hs.handoffRows g hg
  · intro i hi
    obtain ⟨hadmitted, hplaced⟩ := hs.incidentRows i hi
    exact ⟨hadmitted, hplaced.mono fun _ => List.mem_append_left _⟩

/-- STEP: a refusal. -/
theorem Recorded.refuses (hs : Recorded rt s) {actor : String} {now : ℕ} {h : CustodyHandoff}
    {reason : String} (hrefuses : s.Refuses actor now h reason) (rows : List CustodyReplay) :
    Recorded rt { s with
      handoffs := s.handoffs.map (decidedRow h.workspaceId h.id h.revision (refusedRow reason now))
      idempotency := rows } := by
  refine { (hs.toLineage.refuses hrefuses).replays rows with
    targetRows := hs.targetRows, stateRows := hs.stateRows, handoffRows := ?_
    incidentIds := hs.incidentIds, incidentRows := hs.incidentRows }
  intro g hg
  rcases (mem_decided hs.handoffIds hrefuses.handoff hrefuses.offered).1 hg with rfl | ⟨hg, -⟩
  · refine (hs.handoffRows h hrefuses.handoff).decided (sameOffer_refused reason now h)
      hrefuses.row fun haccepted => ?_
    cases haccepted
  · exact hs.handoffRows g hg

/-- STEP: a report of an incident. -/
theorem Recorded.reports (hs : Recorded rt s) {i : CustodyIncident} (hreports : s.Reports rt i)
    (rows : List CustodyReplay) :
    Recorded rt { s with incidents := s.incidents ++ [i], idempotency := rows } := by
  refine { hs.toLineage with
    targetRows := hs.targetRows, stateRows := hs.stateRows, handoffRows := hs.handoffRows
    incidentIds := ?_, incidentRows := ?_ }
  · rw [List.map_append, List.nodup_append]
    refine ⟨hs.incidentIds, by simp, ?_⟩
    intro k hk k' hk' heq
    obtain ⟨j, hj, rfl⟩ := List.mem_map.1 hk
    rw [List.map_singleton, List.mem_singleton] at hk'
    exact hreports.incident.fresh j hj (heq.trans hk')
  · intro j hj
    rcases List.mem_append.1 hj with hj | hj
    · exact hs.incidentRows j hj
    · rw [List.mem_singleton.1 hj]
      exact ⟨hreports.admitted, hreports.state⟩

/-- STEP: an import into a store without targets. -/
theorem Recorded.imports (hs : Recorded rt s) (hempty : s.targets = []) {c : PortableContent}
    (h : Imported rt s c s') : Recorded rt s' := by
  have hc := h.checked
  have hnone : s.incidents = [] := by
    rw [List.eq_nil_iff_forall_not_mem]
    intro i hi
    obtain ⟨st, hst, -⟩ := (hs.incidentRows i hi).2
    rw [hs.toLines.states_nil hempty] at hst
    cases hst
  have hincidents : s'.incidents = c.incidents := by rw [h.incidents, hnone, List.nil_append]
  refine { h.lineage with targetRows := ?_, stateRows := ?_, handoffRows := ?_, incidentIds := ?_
                          incidentRows := ?_ }
  · intro t ht
    rw [h.targets] at ht
    exact ⟨hc.isTarget t ht, (hc.derived t ht).2⟩
  · intro st hst
    obtain ⟨row, hrow, rfl⟩ := h.mem_states.1 hst
    refine ⟨hc.isState row hrow, ?_, (hc.states row hrow).digested⟩
    simp [CustodyState.canonical]
  · intro g hg
    obtain ⟨row, hrow, rfl⟩ := h.mem_handoffs.1 hg
    have hchecked := hc.handoffs row hrow
    refine ⟨hc.isHandoff row hrow, ?_, hchecked.digested, hchecked.required, hchecked.distinct,
      hchecked.covered⟩
    simp [CustodyHandoff.canonical]
  · rw [hincidents]
    exact h.distinct
  · intro i hi
    rw [hincidents] at hi
    obtain ⟨st, hfound, hdigest⟩ := hc.incidents i hi
    obtain ⟨hst, hid⟩ := (stateByIdentity_eq hc.stateIds).1 hfound
    exact ⟨hc.isIncident i hi, st.canonical, h.mem_states.2 ⟨st, hst, rfl⟩,
      (hc.statesOf st hst).trans (hc.incidentsOf i hi).symm, hid, hdigest⟩

/-- STEP: no call leaves a row that is not recorded so. -/
theorem Recorded.step (hs : Recorded rt s) (action : CustodyAction) :
    Recorded rt (CustodyStore.step rt s action) := by
  unfold CustodyStore.step
  cases action with
  | establish input context now id =>
    refine settle_fst_rule hs fun s' st hcall => ?_
    obtain rfl | ⟨ctx, t, row, -, hestablishes, rfl⟩ := establish_eq_ok hcall
    · exact hs
    · exact hs.establishes hestablishes _
  | offer input context now id =>
    refine settle_fst_rule hs fun s' h hcall => ?_
    obtain rfl | ⟨ctx, source, row, -, hoffers, rfl⟩ := offer_eq_ok hcall
    · exact hs
    · exact hs.offers hoffers _
  | accept handoffId input context now stateId =>
    refine settle_fst_rule hs fun s' result hcall => ?_
    obtain rfl | ⟨ctx, h, evidence, row, -, haccepts, rfl⟩ := accept_eq_ok hcall
    · exact hs
    · exact hs.accepts haccepts _
  | refuse handoffId revision reason context now =>
    refine settle_fst_rule hs fun s' result hcall => ?_
    obtain rfl | ⟨ctx, h, reason, row, -, hrefuses, rfl⟩ := refuseHandoff_eq_ok hcall
    · exact hs
    · exact hs.refuses hrefuses _
  | reportIncident input context now id =>
    refine settle_fst_rule hs fun s' result hcall => ?_
    obtain rfl | ⟨row, hreports, rfl⟩ := reportIncident_eq_ok hcall
    · exact hs
    · exact hs.reports hreports _
  | importPortable packet now =>
    refine settle_rule hs fun s' hcall => ?_
    obtain ⟨hempty, himported⟩ := importPortable_eq_ok hs.toLines hs.handoffs_nil hcall
    exact hs.imports hempty himported

/-- RUN: every row of a store that calls make of an empty one is recorded so. -/
theorem recorded_run (actions : List CustodyAction) : Recorded rt (run rt .empty actions) :=
  Run.run_invariant' (fun _ action hs => hs.step action) actions recorded_empty

/-! ### The document -/

variable (rt s) in
/-- What `exportPortable` reads of a workspace. -/
def exported (workspaceId : String) (exportedAt : ℕ) : PortableContent where
  workspaceId := workspaceId
  exportedAt := exportedAt
  targets := s.exportedTargets rt workspaceId
  states := s.exportedStates workspaceId
  handoffs := s.exportedHandoffs workspaceId
  incidents := s.exportedIncidents workspaceId

theorem mem_byTime {α : Type} {time : α → ℕ} {id : α → String} {rows : List α} {r : α} :
    r ∈ byTime time id rows ↔ r ∈ rows :=
  List.mem_insertionSort _

theorem mem_exportedTargets {w : String} {t : CustodyTarget} :
    t ∈ s.exportedTargets rt w ↔ t ∈ s.targets ∧ t.workspaceId = w := by
  rw [exportedTargets, List.mem_insertionSort, List.mem_filter, decide_eq_true_eq]

theorem mem_exportedStates {w : String} {st : CustodyState} :
    st ∈ s.exportedStates w ↔ st ∈ s.states ∧ st.workspaceId = w := by
  rw [exportedStates, mem_byTime, List.mem_filter, decide_eq_true_eq]

theorem mem_exportedHandoffs {w : String} {h : CustodyHandoff} :
    h ∈ s.exportedHandoffs w ↔ h ∈ s.handoffs ∧ h.workspaceId = w := by
  rw [exportedHandoffs, mem_byTime, List.mem_filter, decide_eq_true_eq]

theorem mem_exportedIncidents {w : String} {i : CustodyIncident} :
    i ∈ s.exportedIncidents w ↔ i ∈ s.incidents ∧ i.workspaceId = w := by
  rw [exportedIncidents, mem_byTime, List.mem_filter, decide_eq_true_eq]

/-- A recorded document is the one that its canonical text is read back as. -/
theorem Recorded.exported_canonical (hs : Recorded rt s) (w : String) (time : ℕ) :
    (s.exported rt w time).canonical = s.exported rt w time := by
  have hstates : (s.exportedStates w).map CustodyState.canonical = s.exportedStates w :=
    (List.map_congr_left fun st hst =>
      (hs.stateRows st (mem_exportedStates.1 hst).1).read).trans (List.map_id _)
  have hhandoffs : (s.exportedHandoffs w).map CustodyHandoff.canonical = s.exportedHandoffs w :=
    (List.map_congr_left fun h hh =>
      (hs.handoffRows h (mem_exportedHandoffs.1 hh).1).read).trans (List.map_id _)
  simp only [PortableContent.canonical, exported, hstates, hhandoffs]

/-- EXACT: the export of recorded rows fails only at the limits of canonical text. -/
theorem Recorded.exportPortable_eq_ok (hs : Recorded rt s) {input : String} {time : ℕ}
    {packet : CustodyPortable} :
    s.exportPortable rt input time = .ok packet ↔ ∃ w, required input "workspaceId" = .ok w ∧
      unixMs time "exportedAt" = .ok time ∧ rt.admits (.portable (s.exported rt w time)) = true ∧
      { s.exported rt w time with
        exportDigest := rt.digest (.portable (s.exported rt w time)) } = packet := by
  have htargets : ∀ w, ∀ t ∈ s.exportedTargets rt w, rt.IsCustodyTarget t :=
    fun w t ht => (hs.targetRows t (mem_exportedTargets.1 ht).1).1
  have hstates : ∀ w, ∀ st ∈ s.exportedStates w, IsCustodyState st :=
    fun w st hst => (hs.stateRows st (mem_exportedStates.1 hst).1).admitted
  have hhandoffs : ∀ w, ∀ h ∈ s.exportedHandoffs w, IsCustodyHandoff h :=
    fun w h hh => (hs.handoffRows h (mem_exportedHandoffs.1 hh).1).admitted
  have hincidents : ∀ w, ∀ i ∈ s.exportedIncidents w, rt.IsCustodyIncident i :=
    fun w i hi => (hs.incidentRows i (mem_exportedIncidents.1 hi).1).1
  simp only [exportPortable, bind_eq_ok, parseRows_eq_ok, CustodyRuntime.custodyDigest_eq_ok,
    pure_eq_ok]
  constructor
  · rintro ⟨w, hw, time', htime, _, ⟨-, rfl⟩, _, ⟨-, rfl⟩, _, ⟨-, rfl⟩, _, ⟨-, rfl⟩, _,
      ⟨hadmits, rfl⟩, rfl⟩
    obtain rfl := unixMs_eq_ok htime
    have hread := hs.exported_canonical w time'
    refine ⟨w, hw, htime, hread ▸ hadmits, ?_⟩
    rw [exported] at hread ⊢
    rw [hread]
  · rintro ⟨w, hw, htime, hadmits, rfl⟩
    have hread := hs.exported_canonical w time
    refine ⟨w, hw, time, htime, _, ⟨htargets w, rfl⟩, _, ⟨hstates w, rfl⟩, _,
      ⟨hhandoffs w, rfl⟩, _, ⟨hincidents w, rfl⟩, rt.digest (.portable (s.exported rt w time)),
      ⟨?_, ?_⟩, rfl⟩
    · rw [← hread] at hadmits
      exact hadmits
    · rw [exported] at hread ⊢
      rw [hread]

/-! ### What an import finds in it -/

/-- Rows of which exactly one satisfies a condition. -/
theorem countP_eq_one {α : Type} {rows : List α} {p : α → Bool} (hnodup : rows.Nodup) {r : α}
    (hr : r ∈ rows) (hp : p r) (honly : ∀ q ∈ rows, p q → q = r) : rows.countP p = 1 := by
  classical
  rw [← List.count_eq_one_of_mem hnodup hr, List.count_eq_countP]
  refine List.countP_congr fun q hq => ?_
  constructor
  · intro hpq
    simpa using honly q hq hpq
  · intro heq
    rw [eq_of_beq heq]
    exact hp

/-- In a workspace, a state has at most one successor. -/
theorem Lineage.successor_unique (hs : s.Lineage) {a b : CustodyState} (ha : a ∈ s.states)
    (hb : b ∈ s.states) (hprev : a.predecessorStateId ≠ none)
    (hab : a.predecessorStateId = b.predecessorStateId) : a = b := by
  obtain ⟨source, hsource, h, -, hstems⟩ := hs.stems a ha hprev
  obtain ⟨source', hsource', h', -, hstems'⟩ := hs.stems b hb (hab ▸ hprev)
  have hsame : source = source' := hs.state_ext hsource hsource'
    (Option.some.inj (hstems.predecessor.symm.trans (hab.trans hstems'.predecessor)))
  have hx : (a.id, a) ∈ s.line b.workspaceId b.targetDigest :=
    mem_line.2 ⟨ha, by rw [← hstems.workspace, hsame, hstems'.workspace],
      by rw [← hstems.digest, hsame, hstems'.digest], rfl⟩
  have hy : (b.id, b) ∈ s.line b.workspaceId b.targetDigest := mem_line.2 ⟨hb, rfl, rfl, rfl⟩
  exact congrArg Prod.snd ((hs.chain _ _).injOn hx hy hab)

/-- Rows that are told apart by a key still are in a selection of them. -/
theorem nodup_byTime {α κ : Type} {rows : List α} {time : α → ℕ} {id : α → String} {key : α → κ}
    {p : α → Bool} (h : (rows.map key).Nodup) :
    ((byTime time id (rows.filter p)).map key).Nodup := by
  refine (((List.perm_insertionSort _ _).map key).nodup_iff).2 ?_
  exact (List.filter_sublist.map key).nodup h

variable {w : String} {time : ℕ}

theorem Recorded.exported_stateIds (hs : Recorded rt s) :
    ((s.exported rt w time).states.map CustodyState.id).Nodup :=
  nodup_byTime hs.ids

theorem Recorded.exported_handoffIds (hs : Recorded rt s) :
    ((s.exported rt w time).handoffs.map CustodyHandoff.id).Nodup :=
  nodup_byTime hs.handoffIds

theorem Recorded.exported_digests (hs : Recorded rt s) :
    ((s.exported rt w time).targets.map CustodyTarget.targetDigest).Nodup := by
  have hkeys : ((s.targets.filter (·.workspaceId = w)).map
      fun t => (t.workspaceId, t.targetDigest)).Nodup :=
    (List.filter_sublist.map _).nodup hs.targets
  refine (((List.perm_insertionSort _ _).map _).nodup_iff).2 ?_
  rw [List.Nodup, List.pairwise_map] at hkeys ⊢
  refine hkeys.imp_of_mem fun {t u} ht hu hne hdigest => hne ?_
  have hw : t.workspaceId = u.workspaceId := by
    simp only [List.mem_filter, decide_eq_true_eq] at ht hu
    rw [ht.2, hu.2]
  rw [hw, hdigest]

/-- A state of the workspace is found in the document. -/
theorem Recorded.exported_state (hs : Recorded rt s) {st : CustodyState} (hst : st ∈ s.states)
    (hw : st.workspaceId = w) : (s.exported rt w time).stateByIdentity st.id = some st :=
  (stateByIdentity_eq hs.exported_stateIds).2 ⟨mem_exportedStates.2 ⟨hst, hw⟩, rfl⟩

/-- What an import checks of a recorded state. -/
theorem Recorded.checkedState (hs : Recorded rt s)
    (hadmits : rt.admits (.portable (s.exported rt w time)) = true) {st : CustodyState}
    (hst : st ∈ (s.exported rt w time).states) : CheckedState rt (s.exported rt w time) st := by
  obtain ⟨hmem, hw⟩ := mem_exportedStates.1 hst
  have hrow := hs.stateRows st hmem
  have hcondition : canonical st.condition = st.condition :=
    congrArg CustodyState.condition hrow.read
  refine ⟨?_, ?_, ?_, hs.roots st hmem, ?_⟩
  · obtain ⟨t, ht, htw, hdigest⟩ := hs.placed st hmem
    exact ⟨t, mem_exportedTargets.2 ⟨ht, htw.trans hw⟩, hdigest⟩
  · rw [hcondition]
    exact (admits_state hadmits hst).1
  · rw [hcondition]
    exact hrow.digested
  · intro id hid
    obtain ⟨source, hsource, h, hh, hstems⟩ := hs.stems st hmem (by simp [Option.mem_def.1 hid])
    obtain rfl : source.id = id := Option.some.inj (hstems.predecessor.symm.trans hid)
    refine ⟨source, h, hs.exported_state hsource (hstems.workspace.trans hw), ?_, hstems.status,
      hstems.digest, hstems.handoffDigest, hstems.handoffSource, hstems.accepting,
      hstems.condition⟩
    rw [hstems.accepted, Option.bind_some]
    exact (handoffByIdentity_eq hs.exported_handoffIds).2
      ⟨mem_exportedHandoffs.2 ⟨hh, hstems.handoffWorkspace.trans hw⟩, rfl⟩

/-- The states that stem from a handoff, counted in the document. -/
theorem Recorded.succeeded_eq (hs : Recorded rt s) {h : CustodyHandoff}
    (hh : h ∈ (s.exported rt w time).handoffs) :
    (s.exported rt w time).statesPerAcceptedHandoff h.id =
      if h.status = .accepted then 1 else 0 := by
  obtain ⟨hmem, hw⟩ := mem_exportedHandoffs.1 hh
  have hstem : ∀ st ∈ s.states, st.acceptedHandoffId = some h.id →
      st.predecessorStateId ≠ none ∧ h.status = .accepted ∧ h.workspaceId = st.workspaceId := by
    intro st hst haccepted
    have hprev : st.predecessorStateId ≠ none := by
      intro hroot
      rw [hs.roots st hst hroot] at haccepted
      cases haccepted
    obtain ⟨source, -, g, hg, hstems⟩ := hs.stems st hst hprev
    obtain rfl : g = h := hs.handoff_ext hg hmem
      (Option.some.inj (hstems.accepted.symm.trans haccepted))
    exact ⟨hprev, hstems.status, hstems.handoffWorkspace⟩
  by_cases hstatus : h.status = .accepted
  · rw [if_pos hstatus]
    obtain ⟨st, hst, haccepted⟩ := hs.concluded h hmem hstatus
    obtain ⟨hprev, -, hplace⟩ := hstem st hst haccepted
    refine countP_eq_one (List.Nodup.of_map _ hs.exported_stateIds)
      (mem_exportedStates.2 ⟨hst, hplace.symm.trans hw⟩) (by simp [hprev, haccepted]) ?_
    intro other hother hp
    rw [decide_eq_true_eq] at hp
    have hne : other.acceptedHandoffId ≠ none := by simp [hp.2]
    exact hs.accepted_once (mem_exportedStates.1 hother).1 hst hne (hp.2.trans haccepted.symm)
  · rw [if_neg hstatus]
    refine List.countP_eq_zero.2 fun st hst hp => hstatus ?_
    rw [decide_eq_true_eq] at hp
    exact (hstem st (mem_exportedStates.1 hst).1 hp.2).2.1

/-- What an import checks of a recorded handoff, but for its evidence. -/
theorem Recorded.checkedHandoff (hs : Recorded rt s)
    (hadmits : rt.admits (.portable (s.exported rt w time)) = true) {h : CustodyHandoff}
    (hh : h ∈ (s.exported rt w time).handoffs) (hsupplied : h.supplied.Nodup) :
    CheckedHandoff rt (s.exported rt w time) h := by
  obtain ⟨hmem, hw⟩ := mem_exportedHandoffs.1 hh
  have hrow := hs.handoffRows h hmem
  have hcondition : canonical h.condition = h.condition :=
    congrArg CustodyHandoff.condition hrow.read
  have hcount := hs.succeeded_eq hh
  refine ⟨?_, ?_, ?_, hrow.required, hrow.distinct, hsupplied, hrow.covered, ?_, ?_,
    hs.lifecycle h hmem⟩
  · obtain ⟨source, hsource, hsourced⟩ := hs.sourced h hmem
    refine ⟨source, ?_, hsourced.digest, hsourced.custodian⟩
    rw [← hsourced.identity]
    exact hs.exported_state hsource (hsourced.workspace.trans hw)
  · rw [hcondition]
    exact (admits_handoff hadmits hh).1
  · rw [hcondition]
    exact hrow.digested
  · intro haccepted
    rw [hcount, if_pos haccepted]
  · intro hopen
    rw [hcount, if_neg hopen]

/-- EXACT: an import checks a recorded document with success when every handoff was accepted with
    one piece of evidence for each requirement. -/
theorem Recorded.checked_iff (hs : Recorded rt s)
    (hadmits : rt.admits (.portable (s.exported rt w time)) = true) :
    Checked rt (s.exported rt w time) ↔
      ∀ h ∈ s.handoffs, h.workspaceId = w → h.supplied.Nodup := by
  constructor
  · intro hc h hh hw
    exact (hc.handoffs h (mem_exportedHandoffs.2 ⟨hh, hw⟩)).supplied
  · intro hsupplied
    refine
      { isTarget := fun t ht => (hs.targetRows t (mem_exportedTargets.1 ht).1).1
        isState := fun st hst => (hs.stateRows st (mem_exportedStates.1 hst).1).admitted
        isHandoff := fun h hh => (hs.handoffRows h (mem_exportedHandoffs.1 hh).1).admitted
        isIncident := fun i hi => (hs.incidentRows i (mem_exportedIncidents.1 hi).1).1
        targetsOf := fun t ht => (mem_exportedTargets.1 ht).2
        statesOf := fun st hst => (mem_exportedStates.1 hst).2
        handoffsOf := fun h hh => (mem_exportedHandoffs.1 hh).2
        incidentsOf := fun i hi => (mem_exportedIncidents.1 hi).2
        digests := hs.exported_digests
        stateIds := hs.exported_stateIds
        handoffIds := hs.exported_handoffIds
        derived := ?_
        states := fun st hst => hs.checkedState hadmits hst
        roots := ?_
        successors := ?_
        handoffs := ?_
        incidents := ?_ }
    · intro t ht
      obtain ⟨hadmitted, hderived⟩ := hs.targetRows t (mem_exportedTargets.1 ht).1
      exact ⟨hadmitted.2, hderived⟩
    · intro t ht
      obtain ⟨hmem, hw⟩ := mem_exportedTargets.1 ht
      obtain ⟨root, ⟨⟨hroot, hrootw, hdigest⟩, hnone⟩, honly⟩ := (hs.linear hmem).root
      refine countP_eq_one (List.Nodup.of_map _ hs.exported_stateIds)
        (mem_exportedStates.2 ⟨hroot, hrootw.trans hw⟩) (by simp [hnone, hdigest]) ?_
      intro other hother hp
      rw [decide_eq_true_eq] at hp
      obtain ⟨hothermem, hotherw⟩ := mem_exportedStates.1 hother
      exact honly other ⟨⟨hothermem, hotherw.trans hw.symm, hp.2⟩, hp.1⟩
    · intro st hst id hid
      have hsome : st.predecessorStateId ≠ none := by simp [Option.mem_def.1 hid]
      refine countP_eq_one (List.Nodup.of_map _ hs.exported_stateIds) hst
        (by simpa using hid) ?_
      intro other hother hp
      rw [decide_eq_true_eq] at hp
      exact (hs.successor_unique (mem_exportedStates.1 hst).1 (mem_exportedStates.1 hother).1 hsome
        (hid.trans hp.symm)).symm
    · intro h hh
      obtain ⟨hmem, hw⟩ := mem_exportedHandoffs.1 hh
      exact hs.checkedHandoff hadmits hh (hsupplied h hmem hw)
    · intro i hi
      obtain ⟨hmem, hw⟩ := mem_exportedIncidents.1 hi
      obtain ⟨st, hst, hstw, hid, hdigest⟩ := (hs.incidentRows i hmem).2
      refine ⟨st, ?_, hdigest⟩
      rw [← hid]
      exact hs.exported_state hst (hstw.trans hw)

/-! ### The import of a recorded document -/

/-- Of the states of a document, one never waits: the oldest of a line. -/
theorem Recorded.exists_free (hs : Recorded rt s) {left : List CustodyState} (hnil : left ≠ [])
    (hleft : ∀ st ∈ left, st ∈ s.states) : ∃ st ∈ left, ¬ Waits left st := by
  obtain ⟨st, hst⟩ := List.exists_mem_of_ne_nil left hnil
  have hx : (st.id, st) ∈ s.line st.workspaceId st.targetDigest :=
    mem_line.2 ⟨hleft st hst, rfl, rfl, rfl⟩
  have hchain := hs.chain st.workspaceId st.targetDigest
  obtain ⟨x, hx, hmem, hsup⟩ := hchain.linked.exists_first (P := fun x => x.2 ∈ left) ⟨_, hx, hst⟩
  refine ⟨x.2, hmem, ?_⟩
  rintro ⟨id, hid, other, hother, rfl⟩
  rcases hsup with hroot | ⟨y, hy, hprev, hyleft⟩
  · rw [hroot] at hid
    cases hid
  · obtain ⟨hymem, -, -, hykey⟩ := mem_line.1 hy
    have hkey : other.id = y.2.id := by
      rw [← hykey]
      exact Option.some.inj (hid.symm.trans hprev)
    exact hyleft (hs.state_ext (hleft other hother) hymem hkey ▸ hother)

/-- The passes go through a recorded document, whatever the order of its states. -/
theorem Recorded.importStates_completes (hs : Recorded rt s) {states : List CustodyState}
    (hids : (states.map CustodyState.id).Nodup) (hstates : ∀ st ∈ states, st ∈ s.states)
    (hclosed : ∀ st ∈ states, ∀ id ∈ st.predecessorStateId, ∃ source ∈ states,
      source.id = id ∧ source.workspaceId = st.workspaceId)
    (hadmits : ∀ st ∈ states, AdmitsState rt st) {t : CustodyStore} (hempty : t.states = [])
    (htargets : ∀ st ∈ states, t.HasTarget st.workspaceId st.targetDigest) :
    ∃ t', t.importStates rt states.length states = .ok t' := by
  let I (u : CustodyStore) (left : List CustodyState) : Prop :=
    u.targets = t.targets ∧ ∃ done : List CustodyState, (done ++ left).Perm states ∧
      u.states = done.map CustodyState.canonical
  refine CustodyStore.importStates_completes (I := I) ?_ ?_ hids le_rfl
    ⟨rfl, [], List.Perm.refl _, by simp [hempty]⟩
  · rintro u left st ⟨hu, done, hperm, hdone⟩ hst hfree
    have hmem : ∀ x ∈ done ++ left, x ∈ states := fun x hx => hperm.mem_iff.1 hx
    have hnodup : ((done ++ left).map CustodyState.id).Nodup :=
      (hperm.map CustodyState.id).nodup_iff.2 hids
    have hststates := hmem st (List.mem_append_right _ hst)
    have hrecorded := hstates st hststates
    rw [List.map_append, List.nodup_append] at hnodup
    refine ⟨⟨hadmits st hststates, ?_, ?_, ?_, ?_⟩, hu, done ++ [st], ?_, ?_⟩
    · -- a state cites a handoff exactly when it has a predecessor
      rw [Bool.eq_iff_iff, Option.isSome_iff_ne_none, Option.isSome_iff_ne_none]
      constructor
      · intro hprev
        obtain ⟨source, -, h, -, hstems⟩ := hs.stems st hrecorded hprev
        exact hstems.accepted ▸ Option.some_ne_none _
      · exact fun haccepted hroot => haccepted (hs.roots st hrecorded hroot)
    · rw [hdone]
      intro row hrow hclash
      obtain ⟨other, hother, rfl⟩ := List.mem_map.1 hrow
      have hotherrecorded := hstates other (hmem other (List.mem_append_left _ hother))
      have hne : other.id ≠ st.id :=
        hnodup.2.2 _ (List.mem_map_of_mem hother) _ (List.mem_map_of_mem hst)
      rcases hclash with hid | ⟨hw, ⟨hroot, hotherroot, hdigest⟩ | ⟨hprev, hsame⟩⟩
      · exact hne hid
      · have hx : (other.id, other) ∈ s.line st.workspaceId st.targetDigest :=
          mem_line.2 ⟨hotherrecorded, hw, hdigest, rfl⟩
        have hy : (st.id, st) ∈ s.line st.workspaceId st.targetDigest :=
          mem_line.2 ⟨hrecorded, rfl, rfl, rfl⟩
        exact hne (congrArg Prod.fst
          ((hs.chain _ _).injOn hx hy (hotherroot.trans hroot.symm)))
      · exact hne (congrArg CustodyState.id
          (hs.successor_unique hrecorded hotherrecorded hprev hsame.symm)).symm
    · obtain ⟨target, htarget, hkey⟩ := htargets st hststates
      exact ⟨target, hu ▸ htarget, hkey⟩
    · intro id hid
      obtain ⟨source, hsource, rfl, hw⟩ := hclosed st hststates id hid
      rcases List.mem_append.1 (hperm.mem_iff.2 hsource) with hin | hin
      · exact ⟨source.canonical, hdone ▸ List.mem_map_of_mem hin, hw, rfl⟩
      · exact absurd ⟨source.id, hid, source, hin, rfl⟩ hfree
    · have hleft := perm_remaining hnodup.2.1 hst
      rw [List.append_assoc, List.singleton_append]
      exact (hleft.symm.append_left done).trans hperm
    · rw [addState, hdone, List.map_append, List.map_singleton]
  · rintro u left ⟨-, done, hperm, -⟩ hnil
    exact hs.exists_free hnil fun st hst =>
      hstates st (hperm.mem_iff.1 (List.mem_append_right _ hst))

/-- A recorded document that is checked with success goes into an empty store. -/
theorem Recorded.import_completes (hs : Recorded rt s)
    (hadmits : rt.admits (.portable (s.exported rt w time)) = true)
    (hc : Checked rt (s.exported rt w time)) {now : ℕ} (hnow : unixMs now "clock" = .ok now) :
    ∃ s', CustodyStore.empty.importPortable rt
      { s.exported rt w time with
        exportDigest := rt.digest (.portable (s.exported rt w time)) } now = .ok s' := by
  let c := s.exported rt w time
  -- the targets
  obtain ⟨s₁, htargets⟩ : ∃ s₁, c.targets.foldlM (importTarget rt) CustodyStore.empty = .ok s₁ := by
    refine ⟨_, importTargets_eq_ok.2 ⟨⟨fun t ht => ⟨admits_target hadmits ht, ?_⟩, ?_⟩, rfl⟩⟩
    · simp [CustodyStore.empty]
    · exact (List.pairwise_map.1 hc.digests).imp fun hne hsame => hne hsame.2
  obtain ⟨-, rfl⟩ := importTargets_eq_ok.1 htargets
  -- the states
  obtain ⟨s₂, hstates⟩ : ∃ s₂, importStates rt { CustodyStore.empty with
      targets := CustodyStore.empty.targets ++ c.targets } c.states.length c.states = .ok s₂ := by
    refine hs.importStates_completes hc.stateIds (fun st hst => (mem_exportedStates.1 hst).1)
      ?_ (fun st hst => admits_state hadmits hst) rfl ?_
    · intro st hst id hid
      obtain ⟨source, hsource, h, -, hstems⟩ :=
        checked_stems hc hst (by simp [Option.mem_def.1 hid])
      exact ⟨source, hsource, Option.some.inj (hstems.predecessor.symm.trans hid),
        hstems.workspace⟩
    · intro st hst
      obtain ⟨t, ht, hdigest⟩ := (hc.states st hst).placed
      exact ⟨t, by simpa [CustodyStore.empty] using ht,
        (hc.targetsOf t ht).trans (hc.statesOf st hst).symm, hdigest⟩
  have hlines : ({ CustodyStore.empty with
      targets := CustodyStore.empty.targets ++ c.targets } : CustodyStore).Lines := by
    obtain ⟨halong, hrun⟩ := (Run.foldlM_eq_ok (fun _ _ _ => importTarget_eq_ok)).1 htargets
    rw [← hrun]
    exact Run.run_invariant (fun _ _ ht hlines => hlines.addTarget ht.2) halong
      lineage_empty.toLines
  obtain ⟨-, states, hperm, rfl⟩ := importStates_lines hc hlines rfl hstates
  have htarget : ∀ d, (∃ t ∈ c.targets, t.targetDigest = d) →
      ∃ t ∈ CustodyStore.empty.targets ++ c.targets, t.workspaceId = w ∧ t.targetDigest = d := by
    rintro d ⟨t, ht, hdigest⟩
    exact ⟨t, List.mem_append_right _ ht, hc.targetsOf t ht, hdigest⟩
  have hstate : ∀ st ∈ c.states, ∃ row ∈ states, row.workspaceId = w ∧ row.id = st.id :=
    fun st hst => ⟨st.canonical, hperm.mem_iff.2 (List.mem_map_of_mem hst), hc.statesOf st hst, rfl⟩
  -- the handoffs
  obtain ⟨s₃, hhandoffs⟩ : ∃ s₃, c.handoffs.foldlM (importHandoff rt)
      { CustodyStore.empty with
        targets := CustodyStore.empty.targets ++ c.targets, states } = .ok s₃ := by
    refine ⟨_, importHandoffs_eq_ok.2 ⟨⟨fun h hh => ⟨⟨admits_handoff hadmits hh, ?_⟩, ?_⟩, ?_⟩, rfl⟩⟩
    · obtain ⟨hmem, hw⟩ := mem_exportedHandoffs.1 hh
      obtain ⟨source, hfound, hdigest, -⟩ := (hc.handoffs h hh).source
      obtain ⟨hsource, hid⟩ := (stateByIdentity_eq hc.stateIds).1 hfound
      refine ⟨hs.apart h hmem, hs.expires h hmem, hs.lifecycle h hmem, ?_, ?_⟩
      · obtain ⟨t, ht, htw, htd⟩ := htarget h.targetDigest
          (hdigest ▸ (hc.states source hsource).placed)
        exact ⟨t, ht, htw.trans hw.symm, htd⟩
      · obtain ⟨row, hrow, hroww, hrowid⟩ := hstate source hsource
        exact ⟨row, hrow, hroww.trans hw.symm, hrowid.trans hid⟩
    · simp [CustodyStore.empty]
    · exact List.pairwise_map.1 hc.handoffIds
  obtain ⟨-, rfl⟩ := importHandoffs_eq_ok.1 hhandoffs
  -- the incidents
  obtain ⟨s₄, hincidents⟩ : ∃ s₄, c.incidents.foldlM (importIncident rt)
      { CustodyStore.empty with
        targets := CustodyStore.empty.targets ++ c.targets, states
        handoffs := CustodyStore.empty.handoffs ++ c.handoffs.map CustodyHandoff.canonical } =
      .ok s₄ := by
    refine ⟨_, importIncidents_eq_ok.2 ⟨⟨fun i hi => ⟨⟨admits_incident hadmits hi, ?_⟩, ?_⟩, ?_⟩,
      rfl⟩⟩
    · obtain ⟨-, hw⟩ := mem_exportedIncidents.1 hi
      obtain ⟨st, hfound, hdigest⟩ := hc.incidents i hi
      obtain ⟨hst, hid⟩ := (stateByIdentity_eq hc.stateIds).1 hfound
      constructor
      · obtain ⟨t, ht, htw, htd⟩ := htarget i.targetDigest (hdigest ▸ (hc.states st hst).placed)
        exact ⟨t, ht, htw.trans hw.symm, htd⟩
      · obtain ⟨row, hrow, hroww, hrowid⟩ := hstate st hst
        exact ⟨row, hrow, hroww.trans hw.symm, hrowid.trans hid⟩
    · simp [CustodyStore.empty]
    · exact List.pairwise_map.1 (nodup_byTime hs.incidentIds)
  refine ⟨s₄, ?_⟩
  simp only [importPortable, bind_eq_ok, CustodyRuntime.custodyDigest_eq_ok, refuse_eq_ok,
    exists_const, ne_eq, not_not]
  exact ⟨_, ⟨by rw [hs.exported_canonical]; exact hadmits, rfl⟩,
    by rw [hs.exported_canonical], (), PortableContent.check_eq_ok.2 hc, now, hnow, rfl, _,
    htargets, _, hstates, _, hhandoffs, hincidents⟩

/-! ### The second export -/

/-- The order of a time and then of an id. -/
abbrev TimeLE {α : Type} (time : α → ℕ) (id : α → String) (a b : α) : Prop :=
  time a < time b ∨ time a = time b ∧ id a ≤ id b

theorem pairwise_byTime {α : Type} (time : α → ℕ) (id : α → String) (rows : List α) :
    (byTime time id rows).Pairwise (TimeLE time id) := by
  have htotal : Std.Total (TimeLE time id) := by
    refine ⟨fun a b => ?_⟩
    rcases lt_trichotomy (time a) (time b) with hlt | heq | hgt
    · exact .inl (.inl hlt)
    · rcases le_total (id a) (id b) with hle | hle
      · exact .inl (.inr ⟨heq, hle⟩)
      · exact .inr (.inr ⟨heq.symm, hle⟩)
    · exact .inr (.inl hgt)
  have htrans : IsTrans α (TimeLE time id) := by
    refine ⟨fun a b c hab hbc => ?_⟩
    rcases hab with hab | ⟨hab, hidab⟩ <;> rcases hbc with hbc | ⟨hbc, hidbc⟩
    · exact .inl (hab.trans hbc)
    · exact .inl (hbc ▸ hab)
    · exact .inl (hab ▸ hbc)
    · exact .inr ⟨hab.trans hbc, hidab.trans hidbc⟩
  exact List.pairwise_insertionSort _ _

/-- Rows with distinct ids stand in one order, whatever order they come in. -/
theorem byTime_eq_of_perm {α : Type} {time : α → ℕ} {id : α → String} {rows rows' : List α}
    (hids : (rows.map id).Nodup) (hperm : rows'.Perm rows) :
    byTime time id rows' = byTime time id rows := by
  have hsorted : (byTime time id rows').Perm (byTime time id rows) :=
    ((List.perm_insertionSort _ _).trans hperm).trans (List.perm_insertionSort _ _).symm
  refine hsorted.eq_of_pairwise ?_ (pairwise_byTime time id rows') (pairwise_byTime time id rows)
  intro a b ha hb hab hba
  have ha' : a ∈ rows := hperm.mem_iff.1 (mem_byTime.1 ha)
  have hb' : b ∈ rows := mem_byTime.1 hb
  refine List.inj_on_of_nodup_map hids ha' hb' ?_
  rcases hab with hab | ⟨heq, hab⟩ <;> rcases hba with hba | ⟨heq', hba⟩
  · exact absurd hba hab.not_gt
  · exact absurd heq'.symm hab.ne
  · exact absurd heq.symm hba.ne
  · exact le_antisymm hab hba

/-- Rows of one workspace that stand in order are exported as they stand. -/
theorem byTime_filter_eq {α : Type} {time : α → ℕ} {id : α → String} {rows rows' : List α}
    {p : α → Bool} (hids : ((byTime time id rows).map id).Nodup)
    (hperm : rows'.Perm (byTime time id rows)) (hp : ∀ r ∈ byTime time id rows, p r) :
    byTime time id (rows'.filter p) = byTime time id rows := by
  have hall : rows'.filter p = rows' := List.filter_eq_self.2 fun r hr => hp r (hperm.mem_iff.1 hr)
  rw [hall, byTime_eq_of_perm hids hperm]
  exact (pairwise_byTime time id rows).insertionSort_eq

/-- What an empty store imports of a document, it exports again. -/
theorem Imported.exported_eq (hs : Recorded rt s)
    (h : Imported rt .empty (s.exported rt w time) s') :
    s'.exported rt w time = s.exported rt w time := by
  have hc := h.checked
  have hread := hs.exported_canonical w time
  have htargets : s'.exportedTargets rt w = s.exportedTargets rt w := by
    have hall : s'.targets.filter (·.workspaceId = w) = s.exportedTargets rt w := by
      rw [h.targets]
      exact List.filter_eq_self.2 fun t ht => decide_eq_true (hc.targetsOf t ht)
    have hsorted : (s.exportedTargets rt w).Pairwise
        fun a b => rt.hex a.targetDigest ≤ rt.hex b.targetDigest := by
      have htotal : Std.Total fun a b : CustodyTarget => rt.hex a.targetDigest ≤ rt.hex b.targetDigest :=
        ⟨fun _ _ => le_total _ _⟩
      have htrans : IsTrans CustodyTarget fun a b => rt.hex a.targetDigest ≤ rt.hex b.targetDigest :=
        ⟨fun _ _ _ => le_trans⟩
      exact List.pairwise_insertionSort _ _
    rw [exportedTargets, hall]
    exact hsorted.insertionSort_eq
  have hstates : s'.exportedStates w = s.exportedStates w := by
    refine byTime_filter_eq hc.stateIds ?_ fun st hst => decide_eq_true (hc.statesOf st hst)
    have hcanonical : (s.exported rt w time).states.map CustodyState.canonical =
        (s.exported rt w time).states := congrArg PortableContent.states hread
    exact h.states.trans (List.Perm.of_eq hcanonical)
  have hhandoffs : s'.exportedHandoffs w = s.exportedHandoffs w := by
    refine byTime_filter_eq hc.handoffIds ?_ fun g hg => decide_eq_true (hc.handoffsOf g hg)
    have hcanonical : (s.exported rt w time).handoffs.map CustodyHandoff.canonical =
        (s.exported rt w time).handoffs := congrArg PortableContent.handoffs hread
    exact List.Perm.of_eq (h.handoffs.trans hcanonical)
  have hincidents : s'.exportedIncidents w = s.exportedIncidents w := by
    refine byTime_filter_eq h.distinct ?_ fun i hi => decide_eq_true (hc.incidentsOf i hi)
    rw [h.incidents]
    exact List.Perm.refl _
  simp only [exported, htargets, hstates, hhandoffs, hincidents]

/-! ### Recovery -/

variable (rt s) in
/-- The workspace is exported, an empty store imports the document, and exports it again. -/
def Recovers (workspaceId : String) (exportedAt now : ℕ) : Prop :=
  ∃ packet, s.exportPortable rt workspaceId exportedAt = .ok packet ∧
    ∃ s', CustodyStore.empty.importPortable rt packet now = .ok s' ∧
      s'.exportPortable rt workspaceId exportedAt = .ok packet

/-- EXACT: a recorded store recovers when its document is within the limits of canonical text and
    every handoff was accepted with one piece of evidence for each requirement. -/
theorem Recorded.recovers_iff (hs : Recorded rt s) {input : String} {now : ℕ}
    (hw : required input "workspaceId" = .ok w) (htime : unixMs time "exportedAt" = .ok time)
    (hnow : unixMs now "clock" = .ok now) :
    Recovers rt s input time now ↔ rt.admits (.portable (s.exported rt w time)) = true ∧
      ∀ h ∈ s.handoffs, h.workspaceId = w → h.supplied.Nodup := by
  constructor
  · rintro ⟨packet, hexport, s', himport, -⟩
    obtain ⟨w', hw', -, hadmits, rfl⟩ := hs.exportPortable_eq_ok.1 hexport
    obtain rfl : w' = w := Except.ok.inj (hw'.symm.trans hw)
    have himported := (importPortable_eq_ok lineage_empty.toLines (fun _ => rfl) himport).2
    exact ⟨hadmits, (hs.checked_iff hadmits).1 himported.checked⟩
  · rintro ⟨hadmits, hsupplied⟩
    have hc := (hs.checked_iff hadmits).2 hsupplied
    obtain ⟨s', himport⟩ := hs.import_completes hadmits hc hnow
    have himported := (importPortable_eq_ok lineage_empty.toLines (fun _ => rfl) himport).2
    have hs' : Recorded rt s' := recorded_empty.imports rfl himported
    have hsame : s'.exported rt w time = s.exported rt w time := himported.exported_eq hs
    refine ⟨_, hs.exportPortable_eq_ok.2 ⟨w, hw, htime, hadmits, rfl⟩, s', himport, ?_⟩
    refine hs'.exportPortable_eq_ok.2 ⟨w, hw, htime, ?_, ?_⟩
    · rw [hsame]
      exact hadmits
    · rw [hsame]

/-- EXACT: over every run of calls, a workspace recovers when its document is within the limits of
    canonical text and every handoff was accepted with one piece of evidence for each requirement;
    and every document that an empty store imports leaves a lineage. -/
theorem recovery_of_run (rt : CustodyRuntime) (actions : List CustodyAction) (input w : String)
    (time now : ℕ) (hw : required input "workspaceId" = .ok w)
    (htime : unixMs time "exportedAt" = .ok time) (hnow : unixMs now "clock" = .ok now) :
    (Recovers rt (run rt .empty actions) input time now ↔
      rt.admits (.portable ((run rt .empty actions).exported rt w time)) = true ∧
        ∀ h ∈ (run rt .empty actions).handoffs, h.workspaceId = w → h.supplied.Nodup) ∧
      ∀ packet s', CustodyStore.empty.importPortable rt packet now = .ok s' → s'.Lineage := by
  refine ⟨(recorded_run actions).recovers_iff hw htime hnow, fun packet s' himport => ?_⟩
  exact (importPortable_eq_ok lineage_empty.toLines (fun _ => rfl) himport).2.lineage

/-- A platform whose digests are the values themselves, for runs on fixed inputs. -/
def plainRuntime : CustodyRuntime where
  url value := some ⟨value, "", "", "", ""⟩
  admitsRequest _ := true
  admitsPayload _ := true
  digest
    | .condition c => ⟨.obj c.fields⟩
    | .portable c => ⟨.str c.workspaceId⟩
    | _ => ⟨.null⟩
  targetDigest t := ⟨.str t.resourceType⟩
  hex _ := "sha256:"
  localeCompare a b :=
    if utf16 a < utf16 b then .lt else if utf16 a = utf16 b then .eq else .gt

/-- A parcel goes from its seller to a courier, against a photo of its seal. -/
def parcelRun (evidence : List AcceptanceEvidence) : List CustodyAction :=
  [.establish ⟨⟨"https://parcels.example/", "parcel", .plain "p1", none, none⟩, "seller", ⟨[]⟩,
      ["evidence:root"], 1⟩ ⟨"w", "seller", "establish"⟩ 1 "s1",
    .offer ⟨⟨.str "parcel"⟩, "s1", "courier", ⟨[]⟩, ["seal_photo"], 9⟩ ⟨"w", "seller", "offer"⟩ 2 "h1",
    .accept "h1" ⟨1, ⟨.obj []⟩, evidence, 3⟩ ⟨"w", "courier", "accept"⟩ 3 "s2"]

/-- The acceptance with one photo is recovered. -/
theorem parcel_recovers :
    Recovers plainRuntime (run plainRuntime .empty (parcelRun [⟨"seal_photo", "photo:1"⟩])) "w" 4 4 :=
  (recovery_of_run plainRuntime (parcelRun [⟨"seal_photo", "photo:1"⟩]) "w" "w" 4 4 (by decide +kernel)
    (by decide) (by decide)).1.2 ⟨by decide +kernel, by decide +kernel⟩

/-- NOT SO: the acceptance with two photos of the seal is recorded and exported, and its document is
    refused. -/
theorem two_photos_lost :
    (run plainRuntime .empty
        (parcelRun [⟨"seal_photo", "photo:1"⟩, ⟨"seal_photo", "photo:2"⟩])).states.length = 2 ∧
      ((run plainRuntime .empty
          (parcelRun [⟨"seal_photo", "photo:1"⟩, ⟨"seal_photo", "photo:2"⟩])).exportPortable
        plainRuntime "w" 4 >>= fun packet => CustodyStore.empty.importPortable plainRuntime packet 4) =
        .error (.error "custody portable handoff evidence requirements are inconsistent") := by
  decide +kernel

end Tasq.Custody.CustodyStore
