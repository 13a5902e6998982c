import Mathlib.Tactic
import Tasq.Custody.Lineage
import Tasq.Lib.Load

/-! What an import admits, and what it leaves. The checks are inverted once, into what they say of
    the document; the passes over the states insert each of them once, behind its predecessor. So
    the store that an import leaves has a lineage of its own. -/

namespace Tasq.Custody

open Outcome Rows

/-! ### The checks -/

/-- What is checked of a state. -/
structure CheckedState (rt : CustodyRuntime) (c : PortableContent) (st : CustodyState) : Prop where
  placed : ∃ t ∈ c.targets, t.targetDigest = st.targetDigest
  admits : rt.admits (.condition (canonical st.condition)) = true
  digested : rt.digest (.condition (canonical st.condition)) = st.conditionDigest
  root : st.predecessorStateId = none → st.acceptedHandoffId = none
  bound : ∀ id ∈ st.predecessorStateId, ∃ predecessor accepted,
    c.stateByIdentity id = some predecessor ∧
      st.acceptedHandoffId.bind c.handoffByIdentity = some accepted ∧
      accepted.status = .accepted ∧ predecessor.targetDigest = st.targetDigest ∧
      accepted.targetDigest = st.targetDigest ∧ accepted.sourceStateId = predecessor.id ∧
      accepted.toPrincipalId = st.custodianPrincipalId ∧
      accepted.conditionDigest = st.conditionDigest

/-- What is checked of a handoff. -/
structure CheckedHandoff (rt : CustodyRuntime) (c : PortableContent) (h : CustodyHandoff) :
    Prop where
  source : ∃ source, c.stateByIdentity h.sourceStateId = some source ∧
    source.targetDigest = h.targetDigest ∧ source.custodianPrincipalId = h.fromPrincipalId
  admits : rt.admits (.condition (canonical h.condition)) = true
  digested : rt.digest (.condition (canonical h.condition)) = h.conditionDigest
  required : h.evidenceRequirements ≠ []
  distinct : h.evidenceRequirements.Nodup
  supplied : h.supplied.Nodup
  covered : h.status = .accepted → Covers h.evidenceRequirements h.supplied
  succeeded : h.status = .accepted → c.statesPerAcceptedHandoff h.id = 1
  open_ : h.status ≠ .accepted → c.statesPerAcceptedHandoff h.id = 0
  lifecycle : h.Lifecycle

/-- What is checked of a document. -/
structure Checked (rt : CustodyRuntime) (c : PortableContent) : Prop where
  isTarget : ∀ t ∈ c.targets, rt.IsCustodyTarget t
  isState : ∀ st ∈ c.states, IsCustodyState st
  isHandoff : ∀ h ∈ c.handoffs, IsCustodyHandoff h
  isIncident : ∀ i ∈ c.incidents, rt.IsCustodyIncident i
  targetsOf : ∀ t ∈ c.targets, t.workspaceId = c.workspaceId
  statesOf : ∀ st ∈ c.states, st.workspaceId = c.workspaceId
  handoffsOf : ∀ h ∈ c.handoffs, h.workspaceId = c.workspaceId
  incidentsOf : ∀ i ∈ c.incidents, i.workspaceId = c.workspaceId
  digests : (c.targets.map CustodyTarget.targetDigest).Nodup
  stateIds : (c.states.map CustodyState.id).Nodup
  handoffIds : (c.handoffs.map CustodyHandoff.id).Nodup
  derived : ∀ t ∈ c.targets, rt.IsTargetRef t.target ∧ rt.targetDigest t.target = t.targetDigest
  states : ∀ st ∈ c.states, CheckedState rt c st
  roots : ∀ t ∈ c.targets, c.rootsPerTarget t.targetDigest = 1
  successors : ∀ st ∈ c.states, ∀ id ∈ st.predecessorStateId, c.successorsPerState id = 1
  handoffs : ∀ h ∈ c.handoffs, CheckedHandoff rt c h
  incidents : ∀ i ∈ c.incidents, ∃ st, c.stateByIdentity i.stateId = some st ∧
    st.targetDigest = i.targetDigest

namespace PortableContent

variable {rt : CustodyRuntime} {c : PortableContent}

theorem checkSuccessor_eq_ok {st : CustodyState} {id : String} :
    c.checkSuccessor st id = .ok () ↔ ∃ predecessor accepted,
      c.stateByIdentity id = some predecessor ∧
        st.acceptedHandoffId.bind c.handoffByIdentity = some accepted ∧
        accepted.status = .accepted ∧ predecessor.targetDigest = st.targetDigest ∧
        accepted.targetDigest = st.targetDigest ∧ accepted.sourceStateId = predecessor.id ∧
        accepted.toPrincipalId = st.custodianPrincipalId ∧
        accepted.conditionDigest = st.conditionDigest := by
  simp only [checkSuccessor, bind_eq_ok, demand_eq_ok, refuse_eq_ok, exists_const, not_or, ne_eq,
    not_not, exists_and_left]

theorem checkState_eq_ok {st : CustodyState} :
    c.checkState rt st = .ok () ↔ CheckedState rt c st := by
  have htarget : ¬ (c.targetByDigest st.targetDigest).isNone = true ↔
      ∃ t ∈ c.targets, t.targetDigest = st.targetDigest := by
    simp [targetByDigest]
  simp only [checkState, bind_eq_ok, refuse_eq_ok, exists_const, htarget, ne_eq, not_not,
    CustodyRuntime.custodyDigest_eq_ok]
  constructor
  · rintro ⟨hplaced, _, ⟨hadmits, rfl⟩, hdigested, hlinks⟩
    cases hprev : st.predecessorStateId with
    | none =>
      rw [hprev] at hlinks
      exact ⟨hplaced, hadmits, hdigested, fun _ => by simpa using hlinks, by simp [hprev]⟩
    | some id =>
      rw [hprev] at hlinks
      refine ⟨hplaced, hadmits, hdigested, by simp [hprev], ?_⟩
      intro id' hid'
      obtain rfl := Option.some.inj (hprev.symm.trans hid')
      exact checkSuccessor_eq_ok.1 hlinks
  · intro h
    refine ⟨h.placed, _, ⟨h.admits, rfl⟩, h.digested, ?_⟩
    cases hprev : st.predecessorStateId with
    | none => simpa using h.root hprev
    | some id => exact checkSuccessor_eq_ok.2 (h.bound id hprev)

theorem checkHandoff_eq_ok {h : CustodyHandoff} :
    c.checkHandoff rt h = .ok () ↔ CheckedHandoff rt c h := by
  simp only [checkHandoff, bind_eq_ok, demand_eq_ok, refuse_eq_ok, exists_const, not_or, ne_eq,
    not_not, not_and, CustodyRuntime.custodyDigest_eq_ok]
  constructor
  · rintro ⟨source, hfound, ⟨hdigest, hcustodian⟩, _, ⟨hadmits, rfl⟩, hdigested,
      ⟨hrequired, hdistinct, hsupplied, hcovered⟩, ⟨hsucceeded, hopen⟩, hlifecycle⟩
    exact ⟨⟨source, hfound, hdigest, hcustodian⟩, hadmits, hdigested, hrequired, hdistinct,
      hsupplied, hcovered, hsucceeded, hopen, hlifecycle⟩
  · intro h
    obtain ⟨source, hfound, hdigest, hcustodian⟩ := h.source
    exact ⟨source, hfound, ⟨hdigest, hcustodian⟩, _, ⟨h.admits, rfl⟩, h.digested,
      ⟨h.required, h.distinct, h.supplied, h.covered⟩, ⟨h.succeeded, h.open_⟩, h.lifecycle⟩

theorem checkIncident_eq_ok {i : CustodyIncident} :
    c.checkIncident i = .ok () ↔
      ∃ st, c.stateByIdentity i.stateId = some st ∧ st.targetDigest = i.targetDigest := by
  simp only [checkIncident, bind_eq_ok, demand_eq_ok, refuse_eq_ok, ne_eq, not_not]

/-- EXACT: what `importPortable` checks before its transaction. -/
theorem check_eq_ok : c.check rt = .ok () ↔ Checked rt c := by
  simp only [check, bind_eq_ok, parseRows_eq_ok, refuse_eq_ok, exists_const, not_not, forM_eq_ok,
    CustodyRuntime.prepareTargetRefV1_eq_ok, checkState_eq_ok, checkHandoff_eq_ok,
    checkIncident_eq_ok, ne_eq]
  simp only [not_or, not_exists, not_and, not_not]
  constructor
  · rintro ⟨_, ⟨h₁, -⟩, _, ⟨h₂, -⟩, _, ⟨h₃, -⟩, _, ⟨h₄, -⟩, ⟨h₅, h₆, h₇, h₈⟩, ⟨h₉, h₁₀, h₁₁⟩,
      hderived, hstates, ⟨hroots, hsuccessors⟩, hhandoffs, hincidents⟩
    refine ⟨h₁, h₂, h₃, h₄, h₅, h₆, h₇, h₈, h₉, h₁₀, h₁₁, ?_, hstates, hroots, hsuccessors,
      hhandoffs, hincidents⟩
    intro t ht
    obtain ⟨_, ⟨href, rfl⟩, hdigest⟩ := hderived t ht
    exact ⟨href, hdigest⟩
  · intro h
    refine ⟨_, ⟨h.isTarget, rfl⟩, _, ⟨h.isState, rfl⟩, _, ⟨h.isHandoff, rfl⟩, _,
      ⟨h.isIncident, rfl⟩, ⟨h.targetsOf, h.statesOf, h.handoffsOf, h.incidentsOf⟩,
      ⟨h.digests, h.stateIds, h.handoffIds⟩, ?_, h.states, ⟨h.roots, h.successors⟩, h.handoffs,
      h.incidents⟩
    intro t ht
    exact ⟨_, ⟨(h.derived t ht).1, rfl⟩, (h.derived t ht).2⟩

end PortableContent

/-! ### The insertions -/

namespace CustodyStore

variable {rt : CustodyRuntime} {s s' : CustodyStore}

/-- A target is inserted. -/
def addTarget (s : CustodyStore) (t : CustodyTarget) : CustodyStore :=
  { s with targets := s.targets ++ [t] }

/-- A state is inserted, as it is read back. -/
def addState (s : CustodyStore) (st : CustodyState) : CustodyStore :=
  { s with states := s.states ++ [st.canonical] }

/-- A handoff is inserted, as it is read back. -/
def addHandoff (s : CustodyStore) (h : CustodyHandoff) : CustodyStore :=
  { s with handoffs := s.handoffs ++ [h.canonical] }

/-- An incident is inserted. -/
def addIncident (s : CustodyStore) (i : CustodyIncident) : CustodyStore :=
  { s with incidents := s.incidents ++ [i] }

/-- The canonical limits hold of what an imported state is written as. -/
def AdmitsState (rt : CustodyRuntime) (st : CustodyState) : Prop :=
  rt.admits (.condition st.condition) = true ∧ rt.admits (.refs st.evidenceRefs) = true

/-- The canonical limits hold of what an imported handoff is written as. -/
def AdmitsHandoff (rt : CustodyRuntime) (h : CustodyHandoff) : Prop :=
  rt.admits (.condition h.condition) = true ∧ rt.admits (.refs h.evidenceRequirements) = true ∧
    rt.admits (.evidence h.acceptanceEvidence) = true

theorem importTarget_eq_ok {t : CustodyTarget} : s.importTarget rt t = .ok s' ↔
    (rt.admits (.target t.target) = true ∧ ∀ u ∈ s.targets,
      ¬ (u.workspaceId = t.workspaceId ∧ u.targetDigest = t.targetDigest)) ∧
        s.addTarget t = s' := by
  simp only [importTarget, bind_eq_ok, CustodyRuntime.assertCanonical_eq_ok, exists_const,
    insertTarget_eq_ok, and_assoc, addTarget]

theorem importState_eq_ok {st : CustodyState} : s.importState rt st = .ok s' ↔
    (AdmitsState rt st ∧ s.NewState st.canonical) ∧ s.addState st = s' := by
  simp only [importState, bind_eq_ok, CustodyRuntime.assertCanonical_eq_ok, exists_const,
    insertState_eq_ok, and_assoc, addState, AdmitsState]

theorem importHandoff_eq_ok {h : CustodyHandoff} : s.importHandoff rt h = .ok s' ↔
    ((AdmitsHandoff rt h ∧ s.FitsHandoff h.canonical) ∧ ∀ g ∈ s.handoffs, ¬ g.id = h.id) ∧
      s.addHandoff h = s' := by
  simp only [importHandoff, bind_eq_ok, CustodyRuntime.assertCanonical_eq_ok, exists_const,
    insertHandoff_eq_ok]
  constructor
  · rintro ⟨hcondition, hrefs, hevidence, hnew, rfl⟩
    exact ⟨⟨⟨⟨hcondition, hrefs, hevidence⟩, hnew.toFitsHandoff⟩, hnew.fresh⟩, rfl⟩
  · rintro ⟨⟨⟨⟨hcondition, hrefs, hevidence⟩, hfits⟩, hfresh⟩, rfl⟩
    exact ⟨hcondition, hrefs, hevidence, ⟨hfits, hfresh⟩, rfl⟩

theorem importIncident_eq_ok {i : CustodyIncident} : s.importIncident rt i = .ok s' ↔
    ((rt.admits (.refs i.evidenceRefs) = true ∧ s.FitsIncident i) ∧
      ∀ j ∈ s.incidents, ¬ j.id = i.id) ∧ s.addIncident i = s' := by
  simp only [importIncident, bind_eq_ok, CustodyRuntime.assertCanonical_eq_ok, exists_const,
    insertIncident_eq_ok]
  constructor
  · rintro ⟨hadmits, hnew, rfl⟩
    exact ⟨⟨⟨hadmits, hnew.toFitsIncident⟩, hnew.fresh⟩, rfl⟩
  · rintro ⟨⟨⟨hadmits, hfits⟩, hfresh⟩, rfl⟩
    exact ⟨hadmits, ⟨hfits, hfresh⟩, rfl⟩

/-! ### The passes over the states -/

/-- RULE: what each insertion of a state keeps, the passes keep until none remains. -/
theorem importNext_rule {I : CustodyStore → List CustodyState → Prop}
    (hI : ∀ t left st, I t left → st ∈ left → ¬ Waits left st → AdmitsState rt st →
      t.NewState st.canonical → I (t.addState st) (left.filter (·.id ≠ st.id)))
    {todo left left' : List CustodyState} (hids : (todo.map CustodyState.id).Nodup)
    (htodo : ∀ st ∈ todo, st ∈ left)
    (h : todo.foldlM (importNext rt) (s, left) = .ok (s', left')) (hs : I s left) :
    I s' left' ∧ left'.Sublist left := by
  induction todo generalizing s left with
  | nil =>
    obtain ⟨rfl, rfl⟩ := Prod.mk.inj (Except.ok.inj h)
    exact ⟨hs, List.Sublist.refl _⟩
  | cons st todo ih =>
    rw [List.foldlM_cons, bind_eq_ok] at h
    obtain ⟨⟨t, left₁⟩, hnext, hrest⟩ := h
    rw [List.map_cons, List.nodup_cons] at hids
    rw [importNext] at hnext
    by_cases hwaits : Waits left st
    · rw [if_pos hwaits, pure_eq_ok, Prod.mk.injEq] at hnext
      obtain ⟨rfl, rfl⟩ := hnext
      exact ih hids.2 (fun other hother => htodo other (.tail _ hother)) hrest hs
    · simp only [if_neg hwaits, bind_eq_ok, importState_eq_ok, pure_eq_ok, Prod.mk.injEq] at hnext
      obtain ⟨_, ⟨⟨hadmits, hnew⟩, rfl⟩, rfl, rfl⟩ := hnext
      have hleft : ∀ other ∈ todo, other ∈ left.filter (·.id ≠ st.id) := by
        intro other hother
        rw [List.mem_filter]
        refine ⟨htodo other (.tail _ hother), ?_⟩
        have hne : other.id ≠ st.id := by
          intro hid
          exact hids.1 (hid ▸ List.mem_map_of_mem hother)
        simpa using hne
      obtain ⟨hI', hsub⟩ := ih hids.2 hleft hrest
        (hI s left st hs (htodo st (.head _)) hwaits hadmits hnew)
      exact ⟨hI', hsub.trans List.filter_sublist⟩

/-- RULE, for all passes. -/
theorem importStates_rule {I : CustodyStore → List CustodyState → Prop}
    (hI : ∀ t left st, I t left → st ∈ left → ¬ Waits left st → AdmitsState rt st →
      t.NewState st.canonical → I (t.addState st) (left.filter (·.id ≠ st.id)))
    {fuel : ℕ} {left : List CustodyState} (hids : (left.map CustodyState.id).Nodup)
    (h : s.importStates rt fuel left = .ok s') (hs : I s left) : I s' [] := by
  induction fuel generalizing s left with
  | zero =>
    simp only [importStates, bind_eq_ok, refuse_eq_ok, exists_const, pure_eq_ok, ne_eq,
      not_not] at h
    obtain ⟨rfl, rfl⟩ := h
    exact hs
  | succ fuel ih =>
    rw [importStates] at h
    by_cases hnil : left = []
    · rw [if_pos hnil, pure_eq_ok] at h
      rw [← h, ← hnil]
      exact hs
    · simp only [if_neg hnil, bind_eq_ok, refuse_eq_ok, exists_const] at h
      obtain ⟨⟨t, left'⟩, hpass, -, hrest⟩ := h
      obtain ⟨hs', hsub⟩ := importNext_rule hI hids (fun _ hst => hst) hpass hs
      exact ih ((hsub.map _).nodup hids) hrest hs'

/-- RULE: when a state that does not wait can always be inserted, a pass goes through, and leaves
    fewer states if one of them did not wait. -/
theorem importNext_completes {I : CustodyStore → List CustodyState → Prop}
    (hI : ∀ t left st, I t left → st ∈ left → ¬ Waits left st →
      (AdmitsState rt st ∧ t.NewState st.canonical) ∧
        I (t.addState st) (left.filter (·.id ≠ st.id)))
    {todo left : List CustodyState} (hids : (todo.map CustodyState.id).Nodup)
    (htodo : ∀ st ∈ todo, st ∈ left) (hs : I s left) :
    ∃ s' left', todo.foldlM (importNext rt) (s, left) = .ok (s', left') ∧ I s' left' ∧
      left'.Sublist left ∧ ((∃ st ∈ todo, ¬ Waits left st) → left'.length < left.length) := by
  induction todo generalizing s left with
  | nil => exact ⟨s, left, rfl, hs, List.Sublist.refl _, by simp⟩
  | cons st todo ih =>
    rw [List.map_cons, List.nodup_cons] at hids
    have hrest : ∀ other ∈ todo, other.id ≠ st.id := by
      intro other hother hid
      exact hids.1 (hid ▸ List.mem_map_of_mem hother)
    rw [List.foldlM_cons]
    by_cases hwaits : Waits left st
    · obtain ⟨s', left', hfold, hs', hsub, hfewer⟩ :=
        ih hids.2 (fun other hother => htodo other (.tail _ hother)) hs
      refine ⟨s', left', ?_, hs', hsub, ?_⟩
      · rw [importNext, if_pos hwaits]
        exact hfold
      · rintro ⟨other, hother, hfree⟩
        rcases List.mem_cons.1 hother with rfl | hother
        · exact absurd hwaits hfree
        · exact hfewer ⟨other, hother, hfree⟩
    · have hmem := htodo st (.head _)
      obtain ⟨hinsert, hnext⟩ := hI s left st hs hmem hwaits
      have hleft : ∀ other ∈ todo, other ∈ left.filter (·.id ≠ st.id) := by
        intro other hother
        rw [List.mem_filter]
        exact ⟨htodo other (.tail _ hother), by simpa using hrest other hother⟩
      obtain ⟨s', left', hfold, hs', hsub, -⟩ := ih hids.2 hleft hnext
      refine ⟨s', left', ?_, hs', hsub.trans List.filter_sublist, fun _ => ?_⟩
      · rw [importNext, if_neg hwaits, importState_eq_ok.2 ⟨hinsert, rfl⟩, ok_bind]
        exact hfold
      · refine hsub.length_le.trans_lt ?_
        rw [List.length_filter_lt_length_iff_exists]
        exact ⟨st, hmem, by simp⟩

/-- RULE: when among the states that remain one never waits, the passes go through. -/
theorem importStates_completes {I : CustodyStore → List CustodyState → Prop}
    (hI : ∀ t left st, I t left → st ∈ left → ¬ Waits left st →
      (AdmitsState rt st ∧ t.NewState st.canonical) ∧
        I (t.addState st) (left.filter (·.id ≠ st.id)))
    (hfree : ∀ t left, I t left → left ≠ [] → ∃ st ∈ left, ¬ Waits left st) {fuel : ℕ}
    {left : List CustodyState} (hids : (left.map CustodyState.id).Nodup)
    (hfuel : left.length ≤ fuel) (hs : I s left) :
    ∃ s', s.importStates rt fuel left = .ok s' := by
  induction fuel generalizing s left with
  | zero =>
    obtain rfl := List.length_eq_zero_iff.1 (Nat.le_zero.1 hfuel)
    exact ⟨s, rfl⟩
  | succ fuel ih =>
    by_cases hnil : left = []
    · exact ⟨s, by rw [importStates, if_pos hnil]; rfl⟩
    · obtain ⟨t, left', hfold, ht, hsub, hfewer⟩ :=
        importNext_completes hI hids (fun _ hst => hst) hs
      have hlt := hfewer (hfree s left hs hnil)
      obtain ⟨s', hrest⟩ := ih ((hsub.map _).nodup hids) (by omega) ht
      refine ⟨s', ?_⟩
      rw [importStates, if_neg hnil, hfold, ok_bind]
      simp only [refuse_of_not _ hlt.ne, ok_bind]
      exact hrest

/-! ### What an import leaves -/

/-- The store that an import leaves: the rows of the document as they are read back, the states
    perhaps in another order. -/
structure Imported (rt : CustodyRuntime) (s : CustodyStore) (c : PortableContent)
    (s' : CustodyStore) : Prop where
  checked : Checked rt c
  targets : s'.targets = c.targets
  states : s'.states.Perm (c.states.map CustodyState.canonical)
  handoffs : s'.handoffs = c.handoffs.map CustodyHandoff.canonical
  incidents : s'.incidents = s.incidents ++ c.incidents
  idempotency : s'.idempotency = s.idempotency
  lines : s'.Lines
  linked : ∀ h ∈ c.handoffs, h.fromPrincipalId ≠ h.toPrincipalId ∧ h.offeredAt < h.expiresAt
  distinct : (c.incidents.map CustodyIncident.id).Nodup

theorem stateByIdentity_eq {c : PortableContent} (hids : (c.states.map CustodyState.id).Nodup)
    {id : String} {st : CustodyState} :
    c.stateByIdentity id = some st ↔ st ∈ c.states ∧ st.id = id := by
  constructor
  · intro h
    exact ⟨List.mem_of_find?_eq_some h, by simpa using List.find?_some h⟩
  · rintro ⟨hst, rfl⟩
    exact find?_of_nodup hids hst

theorem handoffByIdentity_eq {c : PortableContent}
    (hids : (c.handoffs.map CustodyHandoff.id).Nodup) {id : String} {h : CustodyHandoff} :
    c.handoffByIdentity id = some h ↔ h ∈ c.handoffs ∧ h.id = id := by
  constructor
  · intro hfound
    exact ⟨List.mem_of_find?_eq_some hfound, by simpa using List.find?_some hfound⟩
  · rintro ⟨hmem, rfl⟩
    exact find?_of_nodup hids hmem

/-- The state that another one succeeds is of the same target, as the document is checked. -/
theorem checked_digest {c : PortableContent} (hc : Checked rt c) {st source : CustodyState}
    (hst : st ∈ c.states) (hsource : source ∈ c.states)
    (hprev : st.predecessorStateId = some source.id) : source.targetDigest = st.targetDigest := by
  obtain ⟨predecessor, _, hfound, -, -, hdigest, -⟩ := (hc.states st hst).bound _ hprev
  rw [(stateByIdentity_eq hc.stateIds).2 ⟨hsource, rfl⟩] at hfound
  rw [Option.some.inj hfound]
  exact hdigest

/-- One state fewer remains, and it is the one that was inserted. -/
theorem perm_remaining {left : List CustodyState} {st : CustodyState}
    (hids : (left.map CustodyState.id).Nodup) (hst : st ∈ left) :
    left.Perm (st :: left.filter (·.id ≠ st.id)) := by
  have hnodup : left.Nodup := List.Nodup.of_map _ hids
  rw [List.perm_ext_iff_of_nodup hnodup]
  · intro other
    rw [List.mem_cons, List.mem_filter]
    constructor
    · intro hother
      by_cases heq : other = st
      · exact .inl heq
      · refine .inr ⟨hother, ?_⟩
        simpa using fun hid => heq (List.inj_on_of_nodup_map hids hother hst hid)
    · rintro (rfl | ⟨hother, -⟩)
      · exact hst
      · exact hother
  · rw [List.nodup_cons]
    exact ⟨by simp [List.mem_filter], hnodup.filter _⟩

/-- The passes keep the lines, and in the end every state of the document is inserted. -/
theorem importStates_lines {c : PortableContent} (hc : Checked rt c) (hs : s.Lines)
    (hempty : s.states = []) {fuel : ℕ} (h : s.importStates rt fuel c.states = .ok s') :
    s'.Lines ∧ ∃ states, states.Perm (c.states.map CustodyState.canonical) ∧
      s' = { s with states } := by
  let I (t : CustodyStore) (left : List CustodyState) : Prop :=
    t.Lines ∧ ∃ done : List CustodyState, (done ++ left).Perm c.states ∧
      t = { s with states := done.map CustodyState.canonical }
  have hend : I s' [] := by
    refine importStates_rule ?_ hc.stateIds h ⟨hs, [], List.Perm.refl _, ?_⟩
    · rintro t left st ⟨hlines, done, hperm, rfl⟩ hst - - hnew
      have hmem : ∀ x ∈ done ++ left, x ∈ c.states := fun x hx => hperm.mem_iff.1 hx
      have hids : ((done ++ left).map CustodyState.id).Nodup :=
        (hperm.map CustodyState.id).nodup_iff.2 hc.stateIds
      refine ⟨hlines.addState hnew ?_, done ++ [st], ?_, ?_⟩
      · intro other hother _ hprev
        obtain ⟨source, hsource, rfl⟩ := List.mem_map.1 hother
        have hdigest : source.targetDigest = st.targetDigest :=
          checked_digest hc (hmem st (List.mem_append_right _ hst))
            (hmem source (List.mem_append_left _ hsource)) hprev
        exact hdigest
      · rw [List.map_append, List.nodup_append] at hids
        have hleft := perm_remaining hids.2.1 hst
        rw [List.append_assoc, List.singleton_append]
        exact (hleft.symm.append_left done).trans hperm
      · rw [addState, List.map_append, List.map_singleton]
    · rw [List.map_nil, ← hempty]
  obtain ⟨hlines, done, hperm, rfl⟩ := hend
  rw [List.append_nil] at hperm
  exact ⟨hlines, _, hperm.map _, rfl⟩

theorem run_addTarget (ts : List CustodyTarget) :
    Run.run addTarget s ts = { s with targets := s.targets ++ ts } := by
  induction ts generalizing s with
  | nil => simp
  | cons t ts ih => rw [Run.run_cons, ih, addTarget, List.append_assoc, List.singleton_append]

theorem run_addHandoff (hs : List CustodyHandoff) : Run.run addHandoff s hs =
    { s with handoffs := s.handoffs ++ hs.map CustodyHandoff.canonical } := by
  induction hs generalizing s with
  | nil => simp
  | cons h hs ih =>
    rw [Run.run_cons, ih, addHandoff, List.append_assoc, List.singleton_append, List.map_cons]

theorem run_addIncident (is : List CustodyIncident) :
    Run.run addIncident s is = { s with incidents := s.incidents ++ is } := by
  induction is generalizing s with
  | nil => simp
  | cons i is ih => rw [Run.run_cons, ih, addIncident, List.append_assoc, List.singleton_append]

/-- EXACT: when the targets of a document go in. -/
theorem importTargets_eq_ok {ts : List CustodyTarget} :
    ts.foldlM (importTarget rt) s = .ok s' ↔
      ((∀ t ∈ ts, rt.admits (.target t.target) = true ∧ ∀ u ∈ s.targets,
          ¬ (u.workspaceId = t.workspaceId ∧ u.targetDigest = t.targetDigest)) ∧
        ts.Pairwise fun u t => ¬ (u.workspaceId = t.workspaceId ∧
          u.targetDigest = t.targetDigest)) ∧
      { s with targets := s.targets ++ ts } = s' := by
  rw [← run_addTarget]
  exact Load.foldlM_insert targets id
    (fun t u => u.workspaceId = t.workspaceId ∧ u.targetDigest = t.targetDigest)
    (fun _ _ _ => importTarget_eq_ok) (fun _ _ => rfl) (fun _ _ _ => Iff.rfl)

/-- EXACT: when the handoffs of a document go in. -/
theorem importHandoffs_eq_ok {hs : List CustodyHandoff} :
    hs.foldlM (importHandoff rt) s = .ok s' ↔
      ((∀ h ∈ hs, (AdmitsHandoff rt h ∧ s.FitsHandoff h.canonical) ∧
          ∀ g ∈ s.handoffs, g.id ≠ h.id) ∧
        hs.Pairwise fun g h => g.id ≠ h.id) ∧
      { s with handoffs := s.handoffs ++ hs.map CustodyHandoff.canonical } = s' := by
  rw [← run_addHandoff]
  have hfits : ∀ (s : CustodyStore) (g h : CustodyHandoff),
      AdmitsHandoff rt h ∧ (s.addHandoff g).FitsHandoff h.canonical ↔
        AdmitsHandoff rt h ∧ s.FitsHandoff h.canonical := by
    intro s g h
    refine and_congr_right fun _ => ?_
    constructor
    · exact fun h => ⟨h.apart, h.expires, h.lifecycle, h.target, h.source⟩
    · exact fun h => ⟨h.apart, h.expires, h.lifecycle, h.target, h.source⟩
  exact Load.foldlM_insert handoffs CustodyHandoff.canonical (fun h g => g.id = h.id)
    (fun _ _ _ => importHandoff_eq_ok) (fun _ _ => rfl) hfits

/-- EXACT: when the incidents of a document go in. -/
theorem importIncidents_eq_ok {is : List CustodyIncident} :
    is.foldlM (importIncident rt) s = .ok s' ↔
      ((∀ i ∈ is, (rt.admits (.refs i.evidenceRefs) = true ∧ s.FitsIncident i) ∧
          ∀ j ∈ s.incidents, j.id ≠ i.id) ∧
        is.Pairwise fun j i => j.id ≠ i.id) ∧
      { s with incidents := s.incidents ++ is } = s' := by
  rw [← run_addIncident]
  have hfits : ∀ (s : CustodyStore) (j i : CustodyIncident),
      rt.admits (.refs i.evidenceRefs) = true ∧ (s.addIncident j).FitsIncident i ↔
        rt.admits (.refs i.evidenceRefs) = true ∧ s.FitsIncident i := by
    intro s j i
    refine and_congr_right fun _ => ?_
    constructor
    · exact fun h => ⟨h.target, h.state⟩
    · exact fun h => ⟨h.target, h.state⟩
  exact Load.foldlM_insert incidents id (fun i j => j.id = i.id)
    (fun _ _ _ => importIncident_eq_ok) (fun _ _ => rfl) hfits

/-- What an import into an empty store found and left. -/
theorem importPortable_eq_ok {packet : CustodyPortable} {now : ℕ} (hs : s.Lines)
    (hhandoffs : s.targets = [] → s.handoffs = [])
    (h : s.importPortable rt packet now = .ok s') :
    s.targets = [] ∧ Imported rt s packet.toPortableContent s' := by
  simp only [importPortable, bind_eq_ok, CustodyRuntime.custodyDigest_eq_ok, refuse_eq_ok,
    exists_const, ne_eq, not_not] at h
  obtain ⟨_, -, -, _, hc, _, -, hempty, s₁, htargets, s₂, hstates, s₃, hrows, hincidents⟩ := h
  replace hc := PortableContent.check_eq_ok.1 hc
  have hlines : s₁.Lines := by
    obtain ⟨halong, rfl⟩ := (Run.foldlM_eq_ok (fun _ _ _ => importTarget_eq_ok)).1 htargets
    exact Run.run_invariant (fun _ _ ht hlines => hlines.addTarget ht.2) halong hs
  obtain ⟨-, rfl⟩ := importTargets_eq_ok.1 htargets
  have hnone : s.states = [] := hs.states_nil hempty
  obtain ⟨hlines, states, hperm, rfl⟩ := importStates_lines hc hlines hnone hstates
  obtain ⟨⟨hnew, -⟩, rfl⟩ := importHandoffs_eq_ok.1 hrows
  obtain ⟨⟨-, hdistinct⟩, rfl⟩ := importIncidents_eq_ok.1 hincidents
  refine ⟨hempty, hc, by simp [hempty], hperm, by simp [hhandoffs hempty], rfl, rfl, ?_, ?_,
    List.pairwise_map.2 hdistinct⟩
  · exact ⟨hlines.targets, hlines.ids, hlines.placed, hlines.chain⟩
  · intro h hh
    obtain ⟨⟨-, hfits⟩, -⟩ := hnew h hh
    exact ⟨hfits.apart, hfits.expires⟩

theorem Imported.mem_states {c : PortableContent} (h : Imported rt s c s') {st : CustodyState} :
    st ∈ s'.states ↔ ∃ row ∈ c.states, row.canonical = st := by
  rw [h.states.mem_iff, List.mem_map]

theorem Imported.mem_handoffs {c : PortableContent} (h : Imported rt s c s') {g : CustodyHandoff} :
    g ∈ s'.handoffs ↔ ∃ row ∈ c.handoffs, row.canonical = g := by
  rw [h.handoffs, List.mem_map]

/-- The state of an accepted handoff, as the document is checked. -/
theorem checked_stems {c : PortableContent} (hc : Checked rt c) {st : CustodyState}
    (hst : st ∈ c.states) (hprev : st.predecessorStateId ≠ none) :
    ∃ source ∈ c.states, ∃ h ∈ c.handoffs, Stems source h st := by
  obtain ⟨id, hid⟩ := Option.ne_none_iff_exists'.1 hprev
  obtain ⟨source, h, hsource, hbind, hstatus, hdigest, hhandoffDigest, hhandoffSource, haccepting,
    hcondition⟩ := (hc.states st hst).bound id hid
  obtain ⟨hmem, rfl⟩ := (stateByIdentity_eq hc.stateIds).1 hsource
  obtain ⟨handoffId, haccepted, hfound⟩ := Option.bind_eq_some_iff.1 hbind
  obtain ⟨hhandoff, rfl⟩ := (handoffByIdentity_eq hc.handoffIds).1 hfound
  obtain ⟨other, hother, -, hcustodian⟩ := (hc.handoffs h hhandoff).source
  obtain ⟨hothermem, hotherid⟩ := (stateByIdentity_eq hc.stateIds).1 hother
  have hsame : other = source :=
    List.inj_on_of_nodup_map hc.stateIds hothermem hmem (hotherid.trans hhandoffSource)
  refine ⟨source, hmem, h, hhandoff, ?_, hdigest, hid, haccepted, hstatus, ?_, hhandoffDigest,
    hhandoffSource, ?_, haccepting, hcondition⟩
  · rw [hc.statesOf source hmem, hc.statesOf st hst]
  · rw [hc.handoffsOf h hhandoff, hc.statesOf st hst]
  · rw [← hcustodian, hsame]

/-- STEP: an import leaves a lineage. -/
theorem Imported.lineage {c : PortableContent} (h : Imported rt s c s') : s'.Lineage := by
  have hc := h.checked
  refine { h.lines with rooted := ?_, handoffIds := ?_, stems := ?_, roots := ?_, concluded := ?_
                        sourced := ?_, lifecycle := ?_, apart := ?_, expires := ?_ }
  · intro t ht hnil
    rw [h.targets] at ht
    have hcount : 0 < c.rootsPerTarget t.targetDigest := by
      rw [hc.roots t ht]
      exact Nat.one_pos
    obtain ⟨root, hroot, hplace⟩ := List.countP_pos_iff.1 hcount
    rw [decide_eq_true_eq] at hplace
    have hmem : (root.id, root.canonical) ∈ s'.line t.workspaceId t.targetDigest :=
      mem_line.2 ⟨h.mem_states.2 ⟨root, hroot, rfl⟩,
        (hc.statesOf root hroot).trans (hc.targetsOf t ht).symm, hplace.2, rfl⟩
    rw [hnil] at hmem
    cases hmem
  · rw [h.handoffs, List.map_map]
    exact hc.handoffIds
  · intro st hst hprev
    obtain ⟨row, hrow, rfl⟩ := h.mem_states.1 hst
    obtain ⟨source, hsource, g, hg, hstems⟩ := checked_stems hc hrow hprev
    exact ⟨source.canonical, h.mem_states.2 ⟨source, hsource, rfl⟩, g.canonical,
      h.mem_handoffs.2 ⟨g, hg, rfl⟩, hstems.workspace, hstems.digest, hstems.predecessor,
      hstems.accepted, hstems.status, hstems.handoffWorkspace, hstems.handoffDigest,
      hstems.handoffSource, hstems.offering, hstems.accepting, hstems.condition⟩
  · intro st hst hroot
    obtain ⟨row, hrow, rfl⟩ := h.mem_states.1 hst
    exact (hc.states row hrow).root hroot
  · intro g hg haccepted
    obtain ⟨row, hrow, rfl⟩ := h.mem_handoffs.1 hg
    have hcount : 0 < c.statesPerAcceptedHandoff row.id := by
      rw [(hc.handoffs row hrow).succeeded haccepted]
      exact Nat.one_pos
    obtain ⟨st, hst, hsucceeds⟩ := List.countP_pos_iff.1 hcount
    rw [decide_eq_true_eq] at hsucceeds
    exact ⟨st.canonical, h.mem_states.2 ⟨st, hst, rfl⟩, hsucceeds.2⟩
  · intro g hg
    obtain ⟨row, hrow, rfl⟩ := h.mem_handoffs.1 hg
    obtain ⟨source, hfound, hdigest, hcustodian⟩ := (hc.handoffs row hrow).source
    obtain ⟨hsource, hid⟩ := (stateByIdentity_eq hc.stateIds).1 hfound
    exact ⟨source.canonical, h.mem_states.2 ⟨source, hsource, rfl⟩,
      (hc.statesOf source hsource).trans (hc.handoffsOf row hrow).symm, hid, hdigest, hcustodian⟩
  · intro g hg
    obtain ⟨row, hrow, rfl⟩ := h.mem_handoffs.1 hg
    exact (hc.handoffs row hrow).lifecycle
  · intro g hg
    obtain ⟨row, hrow, rfl⟩ := h.mem_handoffs.1 hg
    exact (h.linked row hrow).1
  · intro g hg
    obtain ⟨row, hrow, rfl⟩ := h.mem_handoffs.1 hg
    exact (h.linked row hrow).2

/-- A store without targets holds no handoff. -/
theorem Lineage.handoffs_nil (hs : s.Lineage) (hempty : s.targets = []) : s.handoffs = [] := by
  rw [List.eq_nil_iff_forall_not_mem]
  intro h hh
  obtain ⟨source, hsource, -⟩ := hs.sourced h hh
  obtain ⟨t, ht, -⟩ := hs.placed source hsource
  rw [hempty] at ht
  cases ht

/-! ### Runs -/

/-- STEP: no call breaks the lineage. -/
theorem Lineage.step (hs : s.Lineage) (action : CustodyAction) : (step rt s action).Lineage := by
  unfold CustodyStore.step
  cases action with
  | establish input context now id =>
    refine settle_fst_rule hs fun s' st hcall => ?_
    obtain rfl | ⟨ctx, t, row, -, hestablishes, rfl⟩ := establish_eq_ok hcall
    · exact hs
    · exact (hs.establishes hestablishes).replays _
  | offer input context now id =>
    refine settle_fst_rule hs fun s' h hcall => ?_
    obtain rfl | ⟨ctx, source, row, -, hoffers, rfl⟩ := offer_eq_ok hcall
    · exact hs
    · exact (hs.offers hoffers).replays _
  | accept handoffId input context now stateId =>
    refine settle_fst_rule hs fun s' result hcall => ?_
    obtain rfl | ⟨ctx, h, evidence, row, -, haccepts, rfl⟩ := accept_eq_ok hcall
    · exact hs
    · exact (hs.accepts haccepts).replays _
  | refuse handoffId revision reason context now =>
    refine settle_fst_rule hs fun s' result hcall => ?_
    obtain rfl | ⟨ctx, h, reason, row, -, hrefuses, rfl⟩ := refuseHandoff_eq_ok hcall
    · exact hs
    · exact (hs.refuses hrefuses).replays _
  | reportIncident input context now id =>
    refine settle_fst_rule hs fun s' result hcall => ?_
    obtain rfl | ⟨row, -, rfl⟩ := reportIncident_eq_ok hcall
    · exact hs
    · exact { hs with }
  | importPortable packet now =>
    refine settle_rule hs fun s' hcall => ?_
    exact (importPortable_eq_ok hs.toLines hs.handoffs_nil hcall).2.lineage

/-- RUN: every store that calls make of an empty one has a lineage. -/
theorem lineage_run (actions : List CustodyAction) : (run rt .empty actions).Lineage :=
  Run.run_invariant' (fun _ action hs => hs.step action) actions lineage_empty

end CustodyStore

end Tasq.Custody
