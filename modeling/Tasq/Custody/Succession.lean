import Mathlib.Tactic
import Tasq.Custody.Import

/-! Who moves custody. A handoff is new only when the custodian of a leaf offers it, and becomes
    accepted only when its recipient accepts it while the leaf is still there; what is accepted
    stays as it is. With the lineage, custody of a target is linear over every run. -/

namespace Tasq.Custody.CustodyStore

open Text Outcome Rows Chain

variable {rt : CustodyRuntime} {s : CustodyStore}

section

variable (s)

/-- The state is recorded, and none succeeds it. -/
def IsLeaf (st : CustodyState) : Prop :=
  st ∈ s.states ∧ ∀ other ∈ s.states, other.workspaceId = st.workspaceId →
    other.predecessorStateId ≠ some st.id

/-- The state is recorded of the target. -/
def IsOf (t : CustodyTarget) (st : CustodyState) : Prop :=
  st ∈ s.states ∧ st.workspaceId = t.workspaceId ∧ st.targetDigest = t.targetDigest

/-- The states of a target are one chain, with one root and one leaf. -/
structure Linear (t : CustodyTarget) : Prop where
  chain : IsChain CustodyState.predecessorStateId (s.line t.workspaceId t.targetDigest)
  root : ∃! st, s.IsOf t st ∧ st.predecessorStateId = none
  leaf : ∃! st, s.IsOf t st ∧ s.IsLeaf st

/-- The call is an import into a store without targets. -/
def Imports (action : CustodyAction) : Prop :=
  s.targets = [] ∧ ∃ packet now, action = .importPortable packet now

/-- The call is an acceptance of the handoff by its recipient, in time, at the leaf. -/
def AcceptsAtLeaf (action : CustodyAction) (h : CustodyHandoff) : Prop :=
  ∃ handoffId input context now stateId, action = .accept handoffId input context now stateId ∧
    h.toPrincipalId = jsTrim context.actorPrincipalId ∧ now < h.expiresAt ∧
    (∃ g ∈ s.handoffs, g.id = h.id ∧ g.status = .offered) ∧
    ∃ source, s.IsLeaf source ∧ Sourced source h

/-- The call is an offer of the handoff by the custodian of the leaf. -/
def OffersAtLeaf (action : CustodyAction) (h : CustodyHandoff) : Prop :=
  ∃ input context now id, action = .offer input context now id ∧
    h.fromPrincipalId = jsTrim context.actorPrincipalId ∧ h.status = .offered ∧
    ∃ source, s.IsLeaf source ∧ Sourced source h

end

/-- What a handoff offers is at the leaf, when nothing succeeds its source. -/
theorem isLeaf_of_sourced {source : CustodyState} {h : CustodyHandoff} (hmem : source ∈ s.states)
    (hsourced : Sourced source h) (hfree : ∀ st ∈ s.states, st.workspaceId = h.workspaceId →
      st.predecessorStateId ≠ some h.sourceStateId) : s.IsLeaf source := by
  refine ⟨hmem, fun other hother hw => ?_⟩
  rw [hsourced.identity]
  exact hfree other hother (hw.trans hsourced.workspace)

/-- An acceptance finds its source at the leaf. -/
theorem Lineage.accepts_leaf (hs : s.Lineage) {actor : String} {now : ℕ} {h : CustodyHandoff}
    {evidence : List AcceptanceEvidence} {st : CustodyState}
    (haccepts : s.Accepts actor now h evidence st) :
    ∃ source, s.IsLeaf source ∧ Sourced source h := by
  obtain ⟨source, hsource, hsourced, -⟩ := hs.accepts_stems haccepts
  refine ⟨source, isLeaf_of_sourced hsource hsourced fun other hother hw hprev => ?_, hsourced⟩
  refine haccepts.state.fresh other hother (.inr ⟨hw.trans haccepts.workspace.symm, .inr ⟨?_, ?_⟩⟩)
  · simp [haccepts.predecessor]
  · rw [hprev, haccepts.predecessor]

/-- What a call may do to states and handoffs: nothing recorded is lost, an accepted handoff stays
    as it is, and every other handoff comes from an offer or a decision. -/
structure Moved (s : CustodyStore) (action : CustodyAction) (s' : CustodyStore) : Prop where
  states : ∀ st ∈ s.states, st ∈ s'.states
  accepted : ∀ h ∈ s.handoffs, h.status = .accepted → h ∈ s'.handoffs
  handoffs : ∀ h ∈ s'.handoffs, h ∈ s.handoffs ∨ s.Imports action ∨ s.OffersAtLeaf action h ∨
    (h.status = .accepted ∧ s.AcceptsAtLeaf action h) ∨
      h.status = .refused ∧ ∃ g ∈ s.handoffs, g.id = h.id

theorem moved_refl (action : CustodyAction) : Moved s action s :=
  ⟨fun _ hst => hst, fun _ hh _ => hh, fun _ hh => .inl hh⟩

/-- A decision leaves accepted handoffs as they are. -/
theorem decided_keeps (hs : s.Lineage) {h : CustodyHandoff} (hmem : h ∈ s.handoffs)
    (hoffered : h.status = .offered) {f : CustodyHandoff → CustodyHandoff} {g : CustodyHandoff}
    (hg : g ∈ s.handoffs) (haccepted : g.status = .accepted) :
    g ∈ s.handoffs.map (decidedRow h.workspaceId h.id h.revision f) := by
  refine (mem_decided hs.handoffIds hmem hoffered).2 (.inr ⟨hg, ?_⟩)
  rintro rfl
  rw [haccepted] at hoffered
  cases hoffered

/-- STEP: how every call moves states and handoffs. -/
theorem Lineage.step_moved (hs : s.Lineage) (action : CustodyAction) :
    Moved s action (CustodyStore.step rt s action) := by
  unfold CustodyStore.step
  cases action with
  | establish input context now id =>
    refine settle_fst_rule (moved_refl _) fun s' st hcall => ?_
    obtain rfl | ⟨ctx, t, row, -, -, rfl⟩ := establish_eq_ok hcall
    · exact moved_refl _
    · exact ⟨fun _ hst => List.mem_append_left _ hst, fun _ hh _ => hh, fun _ hh => .inl hh⟩
  | offer input context now id =>
    refine settle_fst_rule (moved_refl _) fun s' g hcall => ?_
    obtain rfl | ⟨ctx, source, row, hctx, hoffers, rfl⟩ := offer_eq_ok hcall
    · exact moved_refl _
    · refine ⟨fun _ hst => hst, fun _ hh _ => List.mem_append_left _ hh, fun h hh => ?_⟩
      rcases List.mem_append.1 hh with hh | hh
      · exact .inl hh
      · rw [List.mem_singleton.1 hh]
        have hsourced : Sourced source g :=
          ⟨hoffers.workspace, hoffers.identity, hoffers.digest, hoffers.custodian⟩
        exact .inr (.inr (.inl ⟨input, context, now, id, rfl,
          hoffers.offering.trans (context_eq_ok hctx).2, hoffers.status, source,
          isLeaf_of_sourced hoffers.recordedSource hsourced hoffers.current, hsourced⟩))
  | accept handoffId input context now stateId =>
    refine settle_fst_rule (moved_refl _) fun s' result hcall => ?_
    obtain rfl | ⟨ctx, g, evidence, row, hctx, haccepts, rfl⟩ := accept_eq_ok hcall
    · exact moved_refl _
    · refine ⟨fun _ hst => List.mem_append_left _ hst,
        fun _ hh => decided_keeps hs haccepts.handoff haccepts.offered hh, fun h hh => ?_⟩
      rcases (mem_decided hs.handoffIds haccepts.handoff haccepts.offered).1 hh with rfl | ⟨hh, -⟩
      · obtain ⟨source, hleaf, hsourced⟩ := hs.accepts_leaf haccepts
        exact .inr (.inr (.inr (.inl ⟨rfl, handoffId, input, context, now, stateId, rfl,
          haccepts.recipient.trans (context_eq_ok hctx).2, haccepts.live,
          ⟨g, haccepts.handoff, rfl, haccepts.offered⟩, source, hleaf,
          (sameOffer_accepted evidence now g).sourced hsourced⟩)))
      · exact .inl hh
  | refuse handoffId revision reason context now =>
    refine settle_fst_rule (moved_refl _) fun s' result hcall => ?_
    obtain rfl | ⟨ctx, g, reason, row, -, hrefuses, rfl⟩ := refuseHandoff_eq_ok hcall
    · exact moved_refl _
    · refine ⟨fun _ hst => hst,
        fun _ hh => decided_keeps hs hrefuses.handoff hrefuses.offered hh, fun h hh => ?_⟩
      rcases (mem_decided hs.handoffIds hrefuses.handoff hrefuses.offered).1 hh with rfl | ⟨hh, -⟩
      · exact .inr (.inr (.inr (.inr ⟨rfl, g, hrefuses.handoff, rfl⟩)))
      · exact .inl hh
  | reportIncident input context now id =>
    refine settle_fst_rule (moved_refl _) fun s' result hcall => ?_
    obtain rfl | ⟨row, -, rfl⟩ := reportIncident_eq_ok hcall
    · exact moved_refl _
    · exact ⟨fun _ hst => hst, fun _ hh _ => hh, fun _ hh => .inl hh⟩
  | importPortable packet now =>
    refine settle_rule (moved_refl _) fun s' hcall => ?_
    have hempty := (importPortable_eq_ok hs.toLines hs.handoffs_nil hcall).1
    have hnone : s.states = [] := hs.toLines.states_nil hempty
    exact ⟨by simp [hnone], by simp [hs.handoffs_nil hempty],
      fun h _ => .inr (.inl ⟨hempty, packet, now, rfl⟩)⟩

/-! ### Linear custody -/

/-- With a lineage, the states of a target are one chain with one root and one leaf. -/
theorem Lineage.linear (hs : s.Lineage) {t : CustodyTarget} (ht : t ∈ s.targets) : s.Linear t := by
  have hchain := hs.chain t.workspaceId t.targetDigest
  have hof : ∀ st, s.IsOf t st ↔ (st.id, st) ∈ s.line t.workspaceId t.targetDigest := by
    intro st
    rw [mem_line]
    exact ⟨fun h => ⟨h.1, h.2.1, h.2.2, rfl⟩, fun h => ⟨h.1, h.2.1, h.2.2.1⟩⟩
  refine ⟨hchain, ?_, ?_⟩
  · obtain ⟨x, xs, hline⟩ := List.exists_cons_of_ne_nil (hs.rooted t ht)
    have hx : x ∈ s.line t.workspaceId t.targetDigest := hline ▸ List.mem_cons_self
    have hlinked := hchain.linked
    rw [hline] at hlinked
    have hkey : (x.2.id, x.2) = x := Prod.ext (mem_line.1 hx).2.2.2.symm rfl
    refine ⟨x.2, ⟨(hof x.2).2 (hkey ▸ hx), hlinked.1⟩, ?_⟩
    rintro st ⟨hst, hroot⟩
    exact congrArg Prod.snd (hchain.injOn ((hof st).1 hst) hx (hroot.trans hlinked.1.symm))
  · obtain ⟨x, hlast⟩ : ∃ x, (s.line t.workspaceId t.targetDigest).getLast? = some x :=
      Option.ne_none_iff_exists'.1 (by simpa using hs.rooted t ht)
    have hx := List.mem_of_getLast? hlast
    obtain ⟨hmem, hw, hd, hid⟩ := mem_line.1 hx
    have hleaf : ∀ st, s.IsOf t st → (s.IsLeaf st ↔
        (s.line t.workspaceId t.targetDigest).getLast? = some (st.id, st)) := by
      intro st hst
      rw [← hchain.unsuperseded_iff ((hof st).1 hst)]
      constructor
      · intro hst' y hy
        obtain ⟨hy, hyw, -, -⟩ := mem_line.1 hy
        exact hst'.2 y.2 hy (hyw.trans hst.2.1.symm)
      · intro hfree
        refine ⟨hst.1, fun other hother hotherw hprev => ?_⟩
        -- whatever succeeds the state is of the same target
        obtain ⟨source, hsource, h, -, hstems⟩ := hs.stems other hother (by simp [hprev])
        have hsame : source = st := hs.state_ext hsource hst.1
          (Option.some.inj (hstems.predecessor.symm.trans hprev))
        refine hfree (other.id, other) (mem_line.2 ⟨hother, hotherw.trans hst.2.1, ?_, rfl⟩) hprev
        rw [← hstems.digest, hsame]
        exact hst.2.2
    have hofx : s.IsOf t x.2 := ⟨hmem, hw, hd⟩
    refine ⟨x.2, ⟨hofx, (hleaf x.2 hofx).2 (hlast.trans (by rw [← hid]))⟩, ?_⟩
    rintro st ⟨hst, hstleaf⟩
    have hstlast := (hleaf st hst).1 hstleaf
    rw [hlast, Option.some.injEq] at hstlast
    rw [hstlast]

/-- Two states do not stem from one handoff. -/
theorem Lineage.accepted_once (hs : s.Lineage) {a b : CustodyState} (ha : a ∈ s.states)
    (hb : b ∈ s.states) (haccepted : a.acceptedHandoffId ≠ none)
    (hab : a.acceptedHandoffId = b.acceptedHandoffId) : a = b := by
  have hprev : ∀ st ∈ s.states, st.acceptedHandoffId ≠ none → st.predecessorStateId ≠ none :=
    fun st hst h hroot => h (hs.roots st hst hroot)
  obtain ⟨source, hsource, h, hh, hstems⟩ := hs.stems a ha (hprev a ha haccepted)
  obtain ⟨source', hsource', h', hh', hstems'⟩ := hs.stems b hb (hprev b hb (hab ▸ haccepted))
  have hsame : h = h' := hs.handoff_ext hh hh'
    (Option.some.inj (hstems.accepted.symm.trans (hab.trans hstems'.accepted)))
  have hplace : a.workspaceId = b.workspaceId ∧ a.targetDigest = b.targetDigest := by
    rw [← hstems.handoffWorkspace, ← hstems.handoffDigest, hsame]
    exact ⟨hstems'.handoffWorkspace, hstems'.handoffDigest⟩
  have hx : (a.id, a) ∈ s.line b.workspaceId b.targetDigest :=
    mem_line.2 ⟨ha, hplace.1, hplace.2, rfl⟩
  have hy : (b.id, b) ∈ s.line b.workspaceId b.targetDigest := mem_line.2 ⟨hb, rfl, rfl, rfl⟩
  have hxy : a.predecessorStateId = b.predecessorStateId := by
    rw [hstems.predecessor, hstems'.predecessor, ← hstems.handoffSource, hsame,
      hstems'.handoffSource]
  exact congrArg Prod.snd ((hs.chain _ _).injOn hx hy hxy)

/-- CORRECT: over every run of calls, the states of each target are one chain with one root and one
    leaf; every state after the root stems from an accepted handoff that the custodian of its
    predecessor offered to its own custodian, and no two from the same; and a further call accepts
    a handoff only for its recipient, only while it is offered, and only at the leaf. -/
theorem custody_lineage (rt : CustodyRuntime) (actions : List CustodyAction) :
    (∀ t ∈ (run rt .empty actions).targets, (run rt .empty actions).Linear t) ∧
      (∀ st ∈ (run rt .empty actions).states, st.predecessorStateId ≠ none →
        ∃ source ∈ (run rt .empty actions).states, ∃ h ∈ (run rt .empty actions).handoffs,
          Stems source h st) ∧
      (∀ a ∈ (run rt .empty actions).states, ∀ b ∈ (run rt .empty actions).states,
        a.acceptedHandoffId ≠ none → a.acceptedHandoffId = b.acceptedHandoffId → a = b) ∧
      ∀ action, Moved (run rt .empty actions) action
        (CustodyStore.step rt (run rt .empty actions) action) := by
  have hs : (run rt .empty actions).Lineage := lineage_run actions
  exact ⟨fun t ht => hs.linear ht, hs.stems, fun a ha b hb => hs.accepted_once ha hb,
    hs.step_moved⟩

end Tasq.Custody.CustodyStore
