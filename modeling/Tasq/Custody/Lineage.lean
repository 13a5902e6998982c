import Mathlib.Tactic
import Tasq.Custody.System
import Tasq.Lib.Chain

/-! The lineage of custody: the states of a target are a chain with one root and one leaf, and every
    state after the root stems from a handoff that the custodian of its predecessor offered to its
    own custodian. Each operation keeps the lineage. -/

namespace Tasq.Custody.CustodyStore

open Outcome Rows Chain

variable {rt : CustodyRuntime} {s s' : CustodyStore}

/-! ### Lines -/

section

variable (s)

/-- The states of a target, oldest first. -/
def line (w : String) (d : Digest) : List (String × CustodyState) :=
  (s.states.filter fun st => st.workspaceId = w ∧ st.targetDigest = d).map fun st => (st.id, st)

/-- INVARIANT: targets and states are told apart by their keys, every state has its target, and the
    states of a target are a chain. -/
structure Lines : Prop where
  targets : (s.targets.map fun t => (t.workspaceId, t.targetDigest)).Nodup
  ids : (s.states.map CustodyState.id).Nodup
  placed : ∀ st ∈ s.states, s.HasTarget st.workspaceId st.targetDigest
  chain : ∀ w d, IsChain CustodyState.predecessorStateId (s.line w d)

end

theorem mem_line {w : String} {d : Digest} {x : String × CustodyState} :
    x ∈ s.line w d ↔
      x.2 ∈ s.states ∧ x.2.workspaceId = w ∧ x.2.targetDigest = d ∧ x.1 = x.2.id := by
  simp only [line, List.mem_map, List.mem_filter, decide_eq_true_eq]
  constructor
  · rintro ⟨st, ⟨hst, hw, hd⟩, rfl⟩
    exact ⟨hst, hw, hd, rfl⟩
  · rintro ⟨hst, hw, hd, hid⟩
    exact ⟨x.2, ⟨hst, hw, hd⟩, Prod.ext hid.symm rfl⟩

theorem line_concat (st : CustodyState) (w : String) (d : Digest) :
    ({ s with states := s.states ++ [st] } : CustodyStore).line w d =
      s.line w d ++ if st.workspaceId = w ∧ st.targetDigest = d then [(st.id, st)] else [] := by
  unfold line
  rw [List.filter_append, List.map_append]
  congr 1
  by_cases h : st.workspaceId = w ∧ st.targetDigest = d <;> simp [h]

/-- The states of an empty table are no line. -/
theorem lines_empty (h : s.states = []) (ht : s.targets = []) : s.Lines where
  targets := by simp [ht]
  ids := by simp [h]
  placed := by simp [h]
  chain w d := by
    rw [line, h]
    exact isChain_nil

/-- A store without targets holds no state. -/
theorem Lines.states_nil (hs : s.Lines) (hempty : s.targets = []) : s.states = [] := by
  rw [List.eq_nil_iff_forall_not_mem]
  intro st hst
  obtain ⟨t, ht, -⟩ := hs.placed st hst
  rw [hempty] at ht
  cases ht

/-- STEP: a target that is new keeps the lines. -/
theorem Lines.addTarget (hs : s.Lines) {t : CustodyTarget}
    (hfresh : ∀ u ∈ s.targets, ¬ (u.workspaceId = t.workspaceId ∧
      u.targetDigest = t.targetDigest)) :
    ({ s with targets := s.targets ++ [t] } : CustodyStore).Lines where
  targets := by
    rw [List.map_append, List.nodup_append]
    refine ⟨hs.targets, by simp, ?_⟩
    intro k hk k' hk' heq
    obtain ⟨u, hu, rfl⟩ := List.mem_map.1 hk
    rw [List.map_singleton, List.mem_singleton] at hk'
    exact hfresh u hu (Prod.mk.inj (heq.trans hk'))
  ids := hs.ids
  placed st hst := by
    obtain ⟨u, hu, hkey⟩ := hs.placed st hst
    exact ⟨u, List.mem_append_left _ hu, hkey⟩
  chain := hs.chain

/-- What a new state succeeds is the last state of its line. -/
theorem Lines.predecessor_eq (hs : s.Lines) {st : CustodyState} (hnew : s.NewState st)
    (hsame : ∀ source ∈ s.states, source.workspaceId = st.workspaceId →
      st.predecessorStateId = some source.id → source.targetDigest = st.targetDigest) :
    st.predecessorStateId = lastKey (s.line st.workspaceId st.targetDigest) := by
  have hchain := hs.chain st.workspaceId st.targetDigest
  cases hprev : st.predecessorStateId with
  | none =>
    -- a root finds no other root, so its line is empty
    rcases hline : s.line st.workspaceId st.targetDigest with _ | ⟨x, xs⟩
    · rfl
    · have hx : x ∈ s.line st.workspaceId st.targetDigest := hline ▸ List.mem_cons_self
      obtain ⟨hmem, hw, hd, -⟩ := mem_line.1 hx
      have hroot : x.2.predecessorStateId = none := by
        have hlinked := hchain.linked
        rw [hline] at hlinked
        exact hlinked.1
      exact absurd (.inr ⟨hw, .inl ⟨hprev, hroot, hd⟩⟩) (hnew.fresh x.2 hmem)
  | some p =>
    -- a successor is the first one of its predecessor
    obtain ⟨source, hsource, hw, hid⟩ := hnew.predecessor p hprev
    have hx : (source.id, source) ∈ s.line st.workspaceId st.targetDigest :=
      mem_line.2 ⟨hsource, hw, hsame source hsource hw (hid ▸ hprev), rfl⟩
    have hfree : ∀ y ∈ s.line st.workspaceId st.targetDigest,
        y.2.predecessorStateId ≠ some source.id := by
      intro y hy hsup
      obtain ⟨hmem, hyw, -, -⟩ := mem_line.1 hy
      refine hnew.fresh y.2 hmem (.inr ⟨hyw, .inr ⟨?_, ?_⟩⟩)
      · simp [hprev]
      · rw [hsup, hprev, hid]
    rw [lastKey, (hchain.unsuperseded_iff hx).1 hfree, Option.map_some, hid]

/-- STEP: a state that succeeds one of its own target keeps the lines. -/
theorem Lines.addState (hs : s.Lines) {st : CustodyState} (hnew : s.NewState st)
    (hsame : ∀ source ∈ s.states, source.workspaceId = st.workspaceId →
      st.predecessorStateId = some source.id → source.targetDigest = st.targetDigest) :
    ({ s with states := s.states ++ [st] } : CustodyStore).Lines where
  targets := hs.targets
  ids := by
    rw [List.map_append, List.nodup_append]
    refine ⟨hs.ids, by simp, ?_⟩
    intro k hk k' hk' heq
    obtain ⟨other, hother, rfl⟩ := List.mem_map.1 hk
    rw [List.map_singleton, List.mem_singleton] at hk'
    exact hnew.fresh other hother (.inl (heq.trans hk'))
  placed other hother := by
    rcases List.mem_append.1 hother with hother | hother
    · exact hs.placed other hother
    · rw [List.mem_singleton.1 hother]
      exact hnew.target
  chain w d := by
    rw [line_concat]
    by_cases hplace : st.workspaceId = w ∧ st.targetDigest = d
    · obtain ⟨rfl, rfl⟩ := hplace
      rw [if_pos ⟨rfl, rfl⟩]
      refine (hs.chain _ _).concat ?_ (hs.predecessor_eq hnew hsame)
      intro hmem
      obtain ⟨x, hx, hid⟩ := List.mem_map.1 hmem
      obtain ⟨hother, -, -, hkey⟩ := mem_line.1 hx
      exact hnew.fresh x.2 hother (.inl (hkey.symm.trans hid))
    · rw [if_neg hplace, List.append_nil]
      exact hs.chain w d

/-! ### The lineage -/

/-- The state stems from a handoff: the custodian of its predecessor offered it, and its own
    custodian accepted. -/
structure Stems (source : CustodyState) (h : CustodyHandoff) (st : CustodyState) : Prop where
  workspace : source.workspaceId = st.workspaceId
  digest : source.targetDigest = st.targetDigest
  predecessor : st.predecessorStateId = some source.id
  accepted : st.acceptedHandoffId = some h.id
  status : h.status = .accepted
  handoffWorkspace : h.workspaceId = st.workspaceId
  handoffDigest : h.targetDigest = st.targetDigest
  handoffSource : h.sourceStateId = source.id
  offering : h.fromPrincipalId = source.custodianPrincipalId
  accepting : h.toPrincipalId = st.custodianPrincipalId
  condition : h.conditionDigest = st.conditionDigest

/-- A handoff is one of the custody that its source records. -/
structure Sourced (source : CustodyState) (h : CustodyHandoff) : Prop where
  workspace : source.workspaceId = h.workspaceId
  identity : source.id = h.sourceStateId
  digest : source.targetDigest = h.targetDigest
  custodian : source.custodianPrincipalId = h.fromPrincipalId

variable (s) in
/-- INVARIANT: the lines, with what their states and the handoffs say of each other. -/
structure Lineage : Prop extends s.Lines where
  rooted : ∀ t ∈ s.targets, s.line t.workspaceId t.targetDigest ≠ []
  handoffIds : (s.handoffs.map CustodyHandoff.id).Nodup
  stems : ∀ st ∈ s.states, st.predecessorStateId ≠ none →
    ∃ source ∈ s.states, ∃ h ∈ s.handoffs, Stems source h st
  roots : ∀ st ∈ s.states, st.predecessorStateId = none → st.acceptedHandoffId = none
  concluded : ∀ h ∈ s.handoffs, h.status = .accepted →
    ∃ st ∈ s.states, st.acceptedHandoffId = some h.id
  sourced : ∀ h ∈ s.handoffs, ∃ source ∈ s.states, Sourced source h
  lifecycle : ∀ h ∈ s.handoffs, h.Lifecycle
  apart : ∀ h ∈ s.handoffs, h.fromPrincipalId ≠ h.toPrincipalId
  expires : ∀ h ∈ s.handoffs, h.offeredAt < h.expiresAt

theorem lineage_empty : CustodyStore.empty.Lineage where
  toLines := lines_empty rfl rfl
  rooted := by simp [CustodyStore.empty]
  handoffIds := by simp [CustodyStore.empty]
  stems := by simp [CustodyStore.empty]
  roots := by simp [CustodyStore.empty]
  concluded := by simp [CustodyStore.empty]
  sourced := by simp [CustodyStore.empty]
  lifecycle := by simp [CustodyStore.empty]
  apart := by simp [CustodyStore.empty]
  expires := by simp [CustodyStore.empty]

/-- A table of replays is no part of the lineage. -/
theorem Lineage.replays (hs : s.Lineage) (rows : List CustodyReplay) :
    ({ s with idempotency := rows } : CustodyStore).Lineage :=
  { hs with }

/-- A state is told by its id. -/
theorem Lines.state_ext (hs : s.Lines) {a b : CustodyState} (ha : a ∈ s.states) (hb : b ∈ s.states)
    (hid : a.id = b.id) : a = b :=
  List.inj_on_of_nodup_map hs.ids ha hb hid

/-- A handoff is told by its id. -/
theorem Lineage.handoff_ext (hs : s.Lineage) {a b : CustodyHandoff} (ha : a ∈ s.handoffs)
    (hb : b ∈ s.handoffs) (hid : a.id = b.id) : a = b :=
  List.inj_on_of_nodup_map hs.handoffIds ha hb hid

/-! ### The operations -/

/-- STEP: a target that is established with its root keeps the lineage. -/
theorem Lineage.establishes (hs : s.Lineage) {actor : String} {t : CustodyTarget} {st : CustodyState}
    (h : s.Establishes rt actor t st) :
    ({ s with targets := s.targets ++ [t], states := s.states ++ [st] } : CustodyStore).Lineage := by
  have hlines := (hs.toLines.addTarget h.fresh).addState h.state fun source _ _ hprev => by
    rw [h.root] at hprev
    cases hprev
  have hline : ∀ w d, _ = _ := line_concat (s := { s with targets := s.targets ++ [t] }) st
  refine { hlines with handoffIds := hs.handoffIds, lifecycle := hs.lifecycle
                       apart := hs.apart, expires := hs.expires, rooted := ?_, stems := ?_
                       roots := ?_, concluded := ?_, sourced := ?_ }
  · intro u hu
    rw [hline]
    rcases List.mem_append.1 hu with hu | hu
    · exact List.append_ne_nil_of_left_ne_nil (hs.rooted u hu) _
    · rw [List.mem_singleton.1 hu, if_pos ⟨h.workspace, h.digest⟩]
      exact List.append_ne_nil_of_right_ne_nil _ (List.cons_ne_nil _ _)
  · intro other hother hprev
    rcases List.mem_append.1 hother with hother | hother
    · obtain ⟨source, hsource, g, hg, hstems⟩ := hs.stems other hother hprev
      exact ⟨source, List.mem_append_left _ hsource, g, hg, hstems⟩
    · rw [List.mem_singleton.1 hother] at hprev
      exact absurd h.root hprev
  · intro other hother hroot
    rcases List.mem_append.1 hother with hother | hother
    · exact hs.roots other hother hroot
    · rw [List.mem_singleton.1 hother]
      have hlinked := h.state.linked
      rw [h.root] at hlinked
      exact Option.isNone_iff_eq_none.1 (by simpa using hlinked.symm)
  · intro g hg haccepted
    obtain ⟨other, hother, hid⟩ := hs.concluded g hg haccepted
    exact ⟨other, List.mem_append_left _ hother, hid⟩
  · intro g hg
    obtain ⟨source, hsource, hsourced⟩ := hs.sourced g hg
    exact ⟨source, List.mem_append_left _ hsource, hsourced⟩

/-- STEP: an offered handoff keeps the lineage. -/
theorem Lineage.offers (hs : s.Lineage) {actor : String} {now : ℕ} {source : CustodyState}
    {h : CustodyHandoff} (hoffers : s.Offers rt actor now source h) :
    ({ s with handoffs := s.handoffs ++ [h] } : CustodyStore).Lineage := by
  refine { hs.toLines with rooted := hs.rooted, roots := hs.roots, handoffIds := ?_
                           lifecycle := ?_, apart := ?_, expires := ?_, stems := ?_
                           concluded := ?_, sourced := ?_ }
  · rw [List.map_append, List.nodup_append]
    refine ⟨hs.handoffIds, by simp, ?_⟩
    intro k hk k' hk' heq
    obtain ⟨g, hg, rfl⟩ := List.mem_map.1 hk
    rw [List.map_singleton, List.mem_singleton] at hk'
    exact hoffers.handoff.fresh g hg (heq.trans hk')
  · intro st hst hprev
    obtain ⟨other, hother, g, hg, hstems⟩ := hs.stems st hst hprev
    exact ⟨other, hother, g, List.mem_append_left _ hg, hstems⟩
  · intro g hg haccepted
    rcases List.mem_append.1 hg with hg | hg
    · exact hs.concluded g hg haccepted
    · rw [List.mem_singleton.1 hg, hoffers.status] at haccepted
      cases haccepted
  · intro g hg
    rcases List.mem_append.1 hg with hg | hg
    · exact hs.sourced g hg
    · rw [List.mem_singleton.1 hg]
      exact ⟨source, hoffers.recordedSource, hoffers.workspace, hoffers.identity, hoffers.digest,
        hoffers.custodian⟩
  · intro g hg
    rcases List.mem_append.1 hg with hg | hg
    · exact hs.lifecycle g hg
    · rw [List.mem_singleton.1 hg]
      exact hoffers.handoff.lifecycle
  · intro g hg
    rcases List.mem_append.1 hg with hg | hg
    · exact hs.apart g hg
    · rw [List.mem_singleton.1 hg]
      exact hoffers.handoff.apart
  · intro g hg
    rcases List.mem_append.1 hg with hg | hg
    · exact hs.expires g hg
    · rw [List.mem_singleton.1 hg]
      exact hoffers.handoff.expires

/-- A decision changes only how the handoff stands. -/
structure SameOffer (h h' : CustodyHandoff) : Prop where
  id : h'.id = h.id
  workspace : h'.workspaceId = h.workspaceId
  digest : h'.targetDigest = h.targetDigest
  source : h'.sourceStateId = h.sourceStateId
  offering : h'.fromPrincipalId = h.fromPrincipalId
  accepting : h'.toPrincipalId = h.toPrincipalId
  offeredAt : h'.offeredAt = h.offeredAt
  expiresAt : h'.expiresAt = h.expiresAt
  condition : h'.condition = h.condition
  conditionDigest : h'.conditionDigest = h.conditionDigest
  requirements : h'.evidenceRequirements = h.evidenceRequirements

theorem sameOffer_accepted (evidence : List AcceptanceEvidence) (now : ℕ) (h : CustodyHandoff) :
    SameOffer h (acceptedRow evidence now h) :=
  ⟨rfl, rfl, rfl, rfl, rfl, rfl, rfl, rfl, rfl, rfl, rfl⟩

theorem sameOffer_refused (reason : String) (now : ℕ) (h : CustodyHandoff) :
    SameOffer h (refusedRow reason now h) :=
  ⟨rfl, rfl, rfl, rfl, rfl, rfl, rfl, rfl, rfl, rfl, rfl⟩

theorem SameOffer.sourced {source : CustodyState} {h h' : CustodyHandoff} (hsame : SameOffer h h')
    (hsourced : Sourced source h) : Sourced source h' :=
  ⟨hsourced.workspace.trans hsame.workspace.symm, hsourced.identity.trans hsame.source.symm,
    hsourced.digest.trans hsame.digest.symm, hsourced.custodian.trans hsame.offering.symm⟩

/-- The handoffs after a decision: the decided one, and all others as they were. -/
theorem mem_decided (hids : (s.handoffs.map CustodyHandoff.id).Nodup) {h : CustodyHandoff}
    (hmem : h ∈ s.handoffs) (hoffered : h.status = .offered) {f : CustodyHandoff → CustodyHandoff}
    {g : CustodyHandoff} :
    g ∈ s.handoffs.map (decidedRow h.workspaceId h.id h.revision f) ↔
      g = f h ∨ g ∈ s.handoffs ∧ g ≠ h := by
  have hrow : ∀ r ∈ s.handoffs, decidedRow h.workspaceId h.id h.revision f r =
      if r = h then f h else r := by
    intro r hr
    unfold decidedRow
    by_cases heq : r = h
    · rw [heq, if_pos ⟨rfl, rfl, hoffered, rfl⟩, if_pos rfl]
    · rw [if_neg heq, if_neg]
      rintro ⟨-, hid, -⟩
      exact heq (List.inj_on_of_nodup_map hids hr hmem hid)
  rw [List.mem_map]
  constructor
  · rintro ⟨r, hr, rfl⟩
    rw [hrow r hr]
    by_cases heq : r = h
    · exact .inl (if_pos heq)
    · rw [if_neg heq]
      exact .inr ⟨hr, heq⟩
  · rintro (rfl | ⟨hg, hne⟩)
    · exact ⟨h, hmem, by rw [hrow h hmem, if_pos rfl]⟩
    · exact ⟨g, hg, by rw [hrow g hg, if_neg hne]⟩

/-- STEP: a decision keeps the lineage, when the states that come with it stem from the handoff and
    an acceptance brings one. -/
theorem Lineage.decided (hs : s.Lineage) {h : CustodyHandoff} (hmem : h ∈ s.handoffs)
    (hoffered : h.status = .offered) {f : CustodyHandoff → CustodyHandoff}
    (hsame : ∀ g, SameOffer g (f g)) (hlifecycle : (f h).Lifecycle) {new : List CustodyState}
    (hlines : ({ s with states := s.states ++ new } : CustodyStore).Lines)
    (hnew : ∀ st ∈ new, ∃ source ∈ s.states, Stems source (f h) st)
    (haccepted : (f h).status = .accepted → ∃ st ∈ new, st.acceptedHandoffId = some h.id) :
    ({ s with
      states := s.states ++ new
      handoffs := s.handoffs.map (decidedRow h.workspaceId h.id h.revision f) } :
        CustodyStore).Lineage := by
  have hmem' := fun g => mem_decided hs.handoffIds hmem hoffered (f := f) (g := g)
  refine
    { toLines := ⟨hlines.targets, hlines.ids, hlines.placed, hlines.chain⟩
      rooted := ?_, handoffIds := ?_, lifecycle := ?_, apart := ?_, expires := ?_, stems := ?_
      roots := ?_, concluded := ?_, sourced := ?_ }
  · intro t ht hnil
    refine hs.rooted t ht ?_
    simp only [line, List.filter_append, List.map_append, List.append_eq_nil_iff] at hnil
    exact hnil.1
  · have hids : (s.handoffs.map (decidedRow h.workspaceId h.id h.revision f)).map
        CustodyHandoff.id = s.handoffs.map CustodyHandoff.id := by
      rw [List.map_map]
      refine List.map_congr_left fun g _ => ?_
      simp only [Function.comp, decidedRow]
      split
      · exact (hsame g).id
      · rfl
    rw [hids]
    exact hs.handoffIds
  · intro st hst hprev
    rcases List.mem_append.1 hst with hst | hst
    · obtain ⟨source, hsource, g, hg, hstems⟩ := hs.stems st hst hprev
      refine ⟨source, List.mem_append_left _ hsource, g, (hmem' g).2 (.inr ⟨hg, ?_⟩), hstems⟩
      -- an accepted handoff is not the one that is decided
      rintro rfl
      rw [hstems.status] at hoffered
      cases hoffered
    · obtain ⟨source, hsource, hstems⟩ := hnew st hst
      exact ⟨source, List.mem_append_left _ hsource, f h, (hmem' _).2 (.inl rfl), hstems⟩
  · intro st hst hroot
    rcases List.mem_append.1 hst with hst | hst
    · exact hs.roots st hst hroot
    · obtain ⟨source, -, hstems⟩ := hnew st hst
      rw [hstems.predecessor] at hroot
      cases hroot
  · intro g hg haccepted'
    rcases (hmem' g).1 hg with rfl | ⟨hg, -⟩
    · obtain ⟨st, hst, hid⟩ := haccepted haccepted'
      exact ⟨st, List.mem_append_right _ hst, hid.trans (congrArg some (hsame h).id.symm)⟩
    · obtain ⟨st, hst, hid⟩ := hs.concluded g hg haccepted'
      exact ⟨st, List.mem_append_left _ hst, hid⟩
  · intro g hg
    rcases (hmem' g).1 hg with rfl | ⟨hg, -⟩
    · obtain ⟨source, hsource, hsourced⟩ := hs.sourced h hmem
      exact ⟨source, List.mem_append_left _ hsource, (hsame h).sourced hsourced⟩
    · obtain ⟨source, hsource, hsourced⟩ := hs.sourced g hg
      exact ⟨source, List.mem_append_left _ hsource, hsourced⟩
  · intro g hg
    rcases (hmem' g).1 hg with rfl | ⟨hg, -⟩
    · exact hlifecycle
    · exact hs.lifecycle g hg
  · intro g hg
    rcases (hmem' g).1 hg with rfl | ⟨hg, -⟩
    · rw [(hsame h).offering, (hsame h).accepting]
      exact hs.apart h hmem
    · exact hs.apart g hg
  · intro g hg
    rcases (hmem' g).1 hg with rfl | ⟨hg, -⟩
    · rw [(hsame h).offeredAt, (hsame h).expiresAt]
      exact hs.expires h hmem
    · exact hs.expires g hg

/-- The source of an accepted handoff is the last state of its target, and what the new state
    succeeds. -/
theorem Lineage.accepts_stems (hs : s.Lineage) {actor : String} {now : ℕ} {h : CustodyHandoff}
    {evidence : List AcceptanceEvidence} {st : CustodyState}
    (haccepts : s.Accepts actor now h evidence st) :
    ∃ source ∈ s.states, Sourced source h ∧ Stems source (acceptedRow evidence now h) st := by
  obtain ⟨source, hsource, hsourced⟩ := hs.sourced h haccepts.handoff
  exact ⟨source, hsource, hsourced, hsourced.workspace.trans haccepts.workspace.symm,
    hsourced.digest.trans haccepts.digest.symm, hsourced.identity ▸ haccepts.predecessor,
    haccepts.accepted, rfl, haccepts.workspace.symm, haccepts.digest.symm, hsourced.identity.symm,
    hsourced.custodian.symm, haccepts.custodian.symm, haccepts.conditionDigest.symm⟩

/-- STEP: an acceptance keeps the lineage. -/
theorem Lineage.accepts (hs : s.Lineage) {actor : String} {now : ℕ} {h : CustodyHandoff}
    {evidence : List AcceptanceEvidence} {st : CustodyState}
    (haccepts : s.Accepts actor now h evidence st) :
    ({ s with
      states := s.states ++ [st]
      handoffs := s.handoffs.map (decidedRow h.workspaceId h.id h.revision
        (acceptedRow evidence now)) } : CustodyStore).Lineage := by
  obtain ⟨source, hsource, -, hstems⟩ := hs.accepts_stems haccepts
  refine hs.decided haccepts.handoff haccepts.offered (sameOffer_accepted evidence now)
    haccepts.lifecycle (hs.toLines.addState haccepts.state ?_) ?_ fun _ =>
      ⟨st, List.mem_singleton_self _, haccepts.accepted⟩
  · intro other hother _ hprev
    have hid : other.id = source.id := Option.some.inj (hprev.symm.trans hstems.predecessor)
    rw [hs.state_ext hother hsource hid]
    exact hstems.digest
  · intro st' hst'
    rw [List.mem_singleton.1 hst']
    exact ⟨source, hsource, hstems⟩

/-- STEP: a refusal keeps the lineage. -/
theorem Lineage.refuses (hs : s.Lineage) {actor : String} {now : ℕ} {h : CustodyHandoff}
    {reason : String} (hrefuses : s.Refuses actor now h reason) :
    ({ s with
      handoffs := s.handoffs.map (decidedRow h.workspaceId h.id h.revision
        (refusedRow reason now)) } : CustodyStore).Lineage := by
  have hlines : ({ s with states := s.states ++ [] } : CustodyStore).Lines := by
    rw [List.append_nil]
    exact hs.toLines
  have hdecided := hs.decided hrefuses.handoff hrefuses.offered
    (sameOffer_refused reason now) hrefuses.lifecycle hlines (by simp) (by simp [refusedRow])
  rw [List.append_nil] at hdecided
  exact hdecided

end Tasq.Custody.CustodyStore
