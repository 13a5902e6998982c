import Mathlib.Tactic
import Tasq.EffectLedger.Run
import Tasq.Lib.Chain

/-! The decisions about an effect are one chain. Each decision supersedes the current one, so the
    current one is the last; where it authorized the effect, superseding it withdraws the
    authority, so that an authorized effect is authorized by the last decision. -/

namespace Tasq

open Text Outcome Run Chain

namespace EffectStore

variable {rt : EffectRuntime} {s s' : EffectStore} {id : UuidV7}

/-- The decisions about an effect, oldest first. -/
structure History (s : EffectStore) (id : UuidV7) (xs : List (UuidV7 × EffectApproval)) :
    Prop where
  chain : IsChain EffectApproval.supersedesApprovalId xs
  rows : ∀ x, x ∈ xs ↔ s.approvals[x.1]? = some x.2 ∧ x.2.effectId = id

/-- The decision gives the authority that the effect has. -/
def Grants (leaf : UuidV7 × EffectApproval) (e : Effect) : Prop :=
  e.authorizedByApprovalId = some leaf.1 ∧ leaf.2.decision = .approved ∧
    leaf.2.requestDigest = e.requestDigest

/-- INVARIANT: histories are chains, and authority comes from their last decisions. -/
structure Decided (s : EffectStore) : Prop where
  readable : ∀ (k : UuidV7) a, s.approvals[k]? = some a → a.Readable
  histories : ∀ id, ∃ xs, History s id xs
  authorized : ∀ (id : UuidV7) e, s.effects[id]? = some e → e.status = .authorized →
    ∀ xs, History s id xs → ∃ leaf, xs.getLast? = some leaf ∧ Grants leaf e

/-! ### Histories -/

theorem History.congr {xs : List (UuidV7 × EffectApproval)} (h : History s id xs)
    (hsame : s'.approvals = s.approvals) : History s' id xs :=
  ⟨h.chain, by simpa only [hsame] using h.rows⟩

/-- A list without repetition that has one element is that element. -/
theorem eq_singleton_of_nodup {α : Type} {l : List α} {x : α} (hnodup : l.Nodup)
    (h : ∀ y, y ∈ l ↔ y = x) : l = [x] := by
  refine List.perm_singleton.1 ((List.perm_ext_iff_of_nodup hnodup (List.nodup_singleton x)).2 ?_)
  intro y
  rw [h, List.mem_singleton]

theorem rows_nodup (p : UuidV7 → EffectApproval → Bool) : (Table.rows s.approvals p).Nodup :=
  (List.Nodup.of_map Prod.fst (Table.keys_nodup s.approvals)).filter _

/-- The rows of the effect are the history. -/
theorem History.mem_rows {xs : List (UuidV7 × EffectApproval)} (h : History s id xs)
    (x : UuidV7 × EffectApproval) :
    x ∈ Table.rows s.approvals (fun _ a => a.effectId = id) ↔ x ∈ xs := by
  rw [Table.mem_rows, h.rows, decide_eq_true_eq]

/-- CORRECT: one decision of a history is not superseded: its last one. -/
theorem History.leaves_eq {xs : List (UuidV7 × EffectApproval)} (h : History s id xs)
    {leaf : UuidV7 × EffectApproval} (hleaf : xs.getLast? = some leaf) :
    leaves (Table.rows s.approvals fun _ a => a.effectId = id) = [leaf] := by
  refine eq_singleton_of_nodup ((rows_nodup _).filter _) ?_
  intro y
  simp only [leaves, List.mem_filter, decide_eq_true_eq, not_exists, not_and, h.mem_rows]
  constructor
  · rintro ⟨hy, hfree⟩
    exact Option.some.inj (((h.chain.unsuperseded_iff hy).1 hfree).symm.trans hleaf)
  · rintro rfl
    have hy := List.mem_of_getLast? hleaf
    exact ⟨hy, (h.chain.unsuperseded_iff hy).2 hleaf⟩

/-- CORRECT: the current decision is the last one of the history. -/
theorem History.effective {xs : List (UuidV7 × EffectApproval)} (h : History s id xs)
    (hread : ∀ (k : UuidV7) a, s.approvals[k]? = some a → a.Readable) :
    s.getEffectiveEffectApproval id = .ok xs.getLast? := by
  have hlist : s.listEffectApprovals id =
      .ok (Table.rows s.approvals fun _ a => a.effectId = id) := by
    rw [listEffectApprovals_eq_ok]
    refine ⟨?_, rfl⟩
    intro row hrow
    exact hread row.1 row.2 (Table.mem_rows.1 hrow).1
  rw [getEffectiveEffectApproval, hlist, ok_bind]
  rcases List.eq_nil_or_concat xs with rfl | ⟨ys, leaf, rfl⟩
  · have hnil : Table.rows s.approvals (fun _ a => a.effectId = id) = [] := by
      refine List.eq_nil_iff_forall_not_mem.2 ?_
      intro x hx
      cases (h.mem_rows x).1 hx
    rw [if_pos hnil]
    rfl
  · have hleaf : (ys.concat leaf).getLast? = some leaf := by simp
    have hne : Table.rows s.approvals (fun _ a => a.effectId = id) ≠ [] := by
      refine List.ne_nil_of_mem ((h.mem_rows leaf).2 (List.mem_of_getLast? hleaf))
    rw [if_neg hne, h.leaves_eq hleaf]
    simp [refuse]

/-- The history of an effect has one order. -/
theorem Decided.last_eq (hs : Decided s) {xs : List (UuidV7 × EffectApproval)}
    (h : History s id xs) {current : Option (UuidV7 × EffectApproval)}
    (hcurrent : s.getEffectiveEffectApproval id = .ok current) : xs.getLast? = current := by
  rw [h.effective hs.readable] at hcurrent
  exact Except.ok.inj hcurrent

/-! ### The moves -/

theorem decided_opening (workspaceId : String) (work : Coordination) (others : OtherIds) :
    Decided (opening workspaceId work others) := by
  refine ⟨?_, ?_, ?_⟩
  · intro k a hk
    simp [opening] at hk
  · intro id
    refine ⟨[], isChain_nil, ?_⟩
    intro x
    simp [opening]
  · intro id e he
    simp [opening] at he

/-- A move that keeps the decisions, and authorizes no effect but by the current one. -/
theorem Decided.of_sameApprovals (hs : Decided s) (happrovals : s'.approvals = s.approvals)
    (hrow : ∀ (k : UuidV7) e, s'.effects[k]? = some e → e.status = .authorized → s.effects[k]? = some e ∨
      ∃ leaf, s.getEffectiveEffectApproval k = .ok (some leaf) ∧ Grants leaf e) :
    Decided s' := by
  refine ⟨?_, ?_, ?_⟩
  · rw [happrovals]
    exact hs.readable
  · intro id
    obtain ⟨xs, hxs⟩ := hs.histories id
    exact ⟨xs, hxs.congr happrovals⟩
  · intro k e he hstatus xs hxs
    have hxs' : History s k xs := hxs.congr happrovals.symm
    rcases hrow k e he hstatus with hold | ⟨leaf, hcurrent, hgrants⟩
    · exact hs.authorized k e hold hstatus xs hxs'
    · exact ⟨leaf, hs.last_eq hxs' hcurrent, hgrants⟩

/-- A row rewritten to another status than `authorized`. -/
theorem Rewrites.authorized_before {old new : Effect} (h : Rewrites s s' id old new)
    (hstatus : new.status ≠ .authorized) {k : UuidV7} {e : Effect} (he : s'.effects[k]? = some e)
    (hauthorized : e.status = .authorized) : s.effects[k]? = some e := by
  rw [h.getElem?] at he
  split at he
  · obtain rfl := Option.some.inj he
    exact absurd hauthorized hstatus
  · exact he

/-- A new decision extends the history of its effect, and no other. -/
theorem Decides.history (hs : Decided s) {a : EffectApproval} (h : Decides s s' id a) {k : UuidV7}
    {xs : List (UuidV7 × EffectApproval)} (hxs : History s k xs) :
    History s' k (if k = a.effectId then xs ++ [(id, a)] else xs) := by
  obtain ⟨e, -, -, current, hcurrent, hsupersedes, -⟩ := h.target
  have hrow : ∀ x : UuidV7 × EffectApproval, s'.approvals[x.1]? = some x.2 ↔
      x = (id, a) ∨ s.approvals[x.1]? = some x.2 := by
    intro x
    rw [h.approvals, Table.getElem?_insert']
    split
    · rename_i hid
      have hnone : s.approvals[id]? = none := Std.ExtTreeMap.getElem?_eq_none h.fresh
      rw [← hid, hnone, Prod.ext_iff]
      simp only [← hid, true_and, Option.some.injEq, reduceCtorEq, or_false]
      exact eq_comm
    · rename_i hid
      simp [Prod.ext_iff, Ne.symm hid]
  split
  · rename_i hk
    subst hk
    refine ⟨hxs.chain.concat ?_ ?_, ?_⟩
    · intro hmem
      obtain ⟨x, hx, hxid⟩ := List.mem_map.1 hmem
      have hold : x.1 ∈ s.approvals := Table.mem_of_getElem? ((hxs.rows x).1 hx).1
      rw [show x.1 = id from hxid] at hold
      exact h.fresh hold
    · change a.supersedesApprovalId = _
      rw [hsupersedes, lastKey, hs.last_eq hxs hcurrent]
    · intro x
      rw [List.mem_append, hxs.rows, hrow, List.mem_singleton]
      constructor
      · rintro (⟨hx, heffect⟩ | rfl)
        · exact ⟨.inr hx, heffect⟩
        · exact ⟨.inl rfl, rfl⟩
      · rintro ⟨rfl | hx, heffect⟩
        · exact .inr rfl
        · exact .inl ⟨hx, heffect⟩
  · rename_i hk
    refine ⟨hxs.chain, ?_⟩
    intro x
    rw [hxs.rows, hrow]
    constructor
    · rintro ⟨hx, heffect⟩
      exact ⟨.inr hx, heffect⟩
    · rintro ⟨rfl | hx, heffect⟩
      · exact absurd heffect.symm hk
      · exact ⟨hx, heffect⟩

/-- After a decision, no effect is authorized by a superseded one. -/
theorem Decides.authorized_before (hs : Decided s) {a : EffectApproval} (h : Decides s s' id a)
    {k : UuidV7} {e : Effect} (he : s'.effects[k]? = some e) (hauthorized : e.status = .authorized) :
    s.effects[k]? = some e ∧ k ≠ a.effectId := by
  obtain ⟨old, hold, -, current, hcurrent, -, hcase⟩ := h.target
  rcases hcase with ⟨-, hrewrites⟩ | ⟨hnot, hsame⟩
  · have hbefore := hrewrites.authorized_before (by simp [withdrawn]) he hauthorized
    refine ⟨hbefore, ?_⟩
    rintro rfl
    rw [hrewrites.getElem?, if_pos rfl] at he
    obtain rfl := Option.some.inj he
    cases hauthorized
  · rw [hsame] at he
    refine ⟨he, ?_⟩
    rintro rfl
    obtain rfl := Option.some.inj (he.symm.trans hold)
    -- The current decision is the one that authorized it, so it would have been withdrawn.
    obtain ⟨xs, hxs⟩ := hs.histories a.effectId
    obtain ⟨leaf, hleaf, hby, -⟩ := hs.authorized _ _ hold hauthorized xs hxs
    rw [hs.last_eq hxs hcurrent] at hleaf
    exact hnot ⟨hauthorized, leaf, hleaf, hby⟩

/-- STEP: every move keeps histories chains. -/
theorem Decided.moves (hs : Decided s) (h : Moves rt s s') : Decided s' := by
  cases h with
  | stays h =>
    refine hs.of_sameApprovals h.approvals fun k e he _ => .inl ?_
    rwa [h.effects] at he
  | proposes id e h =>
    refine hs.of_sameApprovals h.approvals fun k e' he hstatus => .inl ?_
    rw [h.getElem?] at he
    split at he
    · obtain rfl := Option.some.inj he
      rw [h.status] at hstatus
      cases hstatus
    · exact he
  | decides id a h =>
    refine ⟨?_, ?_, ?_⟩
    · intro k b hb
      rw [h.approvals, Table.getElem?_insert'] at hb
      split at hb
      · obtain rfl := Option.some.inj hb
        exact h.readable
      · exact hs.readable k b hb
    · intro k
      obtain ⟨xs, hxs⟩ := hs.histories k
      exact ⟨_, h.history hs hxs⟩
    · intro k e he hstatus xs hxs
      obtain ⟨hbefore, hk⟩ := h.authorized_before hs he hstatus
      obtain ⟨ys, hys⟩ := hs.histories k
      obtain ⟨leaf, hleaf, hgrants⟩ := hs.authorized k e hbefore hstatus ys hys
      have hys' := h.history hs hys
      rw [if_neg hk] at hys'
      have hlast : xs.getLast? = ys.getLast? := by
        rcases List.eq_nil_or_concat xs with rfl | ⟨zs, z, rfl⟩
        · exact absurd ((hxs.rows leaf).2 ((hys'.rows leaf).1 (List.mem_of_getLast? hleaf))) (by simp)
        · have hz : (zs.concat z).getLast? = some z := by simp
          have hleaves := (hxs.leaves_eq hz).symm.trans (hys'.leaves_eq hleaf)
          rw [hz, hleaf, List.cons.inj hleaves |>.1]
      exact ⟨leaf, hlast.trans hleaf, hgrants⟩
  | authorizes id old new h =>
    obtain ⟨approval, hcurrent, hdecision, hdigest, hby⟩ := h.current
    refine hs.of_sameApprovals h.approvals fun k e he hstatus => ?_
    rw [h.toRewrites.getElem?] at he
    split at he
    · rename_i hk
      obtain rfl := Option.some.inj he
      subst hk
      refine .inr ⟨approval, hcurrent, hby, hdecision, ?_⟩
      rw [hdigest, h.identity.2.2.2.1]
    · exact .inl he
  | begins id old new claimId claim h =>
    refine hs.of_sameApprovals h.approvals fun k e he hstatus => .inl ?_
    exact h.toRewrites.authorized_before (by rw [h.status]; decide) he hstatus
  | resolves id old new receiptId r h =>
    refine hs.of_sameApprovals h.approvals fun k e he hstatus => .inl ?_
    refine h.toRewrites.authorized_before ?_ he hstatus
    rw [h.status]
    cases r.report.outcome <;> decide
  | cancels id old new h =>
    refine hs.of_sameApprovals h.approvals fun k e he hstatus => .inl ?_
    exact h.toRewrites.authorized_before (by rw [h.status]; decide) he hstatus

/-- INVARIANT: in every reachable ledger, histories are chains. -/
theorem Reachable.decided (hs : Reachable rt s) : Decided s :=
  reachable_invariant decided_opening (fun _ _ h hI => hI.moves h) hs

/-! ### The chain of decisions -/

/-- What a superseded decision and the one that supersedes it have in common. -/
theorem Decided.supersedes_row (hs : Decided s) {x : UuidV7 × EffectApproval} {k : UuidV7}
    (hx : s.approvals[x.1]? = some x.2) (hk : x.2.supersedesApprovalId = some k) :
    ∃ prior, s.approvals[k]? = some prior ∧ prior.effectId = x.2.effectId := by
  obtain ⟨xs, hxs⟩ := hs.histories x.2.effectId
  obtain ⟨y, hy, rfl⟩ := hxs.chain.supersedes_mem ((hxs.rows x).2 ⟨hx, rfl⟩) hk
  exact ⟨y.2, (hxs.rows y).1 hy⟩

/-- No decision is superseded twice. -/
theorem Decided.superseded_once (hs : Decided s) {x y : UuidV7 × EffectApproval}
    (hx : s.approvals[x.1]? = some x.2) (hy : s.approvals[y.1]? = some y.2) {k : UuidV7}
    (hxk : x.2.supersedesApprovalId = some k) (hyk : y.2.supersedesApprovalId = some k) : x = y := by
  obtain ⟨prior, hprior, hxe⟩ := hs.supersedes_row hx hxk
  obtain ⟨prior', hprior', hye⟩ := hs.supersedes_row hy hyk
  obtain rfl := Option.some.inj (hprior.symm.trans hprior')
  obtain ⟨xs, hxs⟩ := hs.histories x.2.effectId
  exact hxs.chain.injOn ((hxs.rows x).2 ⟨hx, rfl⟩) ((hxs.rows y).2 ⟨hy, hye.symm.trans hxe⟩)
    (hxk.trans hyk.symm)

/-- CORRECT: in every reachable ledger the decisions about an effect are one chain. Its last
    decision is the one that none supersedes and the current one, no decision is superseded twice,
    and an authorized effect is authorized by the last decision, an approval of its digest. -/
theorem decisions_are_one_chain (hs : Reachable rt s) (id : UuidV7) :
    ∃ xs, History s id xs ∧ s.getEffectiveEffectApproval id = .ok xs.getLast? ∧
      (∀ x ∈ xs, (∀ y ∈ xs, y.2.supersedesApprovalId ≠ some x.1) ↔ xs.getLast? = some x) ∧
      (∀ x y : UuidV7 × EffectApproval, s.approvals[x.1]? = some x.2 →
        s.approvals[y.1]? = some y.2 → x.2.supersedesApprovalId.isSome →
        x.2.supersedesApprovalId = y.2.supersedesApprovalId → x = y) ∧
      ∀ e, s.effects[id]? = some e → e.status = .authorized →
        ∃ leaf, xs.getLast? = some leaf ∧ Grants leaf e := by
  have hdecided := hs.decided
  obtain ⟨xs, hxs⟩ := hdecided.histories id
  refine ⟨xs, hxs, hxs.effective hdecided.readable, ?_, ?_, ?_⟩
  · intro x hx
    exact hxs.chain.unsuperseded_iff hx
  · intro x y hx hy hsome hxy
    obtain ⟨k, hk⟩ := Option.isSome_iff_exists.1 hsome
    exact hdecided.superseded_once hx hy hk (hxy.symm.trans hk)
  · intro e he hstatus
    exact hdecided.authorized id e he hstatus xs hxs

theorem decisions_are_one_chain_plain :
    (plainLedger.approvals[5]?.map EffectApproval.effectId = some 4) ∧
      ∃ xs, History plainLedger 4 xs ∧
        plainLedger.getEffectiveEffectApproval 4 = .ok xs.getLast? := by
  refine ⟨by decide +kernel, ?_⟩
  obtain ⟨xs, hxs, hcurrent, -⟩ := decisions_are_one_chain plainLedger_reachable 4
  exact ⟨xs, hxs, hcurrent⟩

end EffectStore

end Tasq
