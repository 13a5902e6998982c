import Mathlib.Tactic
import Tasq.EffectLedger.Approvals

/-! Execution: an effect enters `executing` at most once, by a call that is entitled to it; what
    has ended stays as it is; receipts and columns fit the status of their effect. -/

namespace Tasq

open Text Outcome Run Chain

/-- Nothing but an outcome follows execution. -/
theorem EffectStatus.next_of_begun :
    ∀ old ∈ [EffectStatus.executing, .indeterminate, .committed, .failed], ∀ new ∈ old.next,
      new ∈ [EffectStatus.indeterminate, .committed, .failed] := by
  decide

namespace EffectStore

variable {rt : EffectRuntime} {s s' : EffectStore} {id : UuidV7}

/-! ### One row under one move -/

/-- CORRECT: a move keeps the row of an effect, or takes it one step along the lifecycle. -/
theorem Moves.row_after (h : Moves rt s s') {e : Effect} (he : s.effects[id]? = some e) :
    s'.effects[id]? = some e ∨ ∃ new, Rewrites s s' id e new := by
  have hrewritten : ∀ {k old new}, Rewrites s s' k old new →
      s'.effects[id]? = some e ∨ ∃ new, Rewrites s s' id e new := by
    intro k old new hk
    by_cases hid : k = id
    · subst hid
      obtain rfl := Option.some.inj (hk.row.symm.trans he)
      exact .inr ⟨new, hk⟩
    · rw [hk.getElem?, if_neg hid]
      exact .inl he
  cases h with
  | stays h =>
    rw [h.effects]
    exact .inl he
  | proposes k e' h =>
    rw [h.getElem?]
    refine .inl ?_
    rw [if_neg]
    · exact he
    · rintro rfl
      exact h.fresh (Table.mem_of_getElem? he)
  | decides k a h =>
    obtain ⟨old, -, -, current, -, -, ⟨-, hrewrites⟩ | ⟨-, hsame⟩⟩ := h.target
    · exact hrewritten hrewrites
    · rw [hsame]
      exact .inl he
  | authorizes k old new h => exact hrewritten h.toRewrites
  | begins k old new claimId claim h => exact hrewritten h.toRewrites
  | resolves k old new receiptId r h => exact hrewritten h.toRewrites
  | cancels k old new h => exact hrewritten h.toRewrites

/-- A row that a move brings is a new proposal, or was there before it. -/
theorem Moves.row_before (h : Moves rt s s') {e : Effect} (he : s'.effects[id]? = some e) :
    (∃ old, s.effects[id]? = some old) ∨ Proposes rt s s' id e := by
  cases hold : s.effects[id]? with
  | some old => exact .inl ⟨old, rfl⟩
  | none =>
    have hrewritten : ∀ {k old new}, ¬ Rewrites s s' k old new := by
      intro k old new hk
      rw [hk.getElem?] at he
      split at he
      · rename_i hid
        rw [← hid, hk.row] at hold
        cases hold
      · rw [hold] at he
        cases he
    cases h with
    | stays h =>
      rw [h.effects, hold] at he
      cases he
    | proposes k e' h =>
      rw [h.getElem?] at he
      split at he
      · rename_i hid
        obtain rfl := Option.some.inj he
        exact .inr (hid ▸ h)
      · rw [hold] at he
        cases he
    | decides k a h =>
      obtain ⟨old, -, -, current, -, -, ⟨-, hrewrites⟩ | ⟨-, hsame⟩⟩ := h.target
      · exact absurd hrewrites hrewritten
      · rw [hsame, hold] at he
        cases he
    | authorizes k old new h => exact absurd h.toRewrites hrewritten
    | begins k old new claimId claim h => exact absurd h.toRewrites hrewritten
    | resolves k old new receiptId r h => exact absurd h.toRewrites hrewritten
    | cancels k old new h => exact absurd h.toRewrites hrewritten

/-- A move rewrites one row. -/
theorem Rewrites.unique {k : UuidV7} {old new old' new' : Effect} (h : Rewrites s s' id old new)
    (h' : Rewrites s s' k old' new') : new = new' := by
  by_cases hid : id = k
  · subst hid
    have hnew := h'.getElem? (k := id)
    rw [h.getElem?, if_pos rfl, if_pos rfl] at hnew
    exact Option.some.inj hnew
  · have hrow := h'.getElem? (k := k)
    rw [h.getElem?, if_neg hid, if_pos rfl, h'.row] at hrow
    have hrevision := h'.revision
    rw [Option.some.inj hrow] at hrevision
    omega

/-- A rewritten row is another row. -/
theorem Rewrites.effects_ne {old new : Effect} (h : Rewrites s s' id old new) :
    s'.effects ≠ s.effects := by
  intro hsame
  have hrow := h.getElem? (k := id)
  rw [hsame, if_pos rfl, h.row] at hrow
  have hrevision := h.revision
  rw [Option.some.inj hrow] at hrevision
  omega

/-- A proposal rewrites nothing. -/
theorem Proposes.not_rewrites {k : UuidV7} {e old new : Effect} (h : Proposes rt s s' id e) :
    ¬ Rewrites s s' k old new := by
  intro hk
  have hrow := hk.getElem? (k := id)
  rw [h.getElem?, if_pos rfl] at hrow
  by_cases hid : k = id
  · exact h.fresh (hid ▸ Table.mem_of_getElem? hk.row)
  · rw [if_neg hid] at hrow
    exact h.fresh (Table.mem_of_getElem? hrow.symm)

/-! ### Columns -/

/-- A reader accepts every row. -/
def AllReadable (rt : EffectRuntime) (s : EffectStore) : Prop :=
  ∀ (id : UuidV7) e, s.effects[id]? = some e → rt.Readable id e

/-- STEP: a move leaves rows that a reader accepts. -/
theorem AllReadable.moves (hs : AllReadable rt s) (h : Moves rt s s') : AllReadable rt s' := by
  intro id e he
  rcases h.row_before he with ⟨old, hold⟩ | hproposes
  · rcases h.row_after hold with hsame | ⟨new, hrewrites⟩
    · obtain rfl := Option.some.inj (hsame.symm.trans he)
      exact hs id old hold
    · rw [hrewrites.getElem?, if_pos rfl] at he
      obtain rfl := Option.some.inj he
      exact ⟨(hs id old hold).identified.of_sameIdentity hrewrites.identity, hrewrites.refined⟩
  · exact hproposes.readable

/-- INVARIANT: in every reachable ledger a reader accepts every row. -/
theorem Reachable.allReadable (hs : Reachable rt s) : AllReadable rt s := by
  refine reachable_invariant ?_ (fun _ _ h hI => hI.moves h) hs
  intro workspaceId work others id e he
  simp [opening] at he

/-! ### Statuses -/

/-- The execution of the effect has begun. -/
def Begun (s : EffectStore) (id : UuidV7) : Prop :=
  ∃ e, s.effects[id]? = some e ∧ e.status ∈ [.executing, .indeterminate, .committed, .failed]

/-- The effect is executing. -/
def Executing (s : EffectStore) (id : UuidV7) : Prop :=
  ∃ e, s.effects[id]? = some e ∧ e.status = .executing

/-- Between the two states the effect enters `executing`. -/
def Enters (s s' : EffectStore) (id : UuidV7) : Prop := Executing s' id ∧ ¬ Executing s id

/-- STEP: what has begun has begun. -/
theorem Begun.moves (hs : Begun s id) (h : Moves rt s s') : Begun s' id := by
  obtain ⟨e, he, hstatus⟩ := hs
  rcases h.row_after he with hsame | ⟨new, hrewrites⟩
  · exact ⟨e, hsame, hstatus⟩
  · refine ⟨new, by rw [hrewrites.getElem?, if_pos rfl], ?_⟩
    exact List.mem_cons_of_mem _ (EffectStatus.next_of_begun _ hstatus _ hrewrites.next)

/-- An effect that enters `executing` was authorized. -/
theorem Enters.authorized (h : Enters s s' id) (hmoves : Moves rt s s') :
    ∃ e, s.effects[id]? = some e ∧ e.status = .authorized := by
  obtain ⟨⟨new, hnew, hexecuting⟩, hbefore⟩ := h
  rcases hmoves.row_before hnew with ⟨old, hold⟩ | hproposes
  · refine ⟨old, hold, ?_⟩
    rcases hmoves.row_after hold with hsame | ⟨new', hrewrites⟩
    · obtain rfl := Option.some.inj (hsame.symm.trans hnew)
      exact absurd ⟨old, hold, hexecuting⟩ hbefore
    · rw [hrewrites.getElem?, if_pos rfl] at hnew
      obtain rfl := Option.some.inj hnew
      have hnext := hrewrites.next
      rw [hexecuting] at hnext
      cases hcase : old.status <;> rw [hcase] at hnext <;> simp_all [EffectStatus.next]
  · rw [hproposes.status] at hexecuting
    cases hexecuting

/-- What has begun does not enter `executing`. -/
theorem Begun.not_enters (hs : Begun s id) (hmoves : Moves rt s s') : ¬ Enters s s' id := by
  intro henters
  obtain ⟨e, he, hstatus⟩ := hs
  obtain ⟨e', he', hauthorized⟩ := henters.authorized hmoves
  obtain rfl := Option.some.inj (he.symm.trans he')
  rw [hauthorized] at hstatus
  simp at hstatus

/-- RUN: what has begun has begun. -/
theorem Begun.run (hs : Begun s id) (actions : List EffectAction) :
    Begun (Run.run (step rt) s actions) id :=
  run_invariant' (I := fun t => Begun t id) (fun _ a ht => ht.moves (step_moves a)) actions hs

/-- STEP: an effect that has ended keeps its row. -/
theorem ended_moves {e : Effect} (hended : e.status ∈ [.committed, .failed, .cancelled])
    (he : s.effects[id]? = some e) (h : Moves rt s s') : s'.effects[id]? = some e := by
  rcases h.row_after he with hsame | ⟨new, hrewrites⟩
  · exact hsame
  · have hnext := hrewrites.next
    cases hcase : e.status <;> rw [hcase] at hnext hended <;> simp_all [EffectStatus.next]

/-! ### Beginning -/

/-- What a call that begins an execution is entitled by, and what its permit repeats. -/
structure Rightful (rt : EffectRuntime) (s : EffectStore) (id : UuidV7) (options : BeginOptions)
    (ctx : PrincipalContext) (p : EffectDispatchPermitPayload) (e : Effect)
    (approval : UuidV7 × EffectApproval) (claim : LeasedClaim) (callerId : String) : Prop where
  row : s.effects[id]? = some e
  status : e.status = .authorized
  sole : leaves (Table.rows s.approvals fun _ a => a.effectId = id) = [approval]
  entitled : Entitled s id e ctx.now callerId approval options.claimId claim
  caller : CallerIs rt s ctx callerId
  permit : p.effectId = id ∧ p.requestDigest = e.requestDigest ∧ p.approval.id = approval.1 ∧
    p.claim.id = options.claimId ∧ p.claim.fence = claim.fence

/-- Only a call that begins an execution makes an effect enter `executing`. -/
theorem Rewrites.not_enters {k : UuidV7} {old new : Effect} (h : Rewrites s s' k old new)
    (hstatus : new.status ≠ .executing) : ¬ Enters s s' id := by
  rintro ⟨⟨e, he, hexecuting⟩, hbefore⟩
  rw [h.getElem?] at he
  split at he
  · obtain rfl := Option.some.inj he
    exact hstatus hexecuting
  · exact hbefore ⟨e, he, hexecuting⟩

theorem SameLedger.not_enters (h : SameLedger s s') : ¬ Enters s s' id := by
  rintro ⟨⟨e, he, hexecuting⟩, hbefore⟩
  rw [h.effects] at he
  exact hbefore ⟨e, he, hexecuting⟩

theorem Proposes.not_enters {k : UuidV7} {e : Effect} (h : Proposes rt s s' k e) :
    ¬ Enters s s' id := by
  rintro ⟨⟨e', he, hexecuting⟩, hbefore⟩
  rw [h.getElem?] at he
  split at he
  · obtain rfl := Option.some.inj he
    rw [h.status] at hexecuting
    cases hexecuting
  · exact hbefore ⟨e', he, hexecuting⟩

theorem Decides.not_enters {k : UuidV7} {a : EffectApproval} (h : Decides s s' k a) :
    ¬ Enters s s' id := by
  obtain ⟨old, -, -, current, -, -, ⟨-, hrewrites⟩ | ⟨-, hsame⟩⟩ := h.target
  · exact hrewrites.not_enters (by simp [withdrawn])
  · rintro ⟨⟨e, he, hexecuting⟩, hbefore⟩
    rw [hsame] at he
    exact hbefore ⟨e, he, hexecuting⟩

/-- A call that is not to begin an execution makes no effect enter `executing`. -/
theorem not_enters_of_other {a : EffectAction} (ha : ∀ k options ctx, a ≠ .begin k options ctx) :
    ¬ Enters s (s.step rt a) id := by
  have hstays : ¬ Enters s s id := SameLedger.refl.not_enters
  cases a with
  | propose input ctx freshId =>
    refine settle_fst_rule (I := fun t => ¬ Enters s t id) hstays fun s' e h => ?_
    rcases proposeEffect_spec h with hsame | ⟨k, e, hproposes⟩
    · exact hsame.not_enters
    · exact hproposes.not_enters
  | decide input ctx supplied freshId =>
    refine settle_fst_rule (I := fun t => ¬ Enters s t id) hstays fun s' a h => ?_
    rcases recordEffectApproval_spec h with hsame | ⟨k, a, hdecides⟩
    · exact hsame.not_enters
    · exact hdecides.not_enters
  | authorize effectId approvalId expectedRevision ctx =>
    refine settle_fst_rule (I := fun t => ¬ Enters s t id) hstays fun s' e h => ?_
    rcases authorizeEffect_spec h with hsame | ⟨old, new, hauthorizes⟩
    · exact hsame.not_enters
    · exact hauthorizes.toRewrites.not_enters (by rw [hauthorizes.status]; decide)
  | begin effectId options ctx => exact absurd rfl (ha effectId options ctx)
  | report input expectedRevision verifier ctx freshReceiptId freshEvidenceId =>
    refine settle_fst_rule (I := fun t => ¬ Enters s t id) hstays fun s' r h => ?_
    rcases recordEffectReceipt_spec h with hsame | ⟨k, old, new, receiptId, r, hresolves⟩
    · exact hsame.not_enters
    · refine hresolves.toRewrites.not_enters ?_
      rw [hresolves.status]
      cases r.report.outcome <;> decide
  | cancel effectId reason expectedRevision ctx =>
    refine settle_fst_rule (I := fun t => ¬ Enters s t id) hstays fun s' e h => ?_
    rcases cancelEffect_spec h with hsame | ⟨old, new, hcancels⟩
    · exact hsame.not_enters
    · exact hcancels.toRewrites.not_enters (by rw [hcancels.status]; decide)
  | acquire taskId options ctx freshId =>
    exact settle_fst_rule (I := fun t => ¬ Enters s t id) hstays fun _ _ h => (acquireTaskClaim_sameLedger h).not_enters
  | release taskId options ctx =>
    exact settle_fst_rule (I := fun t => ¬ Enters s t id) hstays fun _ _ h => (releaseTaskClaim_sameLedger h).not_enters
  | elsewhere work others =>
    exact SameLedger.not_enters ⟨rfl, rfl, rfl, fun _ hr _ => hr⟩

/-- CORRECT: an effect enters `executing` by a rightful call that answers its permit. -/
theorem enters_rightful {a : EffectAction} (h : Enters s (s.step rt a) id) :
    ∃ options ctx p e approval claim callerId, a = .begin id options ctx ∧
      issued rt s a = some p ∧ Rightful rt s id options ctx p e approval claim callerId := by
  by_cases ha : ∀ k options ctx, a ≠ .begin k options ctx
  · exact absurd h (not_enters_of_other ha)
  · simp only [not_forall, not_not] at ha
    obtain ⟨k, options, ctx, rfl⟩ := ha
    cases hcall : s.beginEffectExecution rt k options ctx with
    | error failure =>
      simp only [step, hcall] at h
      exact absurd h SameLedger.refl.not_enters
    | ok answer =>
      have hstep : s.step rt (.begin k options ctx) = answer.1 := by
        simp only [step, hcall]
        rfl
      rw [hstep] at h
      rcases beginEffectExecution_spec hcall with ⟨hkept, -⟩ |
        ⟨old, approval, claim, callerId, hbegins, hentitled, hcaller, heffect, -, hcarries, -⟩
      · exact absurd h hkept.sameLedger.not_enters
      · have hk : k = id := by
          by_contra hne
          obtain ⟨⟨e, he, hexecuting⟩, hbefore⟩ := h
          rw [hbegins.toRewrites.getElem?, if_neg hne] at he
          exact hbefore ⟨e, he, hexecuting⟩
        subst hk
        obtain ⟨happroval, hclaim, hfence⟩ := hbegins.binding
        obtain ⟨approvals, hrows, ⟨-, hnone⟩ | ⟨leaf, hleaf, hsome⟩⟩ :=
          getEffectiveEffectApproval_eq_ok hentitled.current
        · cases hnone
        · obtain rfl := Option.some.inj hsome
          refine ⟨options, ctx, _, old, approval, claim, callerId, rfl, by simp only [issued, hcall],
            hbegins.row, hbegins.old_status, hrows ▸ hleaf, hentitled, hcaller, heffect, ?_, ?_, ?_,
            ?_⟩
          · rw [hcarries.requestDigest, hbegins.identity.2.2.2.1]
          · have hby := hcarries.approval
            rw [happroval, hentitled.authorizing] at hby
            exact (Option.some.inj hby).symm
          · exact (Option.some.inj (hclaim.symm.trans hcarries.claim)).symm
          · exact (Option.some.inj (hfence.symm.trans hcarries.fence)).symm

/-! ### Receipts -/

/-- INVARIANT: only a resolved effect has receipts, an open one only of uncertainty, and none has
    two terminal receipts or two of uncertainty. -/
structure ReceiptsFit (s : EffectStore) : Prop where
  resolved : ∀ (k : UuidV7) r, s.receipts[k]? = some r → ∃ e, s.effects[r.effectId]? = some e ∧
    (e.status = .indeterminate ∧ ¬ r.Terminal ∨ e.status ∈ [.committed, .failed])
  one : ∀ x y : UuidV7 × EffectReceipt, s.receipts[x.1]? = some x.2 → s.receipts[y.1]? = some y.2 →
    x.2.effectId = y.2.effectId → (x.2.Terminal ↔ y.2.Terminal) → x = y

/-- A move that keeps the receipts, and resolves no effect. -/
theorem ReceiptsFit.of_sameReceipts (hs : ReceiptsFit s) (h : Moves rt s s')
    (hreceipts : s'.receipts = s.receipts)
    (hnew : ∀ k old new, Rewrites s s' k old new → new.status ∉ [.committed, .failed]) :
    ReceiptsFit s' := by
  constructor
  · intro k r hr
    rw [hreceipts] at hr
    obtain ⟨e, he, hstatus⟩ := hs.resolved k r hr
    rcases h.row_after he with hsame | ⟨new, hrewrites⟩
    · exact ⟨e, hsame, hstatus⟩
    · have hnext := hrewrites.next
      rcases hstatus with ⟨hindeterminate, -⟩ | hended
      · rw [hindeterminate] at hnext
        exact absurd hnext (hnew _ _ _ hrewrites)
      · cases hcase : e.status <;> rw [hcase] at hnext hended <;> simp_all [EffectStatus.next]
  · rw [hreceipts]
    exact hs.one

/-- A new receipt comes to an effect that has none like it. -/
theorem Resolves.first {receiptId : UuidV7} {r : EffectReceipt} {old new : Effect}
    (hs : ReceiptsFit s) (h : Resolves s s' id old new receiptId r) {k : UuidV7}
    {prior : EffectReceipt} (hprior : s.receipts[k]? = some prior) (heffect : prior.effectId = id) :
    old.status = .indeterminate ∧ ¬ prior.Terminal ∧ r.Terminal := by
  obtain ⟨e, he, hstatus⟩ := hs.resolved k prior hprior
  rw [heffect] at he
  obtain rfl := Option.some.inj (he.symm.trans h.row)
  rcases h.dispatched with hexecuting | hindeterminate
  · rw [hexecuting] at hstatus
    simp at hstatus
  · rw [hindeterminate] at hstatus
    refine ⟨hindeterminate, by simpa using hstatus, ?_⟩
    intro houtcome
    rw [h.uncertain houtcome] at hindeterminate
    cases hindeterminate

/-- STEP: a receipt that resolves its effect fits. -/
theorem ReceiptsFit.resolves {receiptId : UuidV7} {r : EffectReceipt} {old new : Effect}
    (hs : ReceiptsFit s) (h : Resolves s s' id old new receiptId r) : ReceiptsFit s' := by
  have hrow : s'.effects[id]? = some new := by rw [h.toRewrites.getElem?, if_pos rfl]
  have hstatus : new.status = .indeterminate ∧ ¬ r.Terminal ∨
      new.status ∈ [.committed, .failed] := by
    rw [h.status]
    unfold EffectReceipt.Terminal
    cases r.report.outcome <;> simp [EffectReceiptOutcome.status]
  have hreceipt : ∀ x : UuidV7 × EffectReceipt, s'.receipts[x.1]? = some x.2 →
      x = (receiptId, r) ∨ s.receipts[x.1]? = some x.2 := by
    intro x hx
    rw [h.receipts, Table.getElem?_insert'] at hx
    split at hx
    · rename_i hid
      exact .inl (Prod.ext hid.symm (Option.some.inj hx).symm)
    · exact .inr hx
  constructor
  · intro k prior hprior
    rcases hreceipt (k, prior) hprior with heq | hold
    · obtain ⟨-, rfl⟩ := Prod.mk.inj heq
      exact ⟨new, h.effect ▸ hrow, hstatus⟩
    · by_cases heffect : prior.effectId = id
      · obtain ⟨-, -, hterminal⟩ := h.first hs hold heffect
        refine ⟨new, heffect ▸ hrow, .inr ?_⟩
        exact hstatus.resolve_left fun hnot => hnot.2 hterminal
      · obtain ⟨e, he, hfit⟩ := hs.resolved k prior hold
        refine ⟨e, ?_, hfit⟩
        rwa [h.toRewrites.getElem?, if_neg (Ne.symm heffect)]
  · intro x y hx hy hxy hterminal
    rcases hreceipt x hx with rfl | hx'
    · rcases hreceipt y hy with rfl | hy'
      · rfl
      · obtain ⟨-, hprior, hnew⟩ := h.first hs hy' (hxy.symm.trans h.effect)
        exact absurd (hterminal.1 hnew) hprior
    · rcases hreceipt y hy with rfl | hy'
      · obtain ⟨-, hprior, hnew⟩ := h.first hs hx' (hxy.trans h.effect)
        exact absurd (hterminal.2 hnew) hprior
      · exact hs.one x y hx' hy' hxy hterminal

/-- STEP: receipts keep fitting. -/
theorem ReceiptsFit.moves (hs : ReceiptsFit s) (h : Moves rt s s') : ReceiptsFit s' := by
  cases h with
  | stays h =>
    refine hs.of_sameReceipts (Moves.stays h : Moves rt s s') h.receipts fun k old new hk => ?_
    exact absurd h.effects hk.effects_ne
  | proposes id e h =>
    refine hs.of_sameReceipts (.proposes id e h) h.receipts fun k old new hk => ?_
    exact absurd hk h.not_rewrites
  | decides id a h =>
    refine hs.of_sameReceipts (Moves.decides id a h : Moves rt s s') h.receipts fun k old new hk => ?_
    obtain ⟨e, -, -, current, -, -, ⟨-, hrewrites⟩ | ⟨-, heffects⟩⟩ := h.target
    · rw [hk.unique hrewrites]
      simp [withdrawn]
    · exact absurd heffects hk.effects_ne
  | authorizes id e e' h =>
    refine hs.of_sameReceipts (Moves.authorizes id e e' h : Moves rt s s') h.receipts
      fun k old new hk => ?_
    rw [hk.unique h.toRewrites, h.status]
    decide
  | begins id e e' claimId claim h =>
    refine hs.of_sameReceipts (Moves.begins id e e' claimId claim h : Moves rt s s') h.receipts
      fun k old new hk => ?_
    rw [hk.unique h.toRewrites, h.status]
    decide
  | resolves id e e' receiptId r h => exact hs.resolves h
  | cancels id e e' h =>
    refine hs.of_sameReceipts (Moves.cancels id e e' h : Moves rt s s') h.receipts
      fun k old new hk => ?_
    rw [hk.unique h.toRewrites, h.status]
    decide

/-- INVARIANT: in every reachable ledger, receipts fit the status of their effect. -/
theorem Reachable.receiptsFit (hs : Reachable rt s) : ReceiptsFit s := by
  refine reachable_invariant ?_ (fun _ _ h hI => hI.moves h) hs
  intro workspaceId work others
  constructor
  · intro k r hr
    simp [opening] at hr
  · intro x y hx
    simp [opening] at hx

/-! ### Safety of execution -/

/-- What every reachable ledger owes an effect, now and in whatever runs on. -/
structure ExecutionSafe (rt : EffectRuntime) (s : EffectStore) (id : UuidV7) : Prop where
  /-- The columns fit the status. -/
  shaped : ∀ e, s.effects[id]? = some e → e.Refined
  /-- It enters `executing` by a rightful call, which answers its permit. -/
  entitled : ∀ a, Enters s (s.step rt a) id → ∃ options ctx p e approval claim callerId,
    a = .begin id options ctx ∧ issued rt s a = some p ∧
      Rightful rt s id options ctx p e approval claim callerId
  /-- It enters `executing` at most once. -/
  once : ∀ a actions b, Enters s (s.step rt a) id →
    ¬ Enters (run (step rt) (s.step rt a) actions) (step rt (run (step rt) (s.step rt a) actions) b)
      id
  /-- A terminal state never changes. -/
  terminal : ∀ e actions, s.effects[id]? = some e → e.status ∈ [.committed, .failed, .cancelled] →
    (run (step rt) s actions).effects[id]? = some e
  /-- There is at most one receipt of uncertainty and at most one terminal receipt. -/
  receipts : ∀ x y : UuidV7 × EffectReceipt, s.receipts[x.1]? = some x.2 →
    s.receipts[y.1]? = some y.2 → x.2.effectId = id → y.2.effectId = id →
    (x.2.Terminal ↔ y.2.Terminal) → x = y

/-- CORRECT: the execution of effects is safe in every reachable ledger. -/
theorem effect_execution_safe (hs : Reachable rt s) (id : UuidV7) : ExecutionSafe rt s id where
  shaped e he := (hs.allReadable id e he).refined
  entitled a h := enters_rightful h
  once a actions b h := by
    obtain ⟨e, he, hexecuting⟩ := h.1
    have hbegun : Begun (s.step rt a) id := ⟨e, he, by simp [hexecuting]⟩
    exact (hbegun.run actions).not_enters (step_moves b)
  terminal e actions he hended :=
    run_invariant' (I := fun t : EffectStore => t.effects[id]? = some e)
      (fun t a ht => ended_moves hended ht (step_moves a)) actions he
  receipts x y hx hy hxid hyid := hs.receiptsFit.one x y hx hy (hxid.trans hyid.symm)

theorem effect_execution_safe_plain :
    Executing plainLedger 4 ∧ ExecutionSafe plainEffectRuntime plainLedger 4 := by
  refine ⟨?_, effect_execution_safe plainLedger_reachable 4⟩
  have hstatus : (plainLedger.effects[4]?.map Effect.status) = some .executing := by
    decide +kernel
  exact Option.map_eq_some_iff.1 hstatus

end EffectStore

end Tasq
