import Mathlib.Tactic
import Tasq.Lib.Queue
import Tasq.Waiting.Routing

/-! One sweep after another at one instant.

    A sweep evaluates the first due conditions of a bounded batch, each in a transaction of its own.
    A condition whose evaluation fails stays due and stays in its place, so conditions that fail for
    good fill the batch when they are as many as it holds, and those behind them are never
    evaluated. -/

namespace Tasq

open Text Outcome Run Queue

namespace WaitStore

variable {s s' : WaitStore} {rt : WorkRuntime} {k : UuidV7} {w : WaitRow}

/-! ### What is due -/

/-- The condition waits, and its deadline has come. -/
def Due (s : WaitStore) (sweepNow : UnixMs) (k : UuidV7) : Prop :=
  ∃ w, s.work.waits[k]? = some w ∧ w.status = .waiting ∧ ∃ d ∈ w.deadlineAt, d ≤ sweepNow

/-- The condition is there, and does not wait any more. -/
def Over (s : WaitStore) (k : UuidV7) : Prop :=
  ∃ w, s.work.waits[k]? = some w ∧ w.status ≠ .waiting

theorem Over.not_due {sweepNow : UnixMs} (h : s.Over k) : ¬ s.Due sweepNow k := by
  rintro ⟨w, hw, hwaiting, -⟩
  obtain ⟨w', hw', hover⟩ := h
  obtain rfl := Option.some.inj (hw.symm.trans hw')
  exact hover hwaiting

/-- All due conditions, in the order in which sweeps take them. -/
def dueQueue (s : WaitStore) (sweepNow : UnixMs) : List UuidV7 :=
  let due := Table.rows s.work.waits fun _ w => decide (w.status = .waiting) &&
    w.deadlineAt.any (· ≤ sweepNow)
  (due.insertionSort fun a b => a.2.deadlineAt.getD 0 < b.2.deadlineAt.getD 0 ∨
    a.2.deadlineAt = b.2.deadlineAt ∧ a.1 ≤ b.1).map Prod.fst

/-- Where a condition stands: by its deadline, then by its id. -/
def deadlineRank (e : UuidV7 × WaitRow) : UnixMs ×ₗ UuidV7 := toLex (e.2.deadlineAt.getD 0, e.1)

theorem dueConditions_eq (sweepNow : UnixMs) (limit : ℕ) :
    s.dueConditions sweepNow limit = (s.dueQueue sweepNow).take limit := rfl

theorem mem_due {sweepNow : UnixMs} {e : UuidV7 × WaitRow} :
    e ∈ Table.rows s.work.waits (fun _ w => decide (w.status = .waiting) &&
      w.deadlineAt.any (· ≤ sweepNow)) ↔
      s.work.waits[e.1]? = some e.2 ∧ e.2.status = .waiting ∧
        ∃ d ∈ e.2.deadlineAt, d ≤ sweepNow := by
  rw [Table.mem_rows, Bool.and_eq_true, decide_eq_true_eq, Option.any_eq_true]
  simp only [decide_eq_true_eq, Option.mem_def]

@[simp] theorem mem_dueQueue {sweepNow : UnixMs} : k ∈ s.dueQueue sweepNow ↔ s.Due sweepNow k := by
  simp only [dueQueue, List.mem_map, List.mem_insertionSort, mem_due, Due, Prod.exists]
  constructor
  · rintro ⟨_, w, hw, rfl⟩
    exact ⟨w, hw⟩
  · rintro ⟨w, hw⟩
    exact ⟨k, w, hw, rfl⟩

theorem dueQueue_nodup (sweepNow : UnixMs) : (s.dueQueue sweepNow).Nodup := by
  refine (((List.perm_insertionSort _ _).map _).nodup_iff).2 ?_
  exact (Table.keys_nodup s.work.waits).sublist (List.filter_sublist.map _)

/-- The queue is sorted by rank. -/
theorem dueQueue_eq (sweepNow : UnixMs) :
    s.dueQueue sweepNow = (((Table.rows s.work.waits fun _ w => decide (w.status = .waiting) &&
      w.deadlineAt.any (· ≤ sweepNow)).map deadlineRank).insertionSort (· ≤ ·)).map
        fun rank => (ofLex rank).2 := by
  rw [dueQueue, ← List.map_insertionSort (r := fun a b : UuidV7 × WaitRow =>
    a.2.deadlineAt.getD 0 < b.2.deadlineAt.getD 0 ∨ a.2.deadlineAt = b.2.deadlineAt ∧ a.1 ≤ b.1),
    List.map_map]
  · rfl
  · rintro ⟨i, a⟩ ha ⟨j, b⟩ hb
    obtain ⟨-, -, d, hd, -⟩ := mem_due.1 ha
    obtain ⟨-, -, d', hd', -⟩ := mem_due.1 hb
    simp only [Option.mem_def] at hd hd'
    simp [deadlineRank, Prod.Lex.toLex_le_toLex, hd, hd']

/-- Where no condition comes to wait and none that waits is changed, the queue only gets shorter. -/
theorem dueQueue_sublist {sweepNow : UnixMs} (hsame : ∀ (k : UuidV7) w,
    s'.work.waits[k]? = some w → w.status = .waiting → s.work.waits[k]? = some w) :
    (s'.dueQueue sweepNow).Sublist (s.dueQueue sweepNow) := by
  rw [dueQueue_eq, dueQueue_eq]
  refine List.Sublist.map _ (List.sublist_of_subperm_of_pairwise ?_
    (List.pairwise_insertionSort _ _) (List.pairwise_insertionSort _ _))
  refine (List.perm_insertionSort _ _).subperm.trans (List.Subperm.trans ?_
    (List.perm_insertionSort _ _).symm.subperm)
  refine List.subperm_of_subset ?_ (List.map_subset _ fun e he => ?_)
  · refine List.Nodup.of_map (fun rank => (ofLex rank).2) ?_
    rw [List.map_map]
    exact (Table.keys_nodup s'.work.waits).sublist (List.filter_sublist.map _)
  · obtain ⟨hw, hwaiting, hdue⟩ := mem_due.1 he
    exact mem_due.2 ⟨hsame e.1 e.2 hw hwaiting, hwaiting, hdue⟩

/-! ### One evaluation -/

/-- INVARIANT: the condition of a reconciliation that satisfied is over. -/
def Settled (s : WaitStore) : Prop :=
  ∀ (i : UuidV7) r, s.reconciliations[i]? = some r → r.effect = .satisfied → s.Over r.conditionId

/-- What is over stays so when waits only age. -/
theorem Over.ages (h : s.Over k) (hages : ∀ (k : UuidV7) w, s.work.waits[k]? = some w →
    ∃ w', s'.work.waits[k]? = some w' ∧ w.Ages w') : s'.Over k := by
  obtain ⟨w, hw, hover⟩ := h
  obtain ⟨w', hw', hage⟩ := hages k w hw
  exact ⟨w', hw', hage.eq hover ▸ hover⟩

theorem over_insert {w' : WaitRow} (hclosed : w'.status ≠ .waiting)
    (hwaits : s'.work.waits = s.work.waits.insert k w') : s'.Over k :=
  ⟨w', by rw [hwaits, Std.ExtTreeMap.getElem?_insert_self], hclosed⟩

theorem Over.insert {k' : UuidV7} {w' : WaitRow} (h : s.Over k') (hclosed : w'.status ≠ .waiting)
    (hwaits : s'.work.waits = s.work.waits.insert k w') : s'.Over k' := by
  by_cases hk : k = k'
  · subst hk
    exact over_insert hclosed hwaits
  · obtain ⟨w, hw, hover⟩ := h
    exact ⟨w, by rw [hwaits, Table.getElem?_insert', if_neg hk, hw], hover⟩

/-- MOVE: the invariant asks for no clock. -/
theorem Moves.settled {c : UnixMs} (hm : Moves c s s') (h : s.Settled) : s'.Settled := by
  intro i r hr heffect
  have hages : ∀ (k : UuidV7) w, s.work.waits[k]? = some w →
      ∃ w', s'.work.waits[k]? = some w' ∧ w.Ages w' := fun k w hw => hm.ages hw
  cases hm with
  | closes _ _ hreconciliations | opens _ _ _ _ _ _ _ hreconciliations
  | observes _ _ _ _ _ _ _ hreconciliations
  | expires _ _ _ _ _ _ _ _ _ _ _ _ hreconciliations =>
    rw [hreconciliations] at hr
    exact (h i r hr heffect).ages hages
  | notes j r' _ _ _ _ _ hnot _ _ _ _ hreconciliations =>
    rw [hreconciliations, Table.getElem?_insert'] at hr
    split_ifs at hr with hj
    · obtain rfl := Option.some.inj hr
      exact absurd heffect hnot
    · exact (h i r hr heffect).ages hages
  | satisfies j r' w _ _ _ _ _ _ _ _ _ _ _ hwaits hreconciliations =>
    rw [hreconciliations, Table.getElem?_insert'] at hr
    split_ifs at hr with hj
    · obtain rfl := Option.some.inj hr
      exact over_insert (by simp [WaitRow.satisfiedBy]) hwaits
    · exact (h i r hr heffect).ages hages

theorem Path.settled {c : UnixMs} (hpath : Path c s s') (h : s.Settled) : s'.Settled := by
  induction hpath with
  | refl => exact h
  | tail _ hm ih => exact hm.settled ih

/-- RECONCILE: a waiting condition is left as it is, or is over. -/
theorem reconcileInTransaction_waits {o i : UuidV7} {version : ℕ} {ctx : PrincipalContext}
    {fresh : FreshIds} {r : ReconciliationRow} (hsettled : s.Settled)
    (hw : s.work.waits[k]? = some w) (hwaiting : w.status = .waiting)
    (h : s.reconcileInTransaction rt k o version ctx fresh = .ok (s', i, r)) :
    (r.effect ≠ .satisfied → s'.work.waits = s.work.waits) ∧
      (r.effect = .satisfied → ∃ w', w'.status ≠ .waiting ∧
        s'.work.waits = s.work.waits.insert k w') := by
  refine ⟨fun hnot => ((reconcileInTransaction_path (c := 0) h).2.unsatisfied hnot).1,
    fun heffect => ?_⟩
  unfold reconcileInTransaction at h
  split at h
  · rename_i prior hprior
    obtain ⟨rfl, rfl⟩ := Prod.mk.inj ((pure_eq_ok _ _).1 h)
    obtain ⟨hr, hspec⟩ := Table.mem_rows.1 (List.mem_of_head? hprior)
    simp only [Bool.and_eq_true, decide_eq_true_eq] at hspec
    obtain ⟨w', hw', hover⟩ : s.Over k := hspec.1.1 ▸ hsettled _ _ hr heffect
    obtain rfl := Option.some.inj (hw.symm.trans hw')
    exact absurd hwaiting hover
  · simp only [bind_eq_ok, demand_eq_ok, pure_eq_ok, Prod.mk.injEq] at h
    obtain ⟨_, -, _, -, -, -, _, -, s₁, happly, s₂, hinsert, s₃, hrecord, rfl, -, rfl⟩ := h
    obtain ⟨principals, rfl⟩ := recordReconciled_eq_ok hrecord
    obtain ⟨-, rfl⟩ := insertReconciliation_eq_ok hinsert
    rw [applyEffect, if_pos heffect] at happly
    simp only [bind_eq_ok, Prod.exists, pure_eq_ok] at happly
    obtain ⟨w₁, _, hcaller, w₂, _, hupdate, w₃, hevidence, rfl⟩ := happly
    obtain ⟨-, -, -, rfl⟩ := WorkStore.updateWait_eq_ok hupdate
    obtain ⟨-, rfl⟩ := WorkStore.insertEvidence_eq_ok hevidence
    rw [WorkStore.resolveCallerPrincipal_eq hcaller]
    exact ⟨_, by simp, rfl⟩

/-- LOOP: and so is one whose candidates are examined. -/
theorem reconcileCandidates_waits {version : ℕ} {ctx : PrincipalContext} {fresh : FreshIds}
    {candidates : List UuidV7} {satisfied : Bool} (hsettled : s.Settled)
    (hw : s.work.waits[k]? = some w) (hwaiting : w.status = .waiting)
    (h : reconcileCandidates rt k version ctx fresh candidates s = .ok (s', satisfied)) :
    s'.Settled ∧ (satisfied = false → s'.work.waits = s.work.waits) ∧
      (satisfied = true → ∃ w', w'.status ≠ .waiting ∧
        s'.work.waits = s.work.waits.insert k w') := by
  induction candidates generalizing s with
  | nil =>
    obtain ⟨rfl, rfl⟩ := Prod.mk.inj ((pure_eq_ok _ _).1 h)
    exact ⟨hsettled, fun _ => rfl, by simp⟩
  | cons o rest ih =>
    simp only [reconcileCandidates, bind_eq_ok, Prod.exists] at h
    obtain ⟨s₁, i, r, hreconcile, h⟩ := h
    have hsettled₁ := (reconcileInTransaction_path (c := 0) hreconcile).1.settled hsettled
    obtain ⟨hleft, hover⟩ := reconcileInTransaction_waits hsettled hw hwaiting hreconcile
    split at h
    · rename_i heffect
      obtain ⟨rfl, rfl⟩ := Prod.mk.inj ((pure_eq_ok _ _).1 h)
      exact ⟨hsettled₁, by simp, fun _ => hover heffect⟩
    · rename_i heffect
      have hwaits := hleft heffect
      rw [← hwaits]
      exact ih hsettled₁ (hwaits ▸ hw) h

/-- FALLBACK: materializing one, or finding the one of before, leaves the conditions. -/
theorem materializeFallback_waits {work work' : WorkStore} {actor : String} {now : UnixMs}
    {freshId : UuidV7} {resultId : Option UuidV7}
    (h : work.materializeFallback rt k w actor now freshId = .ok (work', resultId)) :
    work'.waits = work.waits := by
  unfold WorkStore.materializeFallback at h
  split at h
  · obtain ⟨rfl, -⟩ := Prod.mk.inj ((pure_eq_ok _ _).1 h)
    rfl
  · simp only [bind_eq_ok, pure_eq_ok, Prod.exists, Prod.mk.injEq] at h
    obtain ⟨identity, -, w₁, _, hrun, rfl, -⟩ := h
    obtain ⟨retries, rfl⟩ | ⟨retries, w₂, outcome, retries', hperform, rfl⟩ :=
      WorkStore.idempotent_eq_ok hrun
    · rfl
    · exact (WorkStore.performFallback_frame hperform).1

/-- The checks of an evaluation on its options. -/
structure EvaluateDeadlineOptions.Sound (options : EvaluateDeadlineOptions) : Prop where
  actor : ¬ Blank (options.actor.getD "deadline-sweeper")
  matcherVersion : options.matcherVersion ≠ some 0
  sweepNow : options.sweepNow ≤ Json.maxSafeInteger

/-- EVALUATE: a due condition is over afterwards, and nothing else changes for conditions. One that
    is not due is left as it is. -/
theorem evaluate_spec {options : EvaluateDeadlineOptions} {fresh : FreshIds}
    {outcome : DeadlineEvaluationOutcome} (hsettled : s.Settled)
    (h : s.evaluateWaitConditionDeadline rt k options fresh = .ok (s', outcome)) :
    options.Sound ∧ s'.Settled ∧ (¬ s.Due options.sweepNow k ∧ s' = s ∨
      s.Due options.sweepNow k ∧
        ∃ w', w'.status ≠ .waiting ∧ s'.work.waits = s.work.waits.insert k w') := by
  simp only [evaluateWaitConditionDeadline, bind_eq_ok, demand_eq_ok, refuse_eq_ok] at h
  obtain ⟨-, hactor, -, hversion, -, hnow, w, hw, h⟩ := h
  refine ⟨⟨hactor, hversion, not_lt.1 hnow⟩, ?_⟩
  split at h
  · rename_i d hwaiting hdue
    rw [Option.filter_eq_some_iff, decide_eq_true_eq] at hdue
    have hdue : s.Due options.sweepNow k := ⟨w, hw, hwaiting, d, hdue⟩
    simp only [bind_eq_ok, Prod.exists] at h
    obtain ⟨-, -, s₁, satisfied, hloop, h⟩ := h
    obtain ⟨hsettled₁, hexamined, hsatisfied⟩ :=
      reconcileCandidates_waits hsettled hw hwaiting hloop
    cases satisfied with
    | true =>
      obtain ⟨rfl, -⟩ := Prod.mk.inj ((pure_eq_ok _ _).1 h)
      exact ⟨hsettled₁, .inr ⟨hdue, hsatisfied rfl⟩⟩
    | false =>
      have hwaits := hexamined rfl
      simp only [Bool.false_eq_true, if_false, bind_eq_ok, Prod.exists, pure_eq_ok,
        Prod.mk.injEq] at h
      obtain ⟨w₁, resultId, hfallback, w₂, hexpire, w₃, hevent, rfl, -⟩ := h
      have hwaits₁ := materializeFallback_waits hfallback
      have hexpired := WorkStore.expireWait_eq_ok (hwaits₁ ▸ hwaits ▸ hw) hwaiting hexpire
      have hclosed : (w.expiredAs resultId options.sweepNow).status ≠ .waiting := by
        simp [WaitRow.expiredAs]
      have hwaits₃ : w₃.waits = s₁.work.waits.insert k (w.expiredAs resultId options.sweepNow) := by
        rw [WorkStore.recordEvent_eq hevent, hexpired, ← hwaits₁]
      refine ⟨fun i r hr heffect => ?_, .inr ⟨hdue, _, hclosed, hwaits ▸ hwaits₃⟩⟩
      exact Over.insert (k := k) (hsettled₁ i r hr heffect) hclosed hwaits₃
  · rename_i hwaiting hnone
    obtain ⟨rfl, -⟩ := Prod.mk.inj ((pure_eq_ok _ _).1 h)
    refine ⟨hsettled, .inl ⟨?_, rfl⟩⟩
    rintro ⟨w', hw', -, d, hd, hdue⟩
    obtain rfl := Option.some.inj (hw.symm.trans hw')
    simp only [Option.filter_eq_none_iff, decide_eq_true_eq, not_le] at hnone
    exact (hnone d hd).not_ge hdue
  · rename_i hdue hnone
    obtain ⟨rfl, -⟩ := Prod.mk.inj ((pure_eq_ok _ _).1 h)
    refine ⟨hsettled, .inl ⟨?_, rfl⟩⟩
    rintro ⟨w', hw', hwaiting, d, hd, hle⟩
    obtain rfl := Option.some.inj (hw.symm.trans hw')
    refine hdue d hwaiting ?_
    rw [Option.filter_eq_some_iff]
    exact ⟨hd, decide_eq_true hle⟩

/-- EVALUATE: one that is over is left as it is. -/
theorem evaluate_over {options : EvaluateDeadlineOptions} {fresh : FreshIds}
    (hsound : options.Sound) (h : s.Over k) :
    s.evaluateWaitConditionDeadline rt k options fresh = .ok (s, .alreadyTerminal) := by
  obtain ⟨w, hw, hover⟩ := h
  simp only [evaluateWaitConditionDeadline, bind_eq_ok, refuse_eq_ok, demand_eq_ok]
  refine ⟨(), hsound.actor, (), hsound.matcherVersion, (), hsound.sweepNow.not_gt, w, hw, ?_⟩
  split
  · rename_i hwaiting _
    exact absurd hwaiting hover
  · rename_i hwaiting _
    exact absurd hwaiting hover
  · rfl

/-- The evaluation is refused. -/
def Fails (rt : WorkRuntime) (s : WaitStore) (k : UuidV7) (options : EvaluateDeadlineOptions)
    (fresh : FreshIds) : Prop :=
  ∀ r, s.evaluateWaitConditionDeadline rt k options fresh ≠ .ok r

/-- Whether an evaluation is refused can be computed. -/
theorem fails_iff {options : EvaluateDeadlineOptions} {fresh : FreshIds} :
    Fails rt s k options fresh ↔
      (s.evaluateWaitConditionDeadline rt k options fresh).toOption.isNone = true := by
  unfold Fails
  cases s.evaluateWaitConditionDeadline rt k options fresh with
  | error e => simp [Except.toOption]
  | ok r => simp [Except.toOption]

/-! ### One sweep -/

variable {options : EvaluateDeadlineOptions}

theorem sweepOne_of_fails {fresh : UuidV7 → FreshIds} (h : Fails rt s k options (fresh k)) :
    sweepOne rt options fresh s k = s := by
  unfold sweepOne
  cases hevaluate : s.evaluateWaitConditionDeadline rt k options (fresh k) with
  | error e => rfl
  | ok r => exact absurd hevaluate (h r)

/-- TURN: an evaluation that is refused changes nothing. -/
theorem sweepOne_spec (rt : WorkRuntime) (options : EvaluateDeadlineOptions)
    (hsettled : s.Settled) (fresh : UuidV7 → FreshIds) (k : UuidV7) :
    (sweepOne rt options fresh s k).Settled ∧
      (Fails rt s k options (fresh k) ∧ sweepOne rt options fresh s k = s ∨
        options.Sound ∧ (¬ s.Due options.sweepNow k ∧ sweepOne rt options fresh s k = s ∨
          s.Due options.sweepNow k ∧ ∃ w', w'.status ≠ .waiting ∧
            (sweepOne rt options fresh s k).work.waits = s.work.waits.insert k w')) := by
  unfold sweepOne
  cases h : s.evaluateWaitConditionDeadline rt k options (fresh k) with
  | error e =>
    refine ⟨hsettled, .inl ⟨fun r hr => ?_, rfl⟩⟩
    rw [h] at hr
    cases hr
  | ok r =>
    obtain ⟨s', outcome⟩ := r
    obtain ⟨hsound, hsettled', hcases⟩ := evaluate_spec hsettled h
    exact ⟨hsettled', .inr ⟨hsound, hcases⟩⟩

/-- What the evaluations of some conditions leave. -/
structure Swept (rt : WorkRuntime) (options : EvaluateDeadlineOptions) (fresh : UuidV7 → FreshIds)
    (ids : List UuidV7) (s s' : WaitStore) : Prop where
  settled : s'.Settled
  waiting : ∀ (k : UuidV7) w, s'.work.waits[k]? = some w → w.status = .waiting →
    s.work.waits[k]? = some w
  ended : ∀ k, s.Over k → s'.Over k
  other : ∀ k ∉ ids, s'.work.waits[k]? = s.work.waits[k]?
  left : ∀ k, s.Due options.sweepNow k → ¬ s'.Due options.sweepNow k → options.Sound ∧ s'.Over k
  stuck : (∀ k, s.Due options.sweepNow k → s'.Due options.sweepNow k) →
    ∀ k ∈ ids, s.Due options.sweepNow k → Fails rt s k options (fresh k)

theorem Due.congr {sweepNow : UnixMs} (h : s'.work.waits[k]? = s.work.waits[k]?) :
    s'.Due sweepNow k ↔ s.Due sweepNow k := by
  rw [Due, Due, h]

/-- FOLD: one evaluation after another. -/
theorem swept_foldl (hsettled : s.Settled) (fresh : UuidV7 → FreshIds) (ids : List UuidV7) :
    Swept rt options fresh ids s (ids.foldl (sweepOne rt options fresh) s) := by
  induction ids generalizing s with
  | nil =>
    exact ⟨hsettled, fun _ _ h _ => h, fun _ h => h, fun _ _ => rfl, fun _ h h' => absurd h h',
      by simp⟩
  | cons k ids ih =>
    rw [List.foldl_cons]
    obtain ⟨hsettled₁, hcases⟩ := sweepOne_spec rt options hsettled fresh k
    have hrest := ih hsettled₁
    generalize ids.foldl (sweepOne rt options fresh) (sweepOne rt options fresh s k) = t at hrest ⊢
    generalize sweepOne rt options fresh s k = s₁ at hsettled₁ hcases hrest
    -- an evaluation without effect adds at most its own failure
    have hnothing : s₁ = s → (s.Due options.sweepNow k → Fails rt s k options (fresh k)) →
        Swept rt options fresh (k :: ids) s t := by
      rintro rfl hfails
      refine ⟨hrest.settled, hrest.waiting, hrest.ended, fun k' hk' => ?_, hrest.left,
        fun hall k' hk' hdue => ?_⟩
      · exact hrest.other k' fun h => hk' (List.mem_cons_of_mem _ h)
      · rcases List.mem_cons.1 hk' with rfl | hk'
        · exact hfails hdue
        · exact hrest.stuck hall k' hk' hdue
    obtain ⟨hfails, hsame⟩ | ⟨hsound, ⟨hnot, hsame⟩ | ⟨hdue, w', hclosed, hwaits⟩⟩ := hcases
    · exact hnothing hsame fun _ => hfails
    · exact hnothing hsame fun hdue => absurd hdue hnot
    · have hover : t.Over k := hrest.ended k (over_insert hclosed hwaits)
      have hother : ∀ k' ≠ k, s₁.work.waits[k']? = s.work.waits[k']? := by
        intro k' hk'
        rw [hwaits, Table.getElem?_insert', if_neg (Ne.symm hk')]
      refine ⟨hrest.settled, fun k' w hw hwaiting => ?_, fun k' h => ?_, fun k' hk' => ?_,
        fun k' hdue' hnot => ⟨hsound, ?_⟩, fun hall => absurd (hall k hdue) hover.not_due⟩
      · have hw₁ := hrest.waiting k' w hw hwaiting
        have hne : k' ≠ k := by
          rintro rfl
          obtain ⟨w₁, hw₁, hclosed₁⟩ := hover
          obtain rfl := Option.some.inj (hw.symm.trans hw₁)
          exact hclosed₁ hwaiting
        rwa [hother k' hne] at hw₁
      · exact hrest.ended k' (h.insert hclosed hwaits)
      · rw [List.mem_cons, not_or] at hk'
        rw [hrest.other k' hk'.2, hother k' hk'.1]
      · by_cases hne : k' = k
        · exact hne ▸ hover
        · exact (hrest.left k' ((Due.congr (hother k' hne)).2 hdue') hnot).2

/-- STEP: every call keeps the invariant. -/
theorem Settled.perform (h : s.Settled) (a : WaitAction) : (s.perform rt a).Settled := by
  cases a with
  | ingest parsed extension actor now freshId =>
    exact settle_fst_rule (I := Settled) h fun s' b hok => (ingestObservation_path hok).settled h
  | create parsed extension ctx freshId =>
    exact settle_fst_rule (I := fun work => Settled { s with work := work }) h fun work b hok =>
      (createWaitCondition_path (c := 0) hok).settled h
  | cancel conditionId reason ctx =>
    exact settle_fst_rule (I := fun work => Settled { s with work := work }) h fun work b hok =>
      (cancelWaitCondition_path (c := 0) hok).settled h
  | reconcile conditionId observationId matcherVersion ctx fresh =>
    refine settle_fst_rule (I := Settled) h fun s' b hok => ?_
    simp only [reconcileWaitObservation, bind_eq_ok] at hok
    obtain ⟨-, -, -, -, -, -, hok⟩ := hok
    exact (reconcileInTransaction_path (c := 0) hok).1.settled h
  | evaluate conditionId options fresh =>
    exact settle_fst_rule (I := Settled) h fun s' b hok => (evaluate_spec h hok).2.1
  | sweep limit options fresh =>
    refine settle_rule (I := Settled) h fun s' hok => ?_
    simp only [sweepWaitConditionDeadlines, bind_eq_ok, pure_eq_ok] at hok
    obtain ⟨-, -, -, -, rfl⟩ := hok
    exact (swept_foldl h fresh _).settled
  | elsewhere left cancelled now => exact (elsewhere_path (c := 0) left cancelled now).settled h

/-! ### Sweep after sweep -/

/-- The store after some sweeps, each with ids of its own. -/
def sweeps (rt : WorkRuntime) (limit : Option ℕ) (options : EvaluateDeadlineOptions)
    (fresh : ℕ → UuidV7 → FreshIds) (s : WaitStore) : ℕ → WaitStore
  | 0 => s
  | n + 1 =>
    let before := sweeps rt limit options fresh s n
    settle before (before.sweepWaitConditionDeadlines rt limit options (fresh n))

/-- The evaluation of the condition fails in no sweep. -/
def NeverFails (rt : WorkRuntime) (limit : Option ℕ) (options : EvaluateDeadlineOptions)
    (fresh : ℕ → UuidV7 → FreshIds) (s : WaitStore) (k : UuidV7) : Prop :=
  ∀ n, ¬ Fails rt (s.sweeps rt limit options fresh n) k options (fresh n k)

/-- The due conditions that sweeps take before this one and whose evaluation fails for good. -/
def starving (rt : WorkRuntime) (limit : Option ℕ) (options : EvaluateDeadlineOptions)
    (fresh : ℕ → UuidV7 → FreshIds) (s : WaitStore) (k : UuidV7) : Set UuidV7 :=
  {j | j ∈ ahead (s.dueQueue options.sweepNow) k ∧
    ∃ N, ∀ n ≥ N, Fails rt (s.sweeps rt limit options fresh n) j options (fresh n j)}

variable {limit : Option ℕ} {fresh : ℕ → UuidV7 → FreshIds}

/-- SWEEP: a sweep evaluates the first of the queue. -/
theorem sweeps_succ (hnow : options.sweepNow ≤ Json.maxSafeInteger)
    (hlimit : ∀ n ∈ limit, 0 < n ∧ n ≤ 10000) (n : ℕ) :
    s.sweeps rt limit options fresh (n + 1) =
      (((s.sweeps rt limit options fresh n).dueQueue options.sweepNow).take
        (limit.getD 100)).foldl (sweepOne rt options (fresh n))
          (s.sweeps rt limit options fresh n) := by
  have hbounds : ¬ ∃ n ∈ limit, n = 0 ∨ 10000 < n := by
    rintro ⟨m, hm, hbad⟩
    have := hlimit m hm
    omega
  simp only [sweeps, sweepWaitConditionDeadlines, refuse_of_not _ hnow.not_gt,
    refuse_of_not _ hbounds, dueConditions_eq]
  rfl

theorem swept (hsettled : s.Settled) (hnow : options.sweepNow ≤ Json.maxSafeInteger)
    (hlimit : ∀ n ∈ limit, 0 < n ∧ n ≤ 10000) (n : ℕ) :
    (s.sweeps rt limit options fresh n).Settled ∧
      Swept rt options (fresh n)
        (((s.sweeps rt limit options fresh n).dueQueue options.sweepNow).take (limit.getD 100))
        (s.sweeps rt limit options fresh n) (s.sweeps rt limit options fresh (n + 1)) := by
  induction n with
  | zero =>
    refine ⟨hsettled, ?_⟩
    rw [sweeps_succ hnow hlimit]
    exact swept_foldl hsettled _ _
  | succ n ih =>
    refine ⟨ih.2.settled, ?_⟩
    rw [sweeps_succ hnow hlimit (n + 1)]
    exact swept_foldl ih.2.settled _ _

/-- A due condition that is not in the queue any more has ended, under options that pass. -/
theorem ended_of_left (hsettled : s.Settled) (hnow : options.sweepNow ≤ Json.maxSafeInteger)
    (hlimit : ∀ n ∈ limit, 0 < n ∧ n ≤ 10000) (hdue : s.Due options.sweepNow k) (n : ℕ)
    (hleft : ¬ (s.sweeps rt limit options fresh n).Due options.sweepNow k) :
    options.Sound ∧ (s.sweeps rt limit options fresh n).Over k := by
  induction n with
  | zero => exact absurd hdue hleft
  | succ n ih =>
    have hswept : Swept rt options (fresh n) _ _ (s.sweeps rt limit options fresh (n + 1)) :=
      (swept hsettled hnow hlimit n).2
    by_cases hbefore : (s.sweeps rt limit options fresh n).Due options.sweepNow k
    · exact hswept.left k hbefore hleft
    · obtain ⟨hsound, hover⟩ := ih hbefore
      exact ⟨hsound, hswept.ended k hover⟩

/-- REFINES: sweeps are rounds over the queue of due conditions. -/
theorem sweeps_rounds (hsettled : s.Settled) (hnow : options.sweepNow ≤ Json.maxSafeInteger)
    (hlimit : ∀ n ∈ limit, 0 < n ∧ n ≤ 10000) :
    Rounds (fun n => (s.sweeps rt limit options fresh n).dueQueue options.sweepNow)
      (limit.getD 100)
      fun n k => Fails rt (s.sweeps rt limit options fresh n) k options (fresh n k) where
  nodup := dueQueue_nodup _
  shrinks n := dueQueue_sublist (swept hsettled hnow hlimit n).2.waiting
  tried n k hk hleft := by
    by_contra htried
    rw [mem_dueQueue] at hk hleft
    exact hleft ((Due.congr ((swept hsettled hnow hlimit n).2.other k htried)).2 hk)
  stuck n hsame k hk := by
    refine (swept hsettled hnow hlimit n).2.stuck (fun j hj => ?_) k hk
      (mem_dueQueue.1 (List.mem_of_mem_take hk))
    rw [← mem_dueQueue] at hj ⊢
    rwa [hsame]
  left n k hk hleft hfails := by
    rw [mem_dueQueue] at hk hleft
    obtain ⟨hsound, hover⟩ := ended_of_left hsettled hnow hlimit hk n hleft
    exact hfails _ (evaluate_over hsound hover)

end WaitStore

open WaitStore

/-- RUN: the invariant holds in every state that calls reach. -/
theorem WaitSystem.settled_run (rt : WorkRuntime) (workspaceId : String)
    (principals : List Principal) (actions : List WaitAction) :
    (run (WaitSystem.step rt) (WaitSystem.opening workspaceId principals) actions).Settled :=
  run_invariant' (I := fun t : WaitSystem => t.Settled) (fun _ a ht => ht.perform a) actions
    (by simp [Settled, WaitSystem.opening])

/-- EXACT: in every state that calls reach, sweeps at one instant end every due condition whose own
    evaluation never fails exactly when, for each of them, fewer than a batch stand before it and
    fail for good. -/
theorem sweeps_end_iff (rt : WorkRuntime) (workspaceId : String) (principals : List Principal)
    (actions : List WaitAction) (limit : Option ℕ) (options : EvaluateDeadlineOptions)
    (fresh : ℕ → UuidV7 → FreshIds) (hnow : options.sweepNow ≤ Json.maxSafeInteger)
    (hlimit : ∀ n ∈ limit, 0 < n ∧ n ≤ 10000) :
    let s := (run (WaitSystem.step rt) (WaitSystem.opening workspaceId principals)
      actions).toWaitStore
    (∃ N, ∀ n ≥ N, ∀ k, s.Due options.sweepNow k → s.NeverFails rt limit options fresh k →
      (s.sweeps rt limit options fresh n).Over k) ↔
    ∀ k, s.Due options.sweepNow k → s.NeverFails rt limit options fresh k →
      (s.starving rt limit options fresh k).ncard < limit.getD 100 := by
  intro s
  have hsettled : s.Settled := WaitSystem.settled_run rt workspaceId principals actions
  have hrounds : Rounds (fun n => (s.sweeps rt limit options fresh n).dueQueue options.sweepNow)
      _ _ := sweeps_rounds hsettled hnow hlimit
  have hserved : ∀ k, s.Due options.sweepNow k → s.NeverFails rt limit options fresh k →
      ((∃ n, ¬ (s.sweeps rt limit options fresh n).Due options.sweepNow k) ↔
        (s.starving rt limit options fresh k).ncard < limit.getD 100) := by
    intro k hdue hown
    have := hrounds.served_iff (mem_dueQueue.2 hdue) hown
    simp only [mem_dueQueue] at this
    exact this
  constructor
  · rintro ⟨N, hN⟩ k hdue hown
    exact (hserved k hdue hown).1 ⟨N, (hN N le_rfl k hdue hown).not_due⟩
  · intro hfew
    -- the queue is finite, so a last sweep serves all of them
    have hall : ∀ k ∈ {k | k ∈ s.dueQueue options.sweepNow},
        ∀ᶠ n in Filter.atTop, s.NeverFails rt limit options fresh k →
          (s.sweeps rt limit options fresh n).Over k := by
      intro k hk
      have hdue := mem_dueQueue.1 hk
      by_cases hown : s.NeverFails rt limit options fresh k
      · obtain ⟨N, hN⟩ := (hserved k hdue hown).2 (hfew k hdue hown)
        refine Filter.eventually_atTop.2 ⟨N, fun n hn _ => ?_⟩
        refine (ended_of_left hsettled hnow hlimit hdue n fun hlate => hN ?_).2
        exact mem_dueQueue.1 ((hrounds.sublist hn).subset (mem_dueQueue.2 hlate))
      · exact Filter.Eventually.of_forall fun _ h => absurd h hown
    obtain ⟨N, hN⟩ := Filter.eventually_atTop.1
      ((Filter.eventually_all_finite (List.finite_toSet _)).2 hall)
    exact ⟨N, fun n hn k hdue hown => hN n hn k (mem_dueQueue.2 hdue) hown⟩

/-- Two waits of task 1. The first one's fallback activates task 2, the second one has none. -/
def twoWaits : List WaitAction :=
  [.elsewhere { WorkStore.opening "w" [] with
      tasks := Std.ExtTreeMap.ofList [(1, plainTask), (2, plainTask)] } [] 0,
    .create { plainWait with fallback := .activateTask 2 } none ⟨some "p", none, none, 1⟩ 5,
    .create { plainWait with id := some 6, deadlineAt := some 11, fallback := .none } none
      ⟨some "p", none, none, 1⟩ 6]

/-- Task 2 is done before the deadlines. -/
def doneTarget : WaitAction :=
  .elsewhere { WorkStore.opening "w" [] with
    tasks := Std.ExtTreeMap.ofList [(1, plainTask),
      (2, { plainTask with status := .done, completedAt := some 2 })] } [] 2

/-- The ids of an evaluation. -/
def plainFresh (_ : ℕ) (k : UuidV7) : FreshIds :=
  ⟨fun _ => 100 + 3 * k, fun _ => 101 + 3 * k, 102 + 3 * k⟩

/-- Condition 5 fails in every sweep of two, and condition 6 is ended all the same. -/
theorem sweeps_end_plain :
    let s := (run (WaitSystem.step plainWorkRuntime) (WaitSystem.opening "w" [])
      (twoWaits ++ [doneTarget])).toWaitStore
    (∀ n, Fails plainWorkRuntime (s.sweeps plainWorkRuntime (some 2) ⟨none, none, 20⟩ plainFresh n) 5
      ⟨none, none, 20⟩ (plainFresh n 5)) ∧
    ∃ N, ∀ n ≥ N, (s.sweeps plainWorkRuntime (some 2) ⟨none, none, 20⟩ plainFresh n).Over 6 := by
  intro s
  let swept := sweepOne plainWorkRuntime ⟨none, none, 20⟩ (plainFresh 0) s 6
  have hqueue : s.dueQueue 20 = [5, 6] := by decide +kernel
  have hqueue' : swept.dueQueue 20 = [5] := by decide +kernel
  have hfails : Fails plainWorkRuntime s 5 ⟨none, none, 20⟩ (plainFresh 0 5) :=
    fails_iff.2 (by decide +kernel)
  have hfails' : Fails plainWorkRuntime swept 5 ⟨none, none, 20⟩ (plainFresh 0 5) :=
    fails_iff.2 (by decide +kernel)
  have hserved : ¬ Fails plainWorkRuntime s 6 ⟨none, none, 20⟩ (plainFresh 0 6) :=
    fun h => absurd (fails_iff.1 h) (by decide +kernel)
  have hserved' : ¬ Fails plainWorkRuntime swept 6 ⟨none, none, 20⟩ (plainFresh 0 6) :=
    fun h => absurd (fails_iff.1 h) (by decide +kernel)
  -- the first sweep ends condition 6, and no later one changes anything
  have hsweeps : ∀ n, s.sweeps plainWorkRuntime (some 2) ⟨none, none, 20⟩ plainFresh (n + 1) =
      swept := by
    intro n
    induction n with
    | zero =>
      rw [sweeps_succ (by decide) (by simp)]
      change ((s.dueQueue 20).take 2).foldl
        (sweepOne plainWorkRuntime ⟨none, none, 20⟩ (plainFresh 0)) s = swept
      rw [hqueue, List.take_succ_cons, List.foldl_cons, sweepOne_of_fails hfails]
      rfl
    | succ n ih =>
      rw [sweeps_succ (by decide) (by simp), ih]
      change ((swept.dueQueue 20).take 2).foldl
        (sweepOne plainWorkRuntime ⟨none, none, 20⟩ (plainFresh 0)) swept = swept
      rw [hqueue', List.take_succ_cons, List.foldl_cons, sweepOne_of_fails hfails']
      rfl
  have hstuck : ∀ n, Fails plainWorkRuntime
      (s.sweeps plainWorkRuntime (some 2) ⟨none, none, 20⟩ plainFresh n) 5 ⟨none, none, 20⟩
      (plainFresh n 5) := by
    intro n
    cases n with
    | zero => exact hfails
    | succ n => rw [hsweeps]; exact hfails'
  have hpasses : s.NeverFails plainWorkRuntime (some 2) ⟨none, none, 20⟩ plainFresh 6 := by
    intro n
    cases n with
    | zero => exact hserved
    | succ n => rw [hsweeps]; exact hserved'
  have hfew : ∀ k, s.Due 20 k → s.NeverFails plainWorkRuntime (some 2) ⟨none, none, 20⟩ plainFresh k →
      (s.starving plainWorkRuntime (some 2) ⟨none, none, 20⟩ plainFresh k).ncard < 2 := by
    intro k hdue _
    have hk : k ∈ s.dueQueue 20 := mem_dueQueue.2 hdue
    rw [hqueue] at hk
    have hsubset : s.starving plainWorkRuntime (some 2) ⟨none, none, 20⟩ plainFresh k ⊆ {5} := by
      rintro j ⟨hj, -⟩
      change j ∈ ahead (s.dueQueue 20) k at hj
      rw [hqueue] at hj
      have hall : ∀ k ∈ [5, 6], ∀ j ∈ ahead [5, 6] k, j = 5 := by decide
      exact hall k hk j hj
    have hcount := Set.ncard_le_ncard hsubset (Set.finite_singleton 5)
    rw [Set.ncard_singleton] at hcount
    exact Nat.lt_succ_of_le hcount
  obtain ⟨N, hN⟩ := (sweeps_end_iff plainWorkRuntime "w" [] (twoWaits ++ [doneTarget]) (some 2)
    ⟨none, none, 20⟩ plainFresh (by decide) (by simp)).2 hfew
  exact ⟨hstuck, N, fun n hn => hN n hn 6 (mem_dueQueue.1 (hqueue ▸ by decide)) hpasses⟩

/-- NOT SO: one condition whose fallback fails keeps another from ever being evaluated. -/
theorem starved :
    let s := (run (WaitSystem.step plainWorkRuntime) (WaitSystem.opening "w" [])
      (twoWaits ++ [doneTarget])).toWaitStore
    s.Due 20 6 ∧ s.NeverFails plainWorkRuntime (some 1) ⟨none, none, 20⟩ plainFresh 6 ∧
      ∀ n, (s.sweeps plainWorkRuntime (some 1) ⟨none, none, 20⟩ plainFresh n).Due 20 6 := by
  intro s
  have hdue : s.Due 20 6 := by
    rw [← mem_dueQueue]
    decide +kernel
  have hqueue : s.dueQueue 20 = [5, 6] := by decide +kernel
  have hfails : Fails plainWorkRuntime s 5 ⟨none, none, 20⟩ (plainFresh 0 5) :=
    fails_iff.2 (by decide +kernel)
  have hserved : ¬ Fails plainWorkRuntime s 6 ⟨none, none, 20⟩ (plainFresh 0 6) :=
    fun h => absurd (fails_iff.1 h) (by decide +kernel)
  have hsame : ∀ n, s.sweeps plainWorkRuntime (some 1) ⟨none, none, 20⟩ plainFresh n = s := by
    intro n
    induction n with
    | zero => rfl
    | succ n ih =>
      rw [sweeps_succ (by decide) (by simp), ih]
      change ((s.dueQueue 20).take 1).foldl
        (sweepOne plainWorkRuntime ⟨none, none, 20⟩ (plainFresh 0)) s = s
      rw [hqueue, List.take_succ_cons, List.foldl_cons, sweepOne_of_fails hfails]
      rfl
  refine ⟨hdue, fun n => ?_, fun n => by rw [hsame]; exact hdue⟩
  rw [hsame]
  exact hserved

end Tasq
