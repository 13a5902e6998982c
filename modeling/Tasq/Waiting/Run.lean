import Mathlib.Tactic
import Tasq.Lib.Run
import Tasq.Waiting.Moves

/-! Runs of ingestion, reconciliation, sweeps and cancellation, in any order. Every call is a path
    of moves, so the law holds whichever of them comes first. -/

namespace Tasq

open Text Outcome Run

namespace WorkStore

variable {s s' : WorkStore} {rt : WorkRuntime} {k : UuidV7} {w : WaitRow} {now : UnixMs}

theorem insertWait_eq_ok (h : s.insertWait k w = .ok s') :
    k ∉ s.waits ∧ s' = { s with waits := s.waits.insert k w } := by
  simp only [insertWait, bind_eq_ok, refuse_eq_ok, not_or, pure_eq_ok] at h
  obtain ⟨-, -, -, -, -, ⟨hk, -⟩, -, -, rfl⟩ := h
  exact ⟨hk, rfl⟩

theorem insertEvidence_eq_ok {e : UuidV7} {evidence : EvidenceRow}
    (h : s.insertEvidence e evidence = .ok s') :
    e ∉ s.evidence ∧ s' = { s with evidence := s.evidence.insert e evidence } := by
  simp only [insertEvidence, bind_eq_ok, refuse_eq_ok, not_or, pure_eq_ok] at h
  obtain ⟨-, -, -, -, -, ⟨he, -⟩, rfl⟩ := h
  exact ⟨he, rfl⟩

/-- Taking over a ledger that leaves the waits alone. -/
theorem absorb_waits_eq {l : Ledger} (h : l.waits = s.ledger.waits) :
    (s.absorb l now).waits = s.waits := by
  refine Table.ext_rows fun k => ?_
  simp only [absorb, h, ledger, Std.ExtTreeMap.getElem?_map]
  rcases hk : s.waits[k]? with _ | w
  · rfl
  · by_cases hwaiting : w.status = .waiting <;> simp [hwaiting]

/-- A new task leaves the waits alone. -/
theorem createTaskInTransaction_waits {l l' : Ledger} {rt : Runtime} {parsed : TaskInsert}
    {ctx : TaskContext} {row : Task} (h : l.createTaskInTransaction rt parsed ctx = .ok (l', row)) :
    l'.waits = l.waits := by
  have hgoes := Ledger.createTaskInTransaction_goes h
  refine hgoes.path.invariant (I := fun r => r.waits = l.waits) (fun r r' m hm htakes hr => ?_) rfl
  subst hm
  obtain ⟨id, row, -, -, rfl⟩ := htakes
  exact hr

/-- FALLBACK: materializing one touches neither conditions, nor evidence, nor records of calls. -/
theorem performFallback_frame {actor : String} {freshId result : UuidV7}
    {outcome : Option (Retry.IdempotencyOutcome String)}
    (h : s.performFallback rt k w actor now freshId = .ok (s', result, outcome)) :
    s'.waits = s.waits ∧ s'.evidence = s.evidence ∧ s'.retries = s.retries ∧
      ∃ out, outcome = some out ∧ out.resultId = result := by
  unfold performFallback at h
  split at h
  · cases h
  · simp only [activateTaskInTransaction, bind_eq_ok, pure_eq_ok, Prod.mk.injEq] at h
    obtain ⟨_, ⟨_, -, _, -, _, -, _, -, _, -, hevent⟩, rfl, rfl, rfl⟩ := h
    rw [recordEvent_eq hevent]
    exact ⟨rfl, rfl, rfl, _, rfl, rfl⟩
  · simp only [bind_eq_ok, Prod.exists, pure_eq_ok, Prod.mk.injEq] at h
    obtain ⟨_, -, _, -, l, _, hcreate, rfl, rfl, rfl⟩ := h
    exact ⟨absorb_waits_eq (createTaskInTransaction_waits hcreate), rfl, rfl, _, rfl, rfl⟩

/-- What a search finds was there, under the operation and the key of the identity. -/
theorem find_mem {rows rows' : List (Retry.IdempotencyRecord WorkOperation String)}
    {p : Retry.Identity WorkOperation}
    {found : Option (Retry.IdempotencyRecord WorkOperation String)}
    (h : Retry.findIdempotencyResult rows (some p) = .ok (rows', found)) :
    (∀ r ∈ rows', r ∈ rows) ∧
      ∀ r ∈ found, r ∈ rows' ∧ r.operation = p.operation ∧ r.key = p.key := by
  simp only [Retry.findIdempotencyResult, bind_eq_ok, pure_eq_ok, Prod.mk.injEq] at h
  obtain ⟨-, -, rfl, rfl⟩ := h
  refine ⟨fun r hr => List.mem_of_mem_filter hr, fun r hr => ?_⟩
  have hrow : ∀ scope, Retry.row (Retry.dropExpired rows p) scope p.operation p.key = some r →
      r ∈ Retry.dropExpired rows p ∧ r.operation = p.operation ∧ r.key = p.key := by
    intro scope hrow
    have hspec := List.find?_some hrow
    simp only [decide_eq_true_eq] at hspec
    exact ⟨List.mem_of_find?_eq_some hrow, hspec.2⟩
  rcases (Option.orElse_eq_some _ _ _).1 hr with hown | ⟨-, hlegacy⟩
  · exact hrow _ hown
  · exact hrow _ hlegacy

/-- FALLBACK: for a condition without records, one is materialized and recorded. -/
theorem materializeFallback_spec {actor : String} {freshId : UuidV7} {resultId : Option UuidV7}
    (hnone : s.fallbacks k = [])
    (h : s.materializeFallback rt k w actor now freshId = .ok (s', resultId)) :
    s'.waits = s.waits ∧ s'.evidence = s.evidence ∧
      ∃ record : Option (Retry.IdempotencyRecord WorkOperation String),
        resultId = record.map (·.resultId) ∧ (record.isSome ↔ w.fallback ≠ .none) ∧
          ∀ k', s'.fallbacks k' = s.fallbacks k' ++ if k' = k then record.toList else [] := by
  unfold materializeFallback at h
  split at h
  · rename_i hfallback
    obtain ⟨rfl, rfl⟩ := Prod.mk.inj ((pure_eq_ok _ _).1 h)
    exact ⟨rfl, rfl, none, rfl, by simp [hfallback], by simp⟩
  · rename_i hfallback
    simp only [prepareDurable, bind_eq_ok, pure_eq_ok, Prod.exists, Prod.mk.injEq] at h
    obtain ⟨_, ⟨-, -, -, -, scope, -, rfl⟩, s₁, id, hrun, rfl, rfl⟩ := h
    simp only [idempotent, bind_eq_ok, Prod.exists] at hrun
    obtain ⟨retries, prior, hfind, hrun⟩ := hrun
    obtain ⟨hsub, hprior⟩ := find_mem hfind
    have hempty : ∀ r ∈ s.retries, ¬ FallbackRecord k r := by
      simpa [fallbacks, List.filter_eq_nil_iff] using hnone
    cases prior with
    | some record =>
      -- a record under this key would be one of the condition
      obtain ⟨hmem, hop, hkey⟩ := hprior record rfl
      exact absurd ⟨hop, hkey⟩ (hempty record (hsub record hmem))
    | none =>
      have hkept : ∀ k', retries.filter (FallbackRecord k' ·) = s.fallbacks k' := fun k' => by
        rcases eq_or_ne k' k with rfl | hk
        · rw [hnone, List.filter_eq_nil_iff]
          exact fun r hr => by simpa using hempty r (hsub r hr)
        · refine fallbacks_find hfind fun p hp hother => hk ?_
          obtain rfl := Option.some.inj hp
          exact (fallbackKey_inj hother.2).symm
      simp only [bind_eq_ok, Prod.exists] at hrun
      obtain ⟨s₂, _, outcome, hperform, hrun⟩ := hrun
      obtain ⟨hwaits, hevidence, hretries, out, rfl, rfl⟩ := performFallback_frame hperform
      simp only [bind_eq_ok, pure_eq_ok, Prod.mk.injEq] at hrun
      obtain ⟨retries', hsave, rfl, rfl⟩ := hrun
      obtain ⟨r, rfl, hop, hkey, rfl⟩ := fallbacks_save hsave
      refine ⟨hwaits, hevidence, some r, rfl, by simp [hfallback], fun k' => ?_⟩
      have hr : FallbackRecord k' r ↔ k' = k := by
        unfold FallbackRecord
        rw [hop, hkey]
        exact ⟨fun h => (fallbackKey_inj h.2).symm, fun h => h ▸ ⟨rfl, rfl⟩⟩
      rw [fallbacks, List.filter_append, hretries, hkept, List.filter_singleton]
      simp only [hr]
      by_cases hk : k' = k
      · simp [hk]
      · simp [hk]

theorem prepareIdempotency_operation {ctx : PrincipalContext} {operation : WorkOperation}
    {request : WorkRequest} {legacyRequest : Option WorkRequest}
    {identity : Option (Retry.Identity WorkOperation)}
    (h : s.prepareIdempotency rt ctx operation request legacyRequest = .ok identity) :
    ∀ p ∈ identity, p.operation = operation := by
  unfold prepareIdempotency Retry.prepareIdempotency at h
  split at h
  · obtain rfl := (pure_eq_ok _ _).1 h
    simp
  · simp only [bind_eq_ok, pure_eq_ok] at h
    obtain ⟨-, -, -, -, -, -, scope, -, rfl⟩ := h
    rintro p ⟨⟩
    rfl

theorem requireSuperseded_eq_ok {taskId : UuidV7} {id : Option UuidV7}
    {found : Option (UuidV7 × WaitRow)} (h : s.requireSuperseded taskId id = .ok found) :
    ∀ e ∈ found, s.waits[e.1]? = some e.2 ∧ e.2.status = .waiting := by
  unfold requireSuperseded at h
  split at h
  · obtain rfl := (pure_eq_ok _ _).1 h
    simp
  · simp only [bind_eq_ok, demand_eq_ok, refuse_eq_ok, not_not, pure_eq_ok] at h
    obtain ⟨row, hrow, -, -, -, hwaiting, rfl⟩ := h
    rintro e ⟨⟩
    exact ⟨hrow, hwaiting⟩

/-- CREATE: one new waiting condition, and at most the superseded one ends. -/
theorem performCreateWait_spec {parsed : WaitConditionInsert} {actor : String} {freshId : UuidV7}
    {outcome : Option (Retry.IdempotencyOutcome String)}
    (h : s.performCreateWait rt parsed actor now freshId = .ok (s', (k, w), outcome)) :
    k ∉ s.waits ∧ w.status = .waiting ∧ w.fallbackResultTaskId = none ∧
      Table.Revised WaitRow.Lapses (s.waits.insert k w) s'.waits ∧ s'.evidence = s.evidence ∧
        s'.retries = s.retries := by
  simp only [performCreateWait, bind_eq_ok, pure_eq_ok, Prod.mk.injEq] at h
  obtain ⟨_, -, _, -, superseded, hsuperseded, s₁, hinsert, s₂, hcancel, s₃, hevent, rfl,
    ⟨rfl, rfl⟩, -⟩ := h
  obtain ⟨hk, rfl⟩ := insertWait_eq_ok hinsert
  refine ⟨hk, rfl, rfl, ?_⟩
  rw [recordEvent_eq hevent]
  unfold cancelSuperseded at hcancel
  split at hcancel
  · obtain rfl := (pure_eq_ok _ _).1 hcancel
    exact ⟨.refl (fun _ => .inl rfl) _, rfl, rfl⟩
  · rename_i id row
    obtain ⟨hrow, hwaiting⟩ := requireSuperseded_eq_ok hsuperseded _ rfl
    simp only [bind_eq_ok, Prod.exists] at hcancel
    obtain ⟨s₄, _, hupdate, hevent'⟩ := hcancel
    obtain ⟨-, -, -, rfl⟩ := updateWait_eq_ok hupdate
    rw [recordEvent_eq hevent']
    refine ⟨.insert (fun _ => .inl rfl) ?_ (.inr ⟨hwaiting, _, _, rfl⟩), rfl, rfl⟩
    rw [Table.getElem?_insert', if_neg, hrow]
    rintro rfl
    exact hk (Table.mem_of_getElem? hrow)

/-- EXPIRE: a waiting condition ends. -/
theorem expireWait_eq_ok {resultId : Option UuidV7} (hw : s.waits[k]? = some w)
    (hwaiting : w.status = .waiting) (h : s.expireWait k resultId now = .ok s') :
    s' = { s with waits := s.waits.insert k (w.expiredAs resultId now) } := by
  have hfound : s.waits[k]?.filter (·.status = .waiting) = some w := by simp [hw, hwaiting]
  simp only [expireWait, hfound, bind_eq_ok, Prod.exists, pure_eq_ok] at h
  obtain ⟨-, -, s₁, _, hupdate, rfl⟩ := h
  exact (updateWait_eq_ok hupdate).2.2.2

end WorkStore

namespace WaitStore

variable {s s' : WaitStore} {rt : WorkRuntime} {c : UnixMs} {k : UuidV7} {w : WaitRow}

/-! ### Calls as paths -/

theorem Beside.of_evidence {work : WorkStore} (h : work.evidence = s.work.evidence) :
    Beside s { s with work := work } where
  observations := rfl
  routes := rfl
  evidence _ _ hrow := h ▸ hrow

/-- MOVE: work elsewhere in the workspace. -/
theorem Moves.work {work : WorkStore} (hwaits : work.waits = s.work.waits)
    (hevidence : work.evidence = s.work.evidence)
    (hfallbacks : ∀ k, work.fallbacks k = s.work.fallbacks k) :
    Moves c s { s with work := work } :=
  .closes (.of_evidence hevidence) (hwaits ▸ .refl (fun _ => .inl rfl) _) rfl hfallbacks

/-- MOVE: a waiting condition is cancelled. -/
theorem Moves.cancels {work : WorkStore} (reason : String) (now : UnixMs)
    (hw : s.work.waits[k]? = some w) (hwaiting : w.status = .waiting)
    (hwaits : work.waits = s.work.waits.insert k (w.cancelledAs reason now))
    (hevidence : work.evidence = s.work.evidence) (hretries : work.retries = s.work.retries) :
    Moves c s { s with work := work } :=
  .closes (.of_evidence hevidence)
    (hwaits ▸ .insert (fun _ => .inl rfl) hw (.inr ⟨hwaiting, reason, now, rfl⟩)) rfl
    fun k => by rw [WorkStore.fallbacks, hretries, WorkStore.fallbacks]

/-- INGEST: a delivery that is new is recorded now. -/
theorem ingestObservation_path {parsed : ObservationInsert} {extension actor : Option String}
    {freshId o : UuidV7} {row : ObservationRow}
    (h : s.ingestObservation rt parsed extension actor c freshId = .ok (s', o, row)) :
    Path c s s' := by
  simp only [ingestObservation, bind_eq_ok] at h
  obtain ⟨-, -, -, -, -, -, -, -, -, -, -, -, -, -, h⟩ := h
  split at h
  · simp only [bind_eq_ok, pure_eq_ok, Prod.mk.injEq] at h
    obtain ⟨-, -, rfl, -⟩ := h
    exact .refl s
  · simp only [insertObservation, bind_eq_ok, refuse_eq_ok, not_or, pure_eq_ok,
      Prod.mk.injEq] at h
    obtain ⟨_, ⟨-, -, -, ⟨ho, -⟩, rfl⟩, rfl, rfl, rfl⟩ := h
    exact .one (.observes _ _ rfl ho rfl rfl rfl rfl)

/-- CANCEL: a waiting condition ends. -/
theorem cancelWaitCondition_path {reason : String} {ctx : PrincipalContext} {work : WorkStore}
    {row : WaitRow} (h : s.work.cancelWaitCondition rt k reason ctx = .ok (work, row)) :
    Path c s { s with work := work } := by
  simp only [WorkStore.cancelWaitCondition, bind_eq_ok, demand_eq_ok] at h
  obtain ⟨-, -, -, -, before, hbefore, h⟩ := h
  split at h
  · simp only [bind_eq_ok, pure_eq_ok, Prod.mk.injEq] at h
    obtain ⟨-, -, rfl, -⟩ := h
    exact .refl s
  · simp only [bind_eq_ok, Prod.exists, pure_eq_ok, Prod.mk.injEq] at h
    obtain ⟨-, -, -, -, w₁, after, hupdate, w₂, hevent, rfl, -⟩ := h
    obtain ⟨hwaiting, -, -, rfl⟩ := WorkStore.updateWait_eq_ok hupdate
    refine .one (.cancels (jsTrim reason) ctx.now hbefore hwaiting ?_ ?_ ?_) <;>
      rw [WorkStore.recordEvent_eq hevent]

/-- CREATE: a new condition waits. -/
theorem createWaitCondition_path {parsed : WaitConditionInsert} {extension : Option String}
    {ctx : PrincipalContext} {freshId : UuidV7} {work : WorkStore}
    (h : s.work.createWaitCondition rt parsed extension ctx freshId = .ok (work, k, w)) :
    Path c s { s with work := work } := by
  simp only [WorkStore.createWaitCondition, bind_eq_ok] at h
  obtain ⟨-, -, -, -, -, -, -, -, -, -, identity, hidentity, h⟩ := h
  have hoperation := WorkStore.prepareIdempotency_operation hidentity
  have hfallbacks : ∀ k, work.fallbacks k = s.work.fallbacks k := fun k =>
    WorkStore.fallbacks_idempotent h (.of_operation (fun p hp => by simp [hoperation p hp]) k)
      fun s₀ s₁ outcome hrun => (WorkStore.performCreateWait_spec hrun).2.2.2.2.2
  obtain ⟨retries, rfl⟩ | ⟨retries, s₁, outcome, retries', hrun, rfl⟩ :=
    WorkStore.idempotent_eq_ok h
  · exact .one (.work rfl rfl hfallbacks)
  · obtain ⟨hk, hwaiting, hresult, hwaits, hevidence, -⟩ := WorkStore.performCreateWait_spec hrun
    have hopens : Moves c s { s with work := { s.work with waits := s.work.waits.insert k w } } :=
      .opens k w (.of_evidence rfl) hk hwaiting hresult rfl rfl fun _ => rfl
    refine (Path.one hopens).append (.one (.closes ⟨rfl, rfl, ?_⟩ hwaits rfl hfallbacks))
    intro e row hrow
    exact hevidence ▸ hrow

/-! ### Reconciliation -/

theorem insertReconciliation_eq_ok {i : UuidV7} {r : ReconciliationRow}
    (h : s.insertReconciliation i r = .ok s') :
    i ∉ s.reconciliations ∧ s' = { s with reconciliations := s.reconciliations.insert i r } := by
  simp only [insertReconciliation, bind_eq_ok, refuse_eq_ok, not_or, pure_eq_ok] at h
  obtain ⟨-, -, -, ⟨hi, -⟩, rfl⟩ := h
  exact ⟨hi, rfl⟩

theorem recordReconciled_eq_ok {effect : ReconciliationEffect} {ctx : PrincipalContext}
    (h : s.recordReconciled rt effect ctx = .ok s') :
    ∃ principals, s' = { s with work := { s.work with principals := principals } } := by
  simp only [recordReconciled, bind_eq_ok] at h
  obtain ⟨w₁, hevent, h⟩ := h
  rw [WorkStore.recordEvent_eq hevent] at h
  split at h
  · simp only [bind_eq_ok, pure_eq_ok] at h
    obtain ⟨w₂, hevent₂, w₃, hevent₃, rfl⟩ := h
    rw [WorkStore.recordEvent_eq hevent₃, WorkStore.recordEvent_eq hevent₂]
    exact ⟨_, rfl⟩
  · obtain rfl := (pure_eq_ok _ _).1 h
    exact ⟨_, rfl⟩

/-- The reconciliation is stored, about this condition and this fact. A state that nothing
    satisfied has the conditions and facts of before. -/
structure Reconciled (s s' : WaitStore) (k o i : UuidV7) (r : ReconciliationRow) : Prop where
  stored : s'.reconciliations[i]? = some r
  condition : r.conditionId = k
  observation : r.observationId = o
  unsatisfied : r.effect ≠ .satisfied → s'.work.waits = s.work.waits ∧
    s'.observations = s.observations ∧ s'.routes = s.routes

/-- RECONCILE: one move, and what it stored. -/
theorem reconcileInTransaction_path {o i : UuidV7} {version : ℕ} {ctx : PrincipalContext}
    {fresh : FreshIds} {r : ReconciliationRow}
    (h : s.reconcileInTransaction rt k o version ctx fresh = .ok (s', i, r)) :
    Path c s s' ∧ Reconciled s s' k o i r := by
  unfold reconcileInTransaction at h
  split at h
  · rename_i prior hprior
    obtain ⟨rfl, rfl⟩ := Prod.mk.inj ((pure_eq_ok _ _).1 h)
    obtain ⟨hr, hspec⟩ := Table.mem_rows.1 (List.mem_of_head? hprior)
    simp only [Bool.and_eq_true, decide_eq_true_eq] at hspec
    exact ⟨.refl s, hr, hspec.1.1, hspec.1.2, fun _ => ⟨rfl, rfl, rfl⟩⟩
  · simp only [bind_eq_ok, demand_eq_ok, pure_eq_ok, Prod.mk.injEq] at h
    obtain ⟨w, hw, row, hrow, -, -, found, hfound, s₁, happly, s₂, hinsert, s₃, hrecord, rfl, rfl,
      rfl⟩ := h
    obtain ⟨hsatisfied, hterminal, hnoChange⟩ := effectOf_spec hfound
    obtain ⟨principals, rfl⟩ := recordReconciled_eq_ok hrecord
    obtain ⟨hi, rfl⟩ := insertReconciliation_eq_ok hinsert
    unfold applyEffect at happly
    split at happly
    · rename_i heffect
      obtain ⟨hwaiting, htimely⟩ := hsatisfied heffect
      simp only [bind_eq_ok, Prod.exists, pure_eq_ok] at happly
      obtain ⟨w₁, attribution, hcaller, w₂, _, hupdate, w₃, hevidence, rfl⟩ := happly
      obtain ⟨-, -, -, rfl⟩ := WorkStore.updateWait_eq_ok hupdate
      obtain ⟨he, rfl⟩ := WorkStore.insertEvidence_eq_ok hevidence
      rw [WorkStore.resolveCallerPrincipal_eq hcaller] at he ⊢
      refine ⟨.one (.satisfies _ _ w row ctx.now _ _ ⟨rfl, rfl, fun e evidence hstored => ?_⟩ hw
        hwaiting hrow heffect htimely hi rfl rfl (if_pos heffect)
        Std.ExtTreeMap.getElem?_insert_self rfl fun _ => rfl),
        Std.ExtTreeMap.getElem?_insert_self, rfl, rfl, fun hne => absurd heffect hne⟩
      refine (Table.getElem?_insert' _ _ _ _).trans ?_
      rw [if_neg]
      · exact hstored
      · rintro rfl
        exact he (Table.mem_of_getElem? hstored)
    · rename_i heffect
      obtain rfl := (pure_eq_ok _ _).1 happly
      exact ⟨.one (.notes _ _ w row ⟨rfl, rfl, fun _ _ hstored => hstored⟩ hw hrow heffect hterminal
        hnoChange hi rfl rfl fun _ => rfl), Std.ExtTreeMap.getElem?_insert_self, rfl, rfl,
        fun _ => ⟨rfl, rfl, rfl⟩⟩

/-! ### Sweeps -/

/-- LOOP: the candidates are examined until one satisfies the condition. -/
theorem reconcileCandidates_path {version : ℕ} {ctx : PrincipalContext} {fresh : FreshIds}
    {candidates : List UuidV7} {satisfied : Bool}
    (h : reconcileCandidates rt k version ctx fresh candidates s = .ok (s', satisfied)) :
    Path c s s' ∧ (satisfied = true → ∃ i, s'.SatisfiedBy k i) ∧
      (satisfied = false → (s'.work.waits = s.work.waits ∧ s'.observations = s.observations ∧
        s'.routes = s.routes) ∧ ∀ o ∈ candidates, ∃ (i : UuidV7) (r : ReconciliationRow),
          s'.reconciliations[i]? = some r ∧ r.conditionId = k ∧ r.observationId = o ∧
            r.effect ≠ .satisfied) := by
  induction candidates generalizing s with
  | nil =>
    obtain ⟨rfl, rfl⟩ := Prod.mk.inj ((pure_eq_ok _ _).1 h)
    exact ⟨.refl s, by simp, fun _ => ⟨⟨rfl, rfl, rfl⟩, by simp⟩⟩
  | cons o rest ih =>
    simp only [reconcileCandidates, bind_eq_ok, Prod.exists] at h
    obtain ⟨s₁, i, r, hreconcile, h⟩ := h
    obtain ⟨hpath, hreconciled⟩ := reconcileInTransaction_path (c := c) hreconcile
    split at h
    · rename_i heffect
      obtain ⟨rfl, rfl⟩ := Prod.mk.inj ((pure_eq_ok _ _).1 h)
      exact ⟨hpath, fun _ => ⟨i, r, hreconciled.stored, hreconciled.condition, heffect⟩, by simp⟩
    · rename_i heffect
      obtain ⟨hrest, hsatisfied, hexamined⟩ := ih h
      refine ⟨hpath.append hrest, hsatisfied, fun hfalse => ?_⟩
      obtain ⟨⟨hwaits, hobservations, hroutes⟩, hall⟩ := hexamined hfalse
      obtain ⟨hwaits₁, hobservations₁, hroutes₁⟩ := hreconciled.unsatisfied heffect
      refine ⟨⟨hwaits.trans hwaits₁, hobservations.trans hobservations₁,
        hroutes.trans hroutes₁⟩, fun o' ho' => ?_⟩
      rcases List.mem_cons.1 ho' with rfl | ho'
      · exact ⟨i, r, hrest.reconciliation hreconciled.stored, hreconciled.condition,
          hreconciled.observation, heffect⟩
      · exact hall o' ho'

/-- EVALUATE: an evaluation that is due ends the condition. -/
theorem evaluateWaitConditionDeadline_path {options : EvaluateDeadlineOptions} {fresh : FreshIds}
    {outcome : DeadlineEvaluationOutcome} (hlaw : s.Law c) (hnow : options.sweepNow ≤ c)
    (h : s.evaluateWaitConditionDeadline rt k options fresh = .ok (s', outcome)) :
    Path c s s' ∧ ∀ w, s.work.waits[k]? = some w → (∃ d ∈ w.deadlineAt, d ≤ options.sweepNow) →
      ∃ w', s'.work.waits[k]? = some w' ∧ w'.status ≠ .waiting := by
  simp only [evaluateWaitConditionDeadline, bind_eq_ok, demand_eq_ok] at h
  obtain ⟨-, -, -, -, -, -, w, hw, h⟩ := h
  split at h
  · rename_i d hwaiting hdue
    rw [Option.filter_eq_some_iff, decide_eq_true_eq] at hdue
    simp only [bind_eq_ok, Prod.exists] at h
    obtain ⟨-, -, s₁, satisfied, hloop, h⟩ := h
    obtain ⟨hpath, hsatisfied, hexamined⟩ := reconcileCandidates_path (c := c) hloop
    have hlaw₁ := hpath.law hlaw
    cases satisfied with
    | true =>
      obtain ⟨rfl, -⟩ := Prod.mk.inj ((pure_eq_ok _ _).1 h)
      obtain ⟨i, hi⟩ := hsatisfied rfl
      obtain ⟨w', hw', hstatus⟩ := hlaw₁.status hi
      exact ⟨hpath, fun _ _ _ => ⟨w', hw', by simp [hstatus]⟩⟩
    | false =>
      obtain ⟨⟨hwaits, hobservations, hroutes⟩, hall⟩ := hexamined rfl
      have hw₁ : s₁.work.waits[k]? = some w := by rw [hwaits, hw]
      have hcandidates : s₁.listCandidateObservations w d = s.listCandidateObservations w d := by
        rw [listCandidateObservations, listCandidateObservations, hobservations, hroutes]
      simp only [Bool.false_eq_true, if_false, bind_eq_ok, Prod.exists, pure_eq_ok,
        Prod.mk.injEq] at h
      obtain ⟨w₁, resultId, hfallback, w₂, hexpire, w₃, hevent, rfl, -⟩ := h
      obtain ⟨hwaits₁, hevidence₁, record, rfl, hsome, hfallbacks⟩ :=
        WorkStore.materializeFallback_spec (hlaw₁.fallbacks_waiting hw₁ hwaiting) hfallback
      obtain rfl := WorkStore.expireWait_eq_ok (hwaits₁ ▸ hw₁) hwaiting hexpire
      rw [WorkStore.recordEvent_eq hevent]
      refine ⟨hpath.append (.one (.expires k w d options.sweepNow record ⟨rfl, rfl, ?_⟩ hw₁ hwaiting
        hdue.1 (hdue.2.trans hnow) (hcandidates ▸ hall) ?_ rfl hsome hfallbacks)), fun _ _ _ => ?_⟩
      · exact fun e row hrow => hevidence₁ ▸ hrow
      · rw [← hwaits₁]
      · exact ⟨_, Std.ExtTreeMap.getElem?_insert_self, by simp [WaitRow.expiredAs]⟩
  · rename_i hwaiting hnone
    obtain ⟨rfl, -⟩ := Prod.mk.inj ((pure_eq_ok _ _).1 h)
    refine ⟨.refl s, fun w' hw' hdue => ?_⟩
    obtain rfl := Option.some.inj (hw.symm.trans hw')
    obtain ⟨d, hd, hdue⟩ := hdue
    simp [Option.filter_eq_none_iff] at hnone
    exact absurd hdue (hnone d hd).not_ge
  · rename_i hdue hnone
    obtain ⟨rfl, -⟩ := Prod.mk.inj ((pure_eq_ok _ _).1 h)
    refine ⟨.refl s, fun _ _ _ => ⟨w, hw, fun hstatus => ?_⟩⟩
    cases hdeadline : w.deadlineAt.filter (· ≤ options.sweepNow) with
    | none => exact hnone hstatus hdeadline
    | some d => exact hdue d hstatus hdeadline

/-- SWEEP: one evaluation after another, each in a transaction of its own. -/
theorem sweep_path {options : EvaluateDeadlineOptions} {fresh : UuidV7 → FreshIds}
    (hlaw : s.Law c) (hnow : options.sweepNow ≤ c) (ids : List UuidV7) :
    Path c s (ids.foldl (sweepOne rt options fresh) s) := by
  induction ids generalizing s with
  | nil => exact .refl s
  | cons k ids ih =>
    have hone : Path c s (sweepOne rt options fresh s k) :=
      settle_fst_rule (I := fun t => Path c s t) (.refl s) fun s' outcome h =>
        (evaluateWaitConditionDeadline_path hlaw hnow h).1
    exact hone.append (ih (hone.law hlaw))

end WaitStore

/-! ### The system -/

/-- What is asked of the waits of a workspace, with the clock that each call reads. -/
inductive WaitAction where
  | ingest (parsed : ObservationInsert) (extension actor : Option String) (now : UnixMs)
      (freshId : UuidV7)
  | create (parsed : WaitConditionInsert) (extension : Option String) (ctx : PrincipalContext)
      (freshId : UuidV7)
  | cancel (conditionId : UuidV7) (reason : String) (ctx : PrincipalContext)
  | reconcile (conditionId observationId : UuidV7) (matcherVersion : Option ℕ)
      (ctx : PrincipalContext) (fresh : FreshIds)
  | evaluate (conditionId : UuidV7) (options : WaitStore.EvaluateDeadlineOptions)
      (fresh : FreshIds)
  | sweep (limit : Option ℕ) (options : WaitStore.EvaluateDeadlineOptions)
      (fresh : UuidV7 → FreshIds)
  /-- The other services leave this work. They cancel the waits of tasks that close and only add
      evidence. -/
  | elsewhere (left : WorkStore) (cancelled : List UuidV7) (now : UnixMs)

/-- What the clock showed. -/
def WaitAction.reads : WaitAction → UnixMs
  | .ingest _ _ _ now _ => now
  | .create _ _ ctx _ => ctx.now
  | .cancel _ _ ctx => ctx.now
  | .reconcile _ _ _ ctx _ => ctx.now
  | .evaluate _ options _ => options.sweepNow
  | .sweep _ options _ => options.sweepNow
  | .elsewhere _ _ now => now

/-- The waits of a workspace and the latest instant that its service clock has shown. -/
structure WaitSystem extends WaitStore where
  clock : UnixMs

namespace WaitStore

variable {s s' : WaitStore} {rt : WorkRuntime} {c : UnixMs} {k : UuidV7} {w : WaitRow}

/-- Other work of the workspace. -/
def elsewhere (s : WaitStore) (left : WorkStore) (cancelled : List UuidV7) (now : UnixMs) :
    WaitStore :=
  { s with work := { left with
      waits := s.work.waits.map fun k w =>
        if w.status = .waiting ∧ k ∈ cancelled then w.cancelledAs "task_terminal" now else w
      evidence := Table.insertAll left.evidence Prod.fst Prod.snd s.work.evidence.toList
      retries := s.work.retries.filter (·.operation = .waitFallback) ++
        left.retries.filter (·.operation ≠ .waitFallback) } }

/-- One call. A refused call changes nothing. -/
def perform (rt : WorkRuntime) (s : WaitStore) : WaitAction → WaitStore
  | .ingest parsed extension actor now freshId =>
    settle s (Prod.fst <$> s.ingestObservation rt parsed extension actor now freshId)
  | .create parsed extension ctx freshId =>
    { s with
      work := settle s.work
        (Prod.fst <$> s.work.createWaitCondition rt parsed extension ctx freshId) }
  | .cancel conditionId reason ctx =>
    { s with
      work := settle s.work
        (Prod.fst <$> s.work.cancelWaitCondition rt conditionId reason ctx) }
  | .reconcile conditionId observationId matcherVersion ctx fresh =>
    settle s (Prod.fst <$>
      s.reconcileWaitObservation rt conditionId observationId matcherVersion ctx fresh)
  | .evaluate conditionId options fresh =>
    settle s (Prod.fst <$> s.evaluateWaitConditionDeadline rt conditionId options fresh)
  | .sweep limit options fresh => settle s (s.sweepWaitConditionDeadlines rt limit options fresh)
  | .elsewhere left cancelled now => s.elsewhere left cancelled now

theorem elsewhere_path (left : WorkStore) (cancelled : List UuidV7) (now : UnixMs) :
    Path c s (s.elsewhere left cancelled now) := by
  refine .one (.closes ⟨rfl, rfl, fun e row hrow => ?_⟩ (.map _ fun k w _ => ?_) rfl fun k => ?_)
  · exact Table.insertAll_of_mem _ _ _ (Table.keys_nodup _) (x := (e, row))
      (Table.mem_toList.2 hrow)
  · split
    · rename_i hcancel
      exact .inr ⟨hcancel.1, _, _, rfl⟩
    · exact .inl rfl
  · simp only [WorkStore.fallbacks, elsewhere, List.filter_append, List.filter_filter]
    have hmine : s.work.retries.filter
        (fun r => FallbackRecord k r && r.operation = .waitFallback) =
        s.work.retries.filter (FallbackRecord k ·) :=
      List.filter_congr fun r _ => by
        by_cases hr : FallbackRecord k r
        · simp [hr, hr.1]
        · simp [hr]
    have hleft : left.retries.filter (fun r => FallbackRecord k r && r.operation ≠ .waitFallback) =
        [] := by
      rw [List.filter_eq_nil_iff]
      intro r _ hr
      simp only [Bool.and_eq_true, decide_eq_true_eq] at hr
      exact hr.2 hr.1.1
    rw [hmine, hleft, List.append_nil]

/-- STEP: one case for each call. A fact is recorded at `c`, and no sweep reads a later clock. -/
theorem perform_path (hlaw : s.Law c) (a : WaitAction) (hreads : a.reads ≤ c)
    (hrecords : ∀ parsed extension actor now freshId,
      a = .ingest parsed extension actor now freshId → now = c) : Path c s (s.perform rt a) := by
  cases a with
  | ingest parsed extension actor now freshId =>
    obtain rfl := hrecords _ _ _ _ _ rfl
    exact settle_fst_rule (I := fun t => Path now s t) (.refl s)
      fun s' b h => ingestObservation_path h
  | create parsed extension ctx freshId =>
    exact settle_fst_rule (I := fun work => Path c s { s with work := work }) (.refl s)
      fun work b h => createWaitCondition_path h
  | cancel conditionId reason ctx =>
    exact settle_fst_rule (I := fun work => Path c s { s with work := work }) (.refl s)
      fun work b h => cancelWaitCondition_path h
  | reconcile conditionId observationId matcherVersion ctx fresh =>
    refine settle_fst_rule (I := fun t => Path c s t) (.refl s) fun s' b h => ?_
    simp only [reconcileWaitObservation, bind_eq_ok] at h
    obtain ⟨-, -, -, -, -, -, h⟩ := h
    exact (reconcileInTransaction_path h).1
  | evaluate conditionId options fresh =>
    exact settle_fst_rule (I := fun t => Path c s t) (.refl s)
      fun s' b h => (evaluateWaitConditionDeadline_path hlaw hreads h).1
  | sweep limit options fresh =>
    refine settle_rule (I := fun t => Path c s t) (.refl s) fun s' h => ?_
    simp only [sweepWaitConditionDeadlines, bind_eq_ok, pure_eq_ok] at h
    obtain ⟨-, -, -, -, rfl⟩ := h
    exact sweep_path hlaw hreads _
  | elsewhere left cancelled now => exact elsewhere_path left cancelled now

end WaitStore

namespace WaitSystem

variable {rt : WorkRuntime} {k : UuidV7}

/-- One call at the instant that it reads. -/
def step (rt : WorkRuntime) (s : WaitSystem) (a : WaitAction) : WaitSystem where
  toWaitStore := s.toWaitStore.perform rt a
  clock := max s.clock a.reads

/-- A workspace without waits. -/
def opening (workspaceId : String) (principals : List Principal) : WaitSystem :=
  ⟨⟨.opening workspaceId principals, ∅, [], ∅, []⟩, 0⟩

/-- The clock does not go back: a fact is recorded at or after every instant that the clock has
    shown. The evaluations of a sweep share the reading that the sweep began with. -/
def Forward (s : WaitSystem) : WaitAction → Prop
  | .ingest _ _ _ now _ => s.clock ≤ now
  | _ => True

instance decidableForward (s : WaitSystem) (a : WaitAction) : Decidable (s.Forward a) := by
  cases a <;> unfold Forward <;> infer_instance

/-- The conditions that a step leaves no longer waiting. -/
def departures (rt : WorkRuntime) (s : WaitSystem) (a : WaitAction) : List UuidV7 :=
  Table.keysWhere (s.step rt a).work.waits fun k w => w.status ≠ .waiting &&
    (s.work.waits[k]?).all (·.status = .waiting)

/-- The condition has ended. -/
def Ended (k : UuidV7) (s : WaitSystem) : Prop :=
  ∃ w, s.work.waits[k]? = some w ∧ w.status ≠ .waiting

theorem step_path {s : WaitSystem} (hlaw : s.Law s.clock) {a : WaitAction} (ha : s.Forward a) :
    WaitStore.Path (max s.clock a.reads) s.toWaitStore (s.step rt a).toWaitStore := by
  refine WaitStore.perform_path (hlaw.later (le_max_left _ _)) a (le_max_right _ _) ?_
  rintro parsed extension actor now freshId rfl
  exact (max_eq_right ha).symm

theorem step_law {s : WaitSystem} (a : WaitAction) (ha : s.Forward a) (hlaw : s.Law s.clock) :
    (s.step rt a).Law (s.step rt a).clock :=
  (step_path hlaw ha).law (hlaw.later (le_max_left _ _))

theorem law_opening (workspaceId : String) (principals : List Principal) :
    (opening workspaceId principals).Law 0 := by
  refine ⟨?_, ?_, ?_, ?_, ?_, ?_, ?_⟩ <;>
    simp [opening, WorkStore.opening, WaitStore.SatisfiedBy, WorkStore.fallbacks]

/-- RUN: the law holds at every instant. -/
theorem law_run {workspaceId : String} {principals : List Principal} {actions : List WaitAction}
    (hclock : Along (step rt) Forward (opening workspaceId principals) actions) :
    (run (step rt) (opening workspaceId principals) actions).Law
      (run (step rt) (opening workspaceId principals) actions).clock :=
  run_invariant (I := fun s : WaitSystem => s.Law s.clock) (fun _ a ha hs => step_law a ha hs)
    hclock (law_opening workspaceId principals)

/-- STEP: what has ended stays so. -/
theorem step_ended {s : WaitSystem} (a : WaitAction) (ha : s.Forward a) (hlaw : s.Law s.clock)
    (h : Ended k s) : Ended k (s.step rt a) := by
  obtain ⟨w, hw, hended⟩ := h
  obtain ⟨w', hw', hages⟩ := (step_path hlaw ha).ages hw
  exact ⟨w', hw', hages.eq hended ▸ hended⟩

theorem mem_departures {s : WaitSystem} {a : WaitAction} :
    k ∈ departures rt s a ↔ ¬ Ended k s ∧ Ended k (s.step rt a) := by
  simp only [departures, Table.mem_keysWhere, Bool.and_eq_true, decide_eq_true_eq,
    Option.all_eq_true, Ended, not_exists, not_and, not_not]
  constructor
  · rintro ⟨w, hw, hended, hall⟩
    exact ⟨hall, w, hw, hended⟩
  · rintro ⟨hall, w, hw, hended⟩
    exact ⟨w, hw, hended, hall⟩

/-- RUN: a condition leaves the waiting state once, if it does. -/
theorem count_departures {workspaceId : String} {principals : List Principal}
    {actions : List WaitAction} {w : WaitRow}
    (hclock : Along (step rt) Forward (opening workspaceId principals) actions)
    (hw : (run (step rt) (opening workspaceId principals) actions).work.waits[k]? = some w) :
    (trace (step rt) (departures rt) (opening workspaceId principals) actions).count k =
      if w.status = .waiting then 0 else 1 := by
  obtain ⟨hcount, hmem⟩ := count_trace_once (b := k)
    (I := fun s : WaitSystem => s.Law s.clock) (fun _ a ha hs => step_law a ha hs)
    (fun _ a ha hs h => step_ended a ha hs h)
    (fun s a => List.nodup_iff_count_le_one.1 (Table.keysWhere_nodup _ _) k)
    (fun s a => mem_departures) hclock (law_opening workspaceId principals)
  have hopening : ¬ Ended k (opening workspaceId principals) := by
    simp [Ended, opening, WorkStore.opening]
  have hended : Ended k (run (step rt) (opening workspaceId principals) actions) ↔
      w.status ≠ .waiting := by
    simp [Ended, hw]
  rw [hended] at hmem
  split
  · rename_i hwaiting
    exact List.count_eq_zero.2 fun h => (hmem.1 h).2 hwaiting
  · rename_i hended
    exact le_antisymm hcount (List.one_le_count_iff.2 (hmem.2 ⟨hopening, hended⟩))

end WaitSystem

/-! ### What the race decides -/

/-- Exactly one reconciliation of the condition is a satisfied one, and its evidence is stored. -/
def WaitStore.SatisfiedOnce (s : WaitStore) (k : UuidV7) (w : WaitRow) : Prop :=
  ∃ (i : UuidV7) (r : ReconciliationRow) (e : UuidV7) (evidence : EvidenceRow),
    (∀ i', s.SatisfiedBy k i' ↔ i' = i) ∧ s.reconciliations[i]? = some r ∧ r.evidenceId = some e ∧
      s.work.evidence[e]? = some evidence ∧ evidence.taskId = w.taskId

namespace WaitStore.Law

variable {s : WaitStore} {c : UnixMs} {k : UuidV7} {w : WaitRow}

/-- SATISFIED: exactly when one satisfied reconciliation is stored. -/
theorem satisfied_iff (h : s.Law c) (hw : s.work.waits[k]? = some w) :
    w.status = .satisfied ↔ s.SatisfiedOnce k w := by
  constructor
  · intro hsatisfied
    obtain ⟨i, hi⟩ := h.satisfied k w hw hsatisfied
    obtain ⟨r, hr, rfl, heffect⟩ := hi
    obtain ⟨w', row, hw', hrow, hstands⟩ := h.stands i r hr
    obtain rfl := Option.some.inj (hw.symm.trans hw')
    simp only [Stands, heffect] at hstands
    obtain ⟨-, -, e, he, evidence, hevidence, htask⟩ := hstands
    refine ⟨i, r, e, evidence, fun i' => ⟨fun hi' => ?_, ?_⟩, hr, he, hevidence, htask⟩
    · exact h.satisfied_once _ i' i hi' ⟨r, hr, rfl, heffect⟩
    · rintro rfl
      exact ⟨r, hr, rfl, heffect⟩
  · rintro ⟨i, r, e, evidence, hone, -⟩
    obtain ⟨w', hw', hsatisfied⟩ := h.status ((hone i).2 rfl)
    obtain rfl := Option.some.inj (hw.symm.trans hw')
    exact hsatisfied

/-- FALLBACK: at most one, exactly for an expired condition that asks for one. -/
theorem fallback_once (h : s.Law c) (hw : s.work.waits[k]? = some w) :
    (s.work.fallbacks k).length ≤ 1 ∧
      (s.work.fallbacks k ≠ [] ↔ w.status = .expired ∧ w.fallback ≠ .none) := by
  obtain ⟨record, hrecord, -, hsome⟩ := h.fallback k w hw
  rw [hrecord, ← hsome]
  cases record <;> simp

end WaitStore.Law

/-- CORRECT: whichever of ingestion, reconciliation, sweep and cancellation comes first, a condition
    expires only if no timely fact was stored, and none is stored afterwards. It leaves the waiting
    state once, an evaluation that is due ends it, it is satisfied exactly when one satisfied
    reconciliation with its evidence is stored, and its fallback is materialized at most once,
    exactly when it expired. -/
theorem timely_fact_first (rt : WorkRuntime) (workspaceId : String) (principals : List Principal)
    (actions : List WaitAction)
    (hclock : Along (WaitSystem.step rt) WaitSystem.Forward
      (WaitSystem.opening workspaceId principals) actions) :
    let s := run (WaitSystem.step rt) (WaitSystem.opening workspaceId principals) actions
    ∀ (k : UuidV7) w, s.work.waits[k]? = some w →
      (w.status = .expired → ∀ (o : UuidV7) row, s.observations[o]? = some row → ¬ Timely w row) ∧
      (trace (WaitSystem.step rt) (WaitSystem.departures rt)
        (WaitSystem.opening workspaceId principals) actions).count k =
          (if w.status = .waiting then 0 else 1) ∧
      (∀ options fresh s' outcome,
        s.evaluateWaitConditionDeadline rt k options fresh = .ok (s', outcome) →
          (∃ d ∈ w.deadlineAt, d ≤ options.sweepNow) →
            ∃ w', s'.work.waits[k]? = some w' ∧ w'.status ≠ .waiting) ∧
      (w.status = .satisfied ↔ s.SatisfiedOnce k w) ∧
      (s.work.fallbacks k).length ≤ 1 ∧
      (s.work.fallbacks k ≠ [] ↔ w.status = .expired ∧ w.fallback ≠ .none) := by
  intro s k w hw
  have hlaw : s.Law s.clock := WaitSystem.law_run hclock
  refine ⟨fun hexpired => ?_, WaitSystem.count_departures hclock hw, ?_, hlaw.satisfied_iff hw,
    hlaw.fallback_once hw⟩
  · obtain ⟨d, -, -, hnone⟩ := hlaw.expired k w hw hexpired
    exact hnone
  · intro options fresh s' outcome h hdue
    exact (WaitStore.evaluateWaitConditionDeadline_path (hlaw.later (le_max_left _ _))
      (le_max_right _ _) h).2 w hw hdue

/-- A wait of task 1 for a response, until 10. Its fallback activates the task again. -/
def plainWait : WaitConditionInsert where
  id := some 5
  taskId := 1
  schemaVersion := 1
  parameters := .httpResponse ⟨"u", .get, [200], none⟩
  notBefore := none
  deadlineAt := some 10
  fallback := .activateTask 1
  supersedesConditionId := none

/-- A response that is accepted. -/
def plainResponse : ObservationInsert where
  source := "s"
  externalEventId := "e"
  schemaVersion := 1
  payload := .httpCheck ⟨"u", .get, 200, none⟩
  occurredAt := 9
  verificationLevel := .unverified
  verificationMethod := none
  rawRef := none
  digest := none
  metadata := ⟨[]⟩
  id := none

/-- A response that comes in at the deadline, and the sweep after it. -/
def plainExpiry : List WaitAction :=
  [.elsewhere { WorkStore.opening "w" [] with tasks := Std.ExtTreeMap.ofList [(1, plainTask)] } [] 0,
    .create plainWait none ⟨some "p", none, none, 1⟩ 6, .ingest plainResponse none none 10 7,
    .sweep none ⟨none, none, 12⟩ fun _ => ⟨fun _ => 8, fun _ => 9, 10⟩]

theorem timely_fact_first_plain :
    ∃ w, (run (WaitSystem.step plainWorkRuntime) (WaitSystem.opening "w" [])
        plainExpiry).work.waits[(5 : UuidV7)]? = some w ∧ w.status = .expired ∧
      (∀ (o : UuidV7) row, (run (WaitSystem.step plainWorkRuntime) (WaitSystem.opening "w" [])
        plainExpiry).observations[o]? = some row → ¬ Timely w row) ∧
      (trace (WaitSystem.step plainWorkRuntime) (WaitSystem.departures plainWorkRuntime)
        (WaitSystem.opening "w" []) plainExpiry).count 5 = 1 := by
  have hexpired : ((run (WaitSystem.step plainWorkRuntime) (WaitSystem.opening "w" [])
      plainExpiry).work.waits[(5 : UuidV7)]?).any (·.status = .expired) = true := by
    decide +kernel
  obtain ⟨w, hw, hstatus⟩ := (Option.any_eq_true _ _).1 hexpired
  rw [decide_eq_true_eq] at hstatus
  obtain ⟨hnone, hcount, -⟩ := timely_fact_first plainWorkRuntime "w" [] plainExpiry
    ⟨trivial, trivial, by decide +kernel, trivial, trivial⟩ 5 w hw
  exact ⟨w, hw, hstatus, hnone hstatus, by rw [hcount, hstatus]; rfl⟩

end Tasq
