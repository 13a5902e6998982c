import Mathlib.Tactic
import Tasq.Lib.Pages
import Tasq.Waiting.Run

/-! Facts and the routes that bring them to conditions, over every run of calls.

    Only an ingestion touches facts and routes, and it writes both at once. So every stored fact has
    exactly the routes that its payload asks for, and one source reports an event once. From this, a
    condition never overlooks a fact that its evaluator matches. -/

namespace Tasq

open Text Outcome Run Limit

/-- The options of `listCandidateObservations`. A negative limit is none; without a limit there are
    100 rows. -/
structure CandidateOptions where
  matcherVersion : Option ℕ
  limit : Option ℤ
  occurredBefore : Option UnixMs
  recordedBefore : Option UnixMs
  deriving DecidableEq

namespace WaitStore

variable {s s' : WaitStore} {rt : WorkRuntime} {k o : UuidV7} {w : WaitRow} {row : ObservationRow}

/-- An instant is before a bound, where there is one. -/
def Before (t : UnixMs) (bound : Option UnixMs) : Prop := ∀ b ∈ bound, t < b

instance decidableBefore (t : UnixMs) (bound : Option UnixMs) : Decidable (Before t bound) := by
  unfold Before; infer_instance

/-- The query of `listCandidateObservations`. -/
def candidateRows (s : WaitStore) (condition : WaitRow) (options : CandidateOptions) :
    List (UuidV7 × ObservationRow) :=
  let kind := condition.parameters.observationKind
  let routeKey := condition.parameters.routeKey
  let found := Table.rows s.observations fun id o =>
    s.routes.contains ⟨id, kind, routeKey⟩ && decide (condition.notBefore ≤ o.occurredAt) &&
      decide (Before o.occurredAt options.occurredBefore) &&
      decide (Before o.recordedAt options.recordedBefore)
  limited (options.limit.getD 100) (found.insertionSort fun a b =>
    a.2.recordedAt < b.2.recordedAt ∨ a.2.recordedAt = b.2.recordedAt ∧ a.1 ≤ b.1)

/-- `listCandidateObservations` -/
def listCandidateObservationsWith (s : WaitStore) (conditionId : UuidV7)
    (options : CandidateOptions) : Call (List (UuidV7 × ObservationRow)) := do
  let condition ← demand s.work.waits[conditionId]?
    (.error s!"Wait condition not found: {conditionId}")
  let kind := condition.parameters.kind
  let version := options.matcherVersion.getD 1
  refuse (version ≠ 1) (.error s!"Unsupported matcher version: {kind}@{version}")
  refuse (∃ t ∈ options.occurredBefore, Json.maxSafeInteger < t)
    (.error "occurredBefore must be a non-negative unix-ms integer")
  refuse (∃ t ∈ options.recordedBefore, Json.maxSafeInteger < t)
    (.error "recordedBefore must be a non-negative unix-ms integer")
  pure (s.candidateRows condition options)

/-! ### What touches facts -/

/-- The facts and their routes are those of before. -/
def SameFacts (s s' : WaitStore) : Prop :=
  s'.observations = s.observations ∧ s'.routes = s.routes

theorem SameFacts.refl (s : WaitStore) : SameFacts s s := ⟨rfl, rfl⟩

theorem SameFacts.trans {s₁ : WaitStore} (h : SameFacts s s₁) (h' : SameFacts s₁ s') :
    SameFacts s s' :=
  ⟨h'.1.trans h.1, h'.2.trans h.2⟩

/-- RECONCILE: a reconciliation reads facts. -/
theorem reconcileInTransaction_sameFacts {i : UuidV7} {version : ℕ} {ctx : PrincipalContext}
    {fresh : FreshIds} {r : ReconciliationRow}
    (h : s.reconcileInTransaction rt k o version ctx fresh = .ok (s', i, r)) :
    SameFacts s s' := by
  unfold reconcileInTransaction at h
  split at h
  · obtain ⟨rfl, -⟩ := Prod.mk.inj ((pure_eq_ok _ _).1 h)
    exact .refl s
  · simp only [bind_eq_ok, demand_eq_ok, pure_eq_ok, Prod.mk.injEq] at h
    obtain ⟨_, -, _, -, -, -, _, -, s₁, happly, s₂, hinsert, s₃, hrecord, rfl, -⟩ := h
    obtain ⟨principals, rfl⟩ := recordReconciled_eq_ok hrecord
    obtain ⟨-, rfl⟩ := insertReconciliation_eq_ok hinsert
    unfold applyEffect at happly
    split at happly
    · simp only [bind_eq_ok, Prod.exists, pure_eq_ok] at happly
      obtain ⟨_, _, -, _, _, -, _, -, rfl⟩ := happly
      exact ⟨rfl, rfl⟩
    · obtain rfl := (pure_eq_ok _ _).1 happly
      exact ⟨rfl, rfl⟩

/-- LOOP: so does the loop over candidates. -/
theorem reconcileCandidates_sameFacts {version : ℕ} {ctx : PrincipalContext} {fresh : FreshIds}
    {candidates : List UuidV7} {satisfied : Bool}
    (h : reconcileCandidates rt k version ctx fresh candidates s = .ok (s', satisfied)) :
    SameFacts s s' := by
  induction candidates generalizing s with
  | nil =>
    obtain ⟨rfl, -⟩ := Prod.mk.inj ((pure_eq_ok _ _).1 h)
    exact .refl s
  | cons o rest ih =>
    simp only [reconcileCandidates, bind_eq_ok, Prod.exists] at h
    obtain ⟨s₁, i, r, hreconcile, h⟩ := h
    have hone := reconcileInTransaction_sameFacts hreconcile
    split at h
    · obtain ⟨rfl, -⟩ := Prod.mk.inj ((pure_eq_ok _ _).1 h)
      exact hone
    · exact hone.trans (ih h)

/-- EVALUATE: and so does an evaluation. -/
theorem evaluate_sameFacts {options : EvaluateDeadlineOptions} {fresh : FreshIds}
    {outcome : DeadlineEvaluationOutcome}
    (h : s.evaluateWaitConditionDeadline rt k options fresh = .ok (s', outcome)) :
    SameFacts s s' := by
  simp only [evaluateWaitConditionDeadline, bind_eq_ok] at h
  obtain ⟨-, -, -, -, -, -, _, -, h⟩ := h
  split at h
  · simp only [bind_eq_ok, Prod.exists] at h
    obtain ⟨-, -, s₁, satisfied, hloop, h⟩ := h
    have hone := reconcileCandidates_sameFacts hloop
    split at h
    · obtain ⟨rfl, -⟩ := Prod.mk.inj ((pure_eq_ok _ _).1 h)
      exact hone
    · simp only [bind_eq_ok, Prod.exists, pure_eq_ok, Prod.mk.injEq] at h
      obtain ⟨_, _, -, _, -, _, -, rfl, -⟩ := h
      exact hone
  all_goals
    obtain ⟨rfl, -⟩ := Prod.mk.inj ((pure_eq_ok _ _).1 h)
    exact .refl s

/-- SWEEP: and so does a sweep. -/
theorem sweep_sameFacts {options : EvaluateDeadlineOptions} {fresh : UuidV7 → FreshIds}
    (ids : List UuidV7) : SameFacts s (ids.foldl (sweepOne rt options fresh) s) := by
  induction ids generalizing s with
  | nil => exact .refl s
  | cons k ids ih =>
    have hone : SameFacts s (sweepOne rt options fresh s k) :=
      settle_fst_rule (I := SameFacts s) (.refl s) fun s' outcome h => evaluate_sameFacts h
    exact hone.trans ih

/-- INGEST: a new delivery is stored with its routes; the answer to an earlier one leaves the store
    as it is. -/
theorem ingestObservation_eq_ok {parsed : ObservationInsert} {extension actor : Option String}
    {now : UnixMs} {freshId : UuidV7}
    (h : s.ingestObservation rt parsed extension actor now freshId = .ok (s', o, row)) :
    (s.getObservationByDelivery parsed.source parsed.externalEventId = some (o, row) ∧ s' = s ∧
      row.canonicalContent rt = parsed.canonicalContent rt) ∨
    (s.getObservationByDelivery parsed.source parsed.externalEventId = none ∧
      o ∉ s.observations ∧ row.toObservationContent = parsed.toObservationContent ∧
      s' = { s with
        observations := s.observations.insert o row
        routes := s.routes ++ observationRouteKeys o row.payload }) := by
  simp only [ingestObservation, bind_eq_ok] at h
  obtain ⟨-, -, -, -, -, -, -, -, -, -, -, -, -, -, h⟩ := h
  split at h
  · rename_i prior hprior
    simp only [bind_eq_ok, refuse_eq_ok, not_not, pure_eq_ok, Prod.mk.injEq] at h
    obtain ⟨-, hcontent, rfl, rfl⟩ := h
    exact .inl ⟨hprior, rfl, hcontent⟩
  · rename_i hnone
    simp only [insertObservation, bind_eq_ok, refuse_eq_ok, not_or, pure_eq_ok,
      Prod.mk.injEq] at h
    obtain ⟨_, ⟨-, -, -, ⟨ho, -⟩, rfl⟩, rfl, rfl, rfl⟩ := h
    exact .inr ⟨hnone, ho, rfl, rfl⟩

/-- STEP: a call other than an ingestion leaves the facts. -/
theorem perform_sameFacts (a : WaitAction)
    (h : ∀ parsed extension actor now freshId, a ≠ .ingest parsed extension actor now freshId) :
    SameFacts s (s.perform rt a) := by
  cases a with
  | ingest parsed extension actor now freshId => exact absurd rfl (h _ _ _ _ _)
  | create parsed extension ctx freshId => exact ⟨rfl, rfl⟩
  | cancel conditionId reason ctx => exact ⟨rfl, rfl⟩
  | reconcile conditionId observationId matcherVersion ctx fresh =>
    refine settle_fst_rule (I := SameFacts s) (.refl s) fun s' b h => ?_
    simp only [reconcileWaitObservation, bind_eq_ok] at h
    obtain ⟨-, -, -, -, -, -, h⟩ := h
    exact reconcileInTransaction_sameFacts h
  | evaluate conditionId options fresh =>
    exact settle_fst_rule (I := SameFacts s) (.refl s) fun s' b h => evaluate_sameFacts h
  | sweep limit options fresh =>
    refine settle_rule (I := SameFacts s) (.refl s) fun s' h => ?_
    simp only [sweepWaitConditionDeadlines, bind_eq_ok, pure_eq_ok] at h
    obtain ⟨-, -, -, -, rfl⟩ := h
    exact sweep_sameFacts _
  | elsewhere left cancelled now => exact ⟨rfl, rfl⟩

/-! ### The invariant -/

/-- INVARIANT: a source reports an event once, and a fact has the routes of its payload. -/
structure Routed (s : WaitStore) : Prop where
  once : ∀ (k o : UuidV7) r row, s.observations[k]? = some r → s.observations[o]? = some row →
    r.source = row.source → r.externalEventId = row.externalEventId → k = o
  routes : ∀ (o : UuidV7) row, s.observations[o]? = some row →
    s.routes.filter (·.observationId = o) = observationRouteKeys o row.payload
  stored : ∀ r ∈ s.routes, r.observationId ∈ s.observations

theorem Routed.same (h : s.Routed) (hsame : SameFacts s s') : s'.Routed := by
  obtain ⟨hobservations, hroutes⟩ := hsame
  refine ⟨?_, ?_, ?_⟩
  · rw [hobservations]
    exact h.once
  · rw [hobservations, hroutes]
    exact h.routes
  · rw [hobservations, hroutes]
    exact h.stored

theorem observationRouteKeys_id {payload : ObservationPayload} {r : ObservationRoute}
    (h : r ∈ observationRouteKeys o payload) : r.observationId = o := by
  rw [observationRouteKeys, List.mem_map] at h
  obtain ⟨_, -, rfl⟩ := h
  rfl

theorem getObservationByDelivery_none {source externalEventId : String}
    (h : s.getObservationByDelivery source externalEventId = none)
    (hrow : s.observations[o]? = some row) (hsource : row.source = source) :
    row.externalEventId ≠ externalEventId := by
  rw [getObservationByDelivery, List.head?_eq_none_iff, Table.rows_eq_nil] at h
  have := h o row hrow
  simpa [hsource] using this

/-- STEP: a stored delivery keeps the invariant. -/
theorem Routed.insert (h : s.Routed) (ho : o ∉ s.observations)
    (hnew : s.getObservationByDelivery row.source row.externalEventId = none) :
    ({ s with
      observations := s.observations.insert o row
      routes := s.routes ++ observationRouteKeys o row.payload } : WaitStore).Routed := by
  have hother : ∀ {k : UuidV7} {r : ObservationRow}, s.observations[k]? = some r → k ≠ o := by
    rintro k r hr rfl
    exact ho (Table.mem_of_getElem? hr)
  refine ⟨fun k k' r r' hr hr' hsource hevent => ?_, fun k r hr => ?_, fun r hr => ?_⟩
  · rw [Table.getElem?_insert'] at hr hr'
    split_ifs at hr hr' with hk hk' hk'
    · exact hk.symm.trans hk'
    · obtain rfl := Option.some.inj hr
      exact absurd hevent.symm (getObservationByDelivery_none hnew hr' hsource.symm)
    · obtain rfl := Option.some.inj hr'
      exact absurd hevent (getObservationByDelivery_none hnew hr hsource)
    · exact h.once k k' r r' hr hr' hsource hevent
  · rw [Table.getElem?_insert'] at hr
    rw [List.filter_append]
    split_ifs at hr with hk
    · obtain rfl := Option.some.inj hr
      subst hk
      have hnone : s.routes.filter (·.observationId = o) = [] := by
        rw [List.filter_eq_nil_iff]
        intro route hroute hid
        rw [decide_eq_true_eq] at hid
        exact ho (hid ▸ h.stored route hroute)
      rw [hnone, List.nil_append, List.filter_eq_self]
      exact fun route hroute => decide_eq_true (observationRouteKeys_id hroute)
    · have hnone : (observationRouteKeys o row.payload).filter (·.observationId = k) = [] := by
        rw [List.filter_eq_nil_iff]
        intro route hroute hid
        rw [decide_eq_true_eq, observationRouteKeys_id hroute] at hid
        exact hk hid
      rw [hnone, List.append_nil]
      exact h.routes k r hr
  · rw [Std.ExtTreeMap.mem_insert]
    rcases List.mem_append.1 hr with hr | hr
    · exact .inr (h.stored r hr)
    · left
      rw [observationRouteKeys_id hr]
      exact Std.ReflCmp.compare_self

/-- STEP: every call keeps the invariant. -/
theorem Routed.perform (h : s.Routed) (a : WaitAction) : (s.perform rt a).Routed := by
  by_cases hingest : ∃ parsed extension actor now freshId,
      a = .ingest parsed extension actor now freshId
  · obtain ⟨parsed, extension, actor, now, freshId, rfl⟩ := hingest
    refine settle_fst_rule (I := Routed) h fun s' b hok => ?_
    obtain ⟨o, row⟩ := b
    obtain ⟨-, rfl, -⟩ | ⟨hnew, ho, hcontent, rfl⟩ := ingestObservation_eq_ok hok
    · exact h
    · refine h.insert ho ?_
      rw [hcontent]
      exact hnew
  · refine h.same (perform_sameFacts a fun parsed extension actor now freshId ha => ?_)
    exact hingest ⟨parsed, extension, actor, now, freshId, ha⟩

/-! ### What a condition finds -/

/-- The kinds of fact and condition agree, the fact is in time, and its routes have the condition's.
    -/
theorem evaluateWaitObservation_matched {version : ℕ} {found : MatchDecision}
    (h : evaluateWaitObservation w row version = .ok found) (hmatched : found.decision = .matched) :
    version = 1 ∧ row.payload.kind = w.parameters.observationKind ∧
      w.parameters.routeKey ∈ row.payload.routeKeys ∧ w.notBefore ≤ row.occurredAt := by
  simp only [evaluateWaitObservation, bind_eq_ok, refuse_eq_ok, not_not] at h
  obtain ⟨-, hversion, -, -, h⟩ := h
  split at h
  · obtain rfl := (pure_eq_ok _ _).1 h
    simp at hmatched
  · rename_i hearly
    obtain rfl := (pure_eq_ok _ _).1 h
    obtain ⟨hkind, hroute⟩ := matched_routed hmatched
    exact ⟨hversion, hkind, hroute, not_lt.1 fun hlt => hearly ⟨hkind, hlt⟩⟩

/-- ROUTE: a route of the payload is stored. -/
theorem Routed.mem_routes (h : s.Routed) (hrow : s.observations[o]? = some row) {key : Json}
    (hkey : key ∈ row.payload.routeKeys) : ⟨o, row.payload.kind, key⟩ ∈ s.routes := by
  have hmem : (⟨o, row.payload.kind, key⟩ : ObservationRoute) ∈
      observationRouteKeys o row.payload := by
    rw [observationRouteKeys, List.mem_map]
    exact ⟨key, List.mem_dedup.2 hkey, rfl⟩
  rw [← h.routes o row hrow] at hmem
  exact List.mem_of_mem_filter hmem

end WaitStore

open WaitStore

/-- The bounds of the options are instants that the fact meets, and no limit cuts its row off. -/
structure CandidateOptions.Admits (options : CandidateOptions) (s : WaitStore)
    (row : ObservationRow) : Prop where
  occurredSafe : ∀ t ∈ options.occurredBefore, t ≤ Json.maxSafeInteger
  recordedSafe : ∀ t ∈ options.recordedBefore, t ≤ Json.maxSafeInteger
  occurred : Before row.occurredAt options.occurredBefore
  recorded : Before row.recordedAt options.recordedBefore
  unlimited : ∃ limit ∈ options.limit, limit < 0 ∨ (s.observations.toList.length : ℤ) ≤ limit

/-- RUN: the invariant holds in every state that calls reach. -/
theorem WaitSystem.routed_run (rt : WorkRuntime) (workspaceId : String)
    (principals : List Principal) (actions : List WaitAction) :
    (run (WaitSystem.step rt) (WaitSystem.opening workspaceId principals) actions).Routed :=
  run_invariant' (I := fun t : WaitSystem => t.Routed) (fun _ a ht => ht.perform a) actions
    ⟨by simp [WaitSystem.opening], by simp [WaitSystem.opening], by simp [WaitSystem.opening]⟩

/-- CORRECT: in every state that calls reach, a stored fact that the evaluator of a stored condition
    matches is among the rows that the condition finds, and among the candidates of every deadline
    that it came before. -/
theorem matched_found (rt : WorkRuntime) (workspaceId : String) (principals : List Principal)
    (actions : List WaitAction) :
    let s := run (WaitSystem.step rt) (WaitSystem.opening workspaceId principals) actions
    ∀ (k : UuidV7) w (o : UuidV7) row (version : ℕ) found, s.work.waits[k]? = some w →
      s.observations[o]? = some row → evaluateWaitObservation w row version = .ok found →
      found.decision = .matched →
        (∀ options : CandidateOptions, options.matcherVersion.getD 1 = version →
          options.Admits s.toWaitStore row →
            ∃ rows, s.listCandidateObservationsWith k options = .ok rows ∧ (o, row) ∈ rows) ∧
        ∀ deadline, row.occurredAt < deadline → row.recordedAt < deadline →
          o ∈ s.listCandidateObservations w deadline := by
  intro s k w o row version found hw hrow hfound hmatched
  have hrouted : s.toWaitStore.Routed := WaitSystem.routed_run rt workspaceId principals actions
  obtain ⟨hversion, hkind, hkey, hbefore⟩ := evaluateWaitObservation_matched hfound hmatched
  have hroute := hrouted.mem_routes hrow hkey
  rw [hkind] at hroute
  constructor
  · intro options hoptions hadmits
    refine ⟨s.candidateRows w options, ?_, ?_⟩
    · simp only [listCandidateObservationsWith, bind_eq_ok, demand_eq_ok, refuse_eq_ok, pure_eq_ok]
      refine ⟨w, hw, (), fun h => h (hoptions.trans hversion), (), ?_, (), ?_, rfl⟩
      · rintro ⟨t, ht, hlt⟩
        exact (hadmits.occurredSafe t ht).not_gt hlt
      · rintro ⟨t, ht, hlt⟩
        exact (hadmits.recordedSafe t ht).not_gt hlt
    · obtain ⟨limit, hlimit, hunlimited⟩ := hadmits.unlimited
      rw [candidateRows, hlimit, Option.getD_some, mem_limited, List.mem_insertionSort,
        Table.mem_rows]
      · simp [hrow, hroute, hbefore, hadmits.occurred, hadmits.recorded]
      · refine hunlimited.imp_right fun hle => ?_
        rw [List.length_insertionSort]
        exact (Int.ofNat_le.2 (List.length_filter_le _ _)).trans hle
  · intro deadline hoccurred hrecorded
    simp only [listCandidateObservations, List.mem_map, List.mem_insertionSort, Table.mem_rows]
    exact ⟨(o, row), by simp [hrow, hroute, hbefore, hoccurred, hrecorded], rfl⟩

/-- A fact that comes in time, and the condition that it satisfies. -/
def plainMatch : List WaitAction :=
  [.elsewhere { WorkStore.opening "w" [] with tasks := Std.ExtTreeMap.ofList [(1, plainTask)] } []
      0,
    .create plainWait none ⟨some "p", none, none, 1⟩ 6, .ingest plainResponse none none 8 7]

theorem matched_found_plain :
    ∃ w row, (run (WaitSystem.step plainWorkRuntime) (WaitSystem.opening "w" [])
        plainMatch).work.waits[(5 : UuidV7)]? = some w ∧
      (run (WaitSystem.step plainWorkRuntime) (WaitSystem.opening "w" [])
        plainMatch).observations[(7 : UuidV7)]? = some row ∧
      evaluateWaitObservation w row 1 = .ok matched ∧
      (∃ rows, (run (WaitSystem.step plainWorkRuntime) (WaitSystem.opening "w" [])
        plainMatch).listCandidateObservationsWith 5 ⟨none, some (-1), none, none⟩ = .ok rows ∧
          (7, row) ∈ rows) := by
  have hwait : (((run (WaitSystem.step plainWorkRuntime) (WaitSystem.opening "w" [])
      plainMatch).work.waits[(5 : UuidV7)]?).bind fun w => ((run (WaitSystem.step plainWorkRuntime)
      (WaitSystem.opening "w" []) plainMatch).observations[(7 : UuidV7)]?).map fun row =>
      (evaluateWaitObservation w row 1).toOption) = some (some matched) := by
    decide +kernel
  obtain ⟨w, hw, hrow⟩ := Option.bind_eq_some_iff.1 hwait
  obtain ⟨row, hrow, hfound⟩ := Option.map_eq_some_iff.1 hrow
  have hmatched : evaluateWaitObservation w row 1 = .ok matched := by
    cases hcase : evaluateWaitObservation w row 1 with
    | ok found =>
      rw [hcase] at hfound
      exact congrArg Except.ok (Option.some.inj hfound)
    | error e => simp [hcase, Except.toOption] at hfound
  obtain ⟨hrows, -⟩ := matched_found plainWorkRuntime "w" [] plainMatch 5 w 7 row 1 matched hw hrow
    hmatched rfl
  refine ⟨w, row, hw, hrow, hmatched, hrows ⟨none, some (-1), none, none⟩ rfl ?_⟩
  exact ⟨by simp, by simp, by simp [Before], by simp [Before], -1, rfl, .inl (by decide)⟩

end Tasq
