import Mathlib.Tactic
import Std.Data.String.ToNat
import Tasq.Waiting.Store

/-! What can happen to the wait conditions of a workspace, and the law that every move keeps.

    Ingestion, reconciliation, the sweep and the other services all come down to six moves. The
    law reads off the stored rows what the race between them has decided. -/

namespace Tasq

open Text Outcome

/-! ### Timely facts -/

/-- The evaluator of the condition accepts the fact. -/
def AcceptsFact (w : WaitRow) (o : ObservationRow) : Prop :=
  Ends (evaluateWaitObservation w o 1) fun found => found.decision = .matched

/-- An accepted fact that occurred and was recorded strictly before the deadline. -/
def Timely (w : WaitRow) (o : ObservationRow) : Prop :=
  AcceptsFact w o ∧ ∀ d ∈ w.deadlineAt, o.occurredAt < d ∧ o.recordedAt < d

/-- The condition stays as it is, or a waiting one is cancelled. -/
def WaitRow.Lapses (w w' : WaitRow) : Prop :=
  w' = w ∨ w.status = .waiting ∧ ∃ reason now, w' = w.cancelledAs reason now

/-- The condition as a satisfied reconciliation leaves it. -/
def WaitRow.satisfiedBy (observationId : UuidV7) (now : UnixMs) (w : WaitRow) : WaitRow :=
  { w with
    status := .satisfied
    satisfiedAt := some now
    satisfiedByObservationId := some observationId
    updatedAt := now }

/-- The condition as its expiry leaves it. -/
def WaitRow.expiredAs (resultId : Option UuidV7) (now : UnixMs) (w : WaitRow) : WaitRow :=
  { w with
    status := .expired
    expiredAt := some now
    fallbackResultTaskId := resultId
    updatedAt := now }

/-- Only version 1 of an evaluator decides. -/
theorem evaluateWaitObservation_version {w : WaitRow} {o : ObservationRow} {version : ℕ}
    {found : MatchDecision} (h : evaluateWaitObservation w o version = .ok found) :
    version = 1 ∧ evaluateWaitObservation w o 1 = .ok found := by
  have hversion : version = 1 := by
    simp only [evaluateWaitObservation, bind_eq_ok, refuse_eq_ok, not_not] at h
    obtain ⟨-, hversion, -⟩ := h
    exact hversion
  exact ⟨hversion, hversion ▸ h⟩

theorem accepts_iff {w : WaitRow} {o : ObservationRow} {version : ℕ} {found : MatchDecision}
    (h : evaluateWaitObservation w o version = .ok found) :
    AcceptsFact w o ↔ found.decision = .matched := by
  obtain ⟨-, h⟩ := evaluateWaitObservation_version h
  simp [AcceptsFact, Ends, h]

/-- ROUTE: an accepted fact is routed to the condition, and did not occur before it was eligible. -/
theorem AcceptsFact.routed {w : WaitRow} {o : ObservationRow} (h : AcceptsFact w o) :
    o.payload.kind = w.parameters.observationKind ∧ w.parameters.routeKey ∈ o.payload.routeKeys ∧
      w.notBefore ≤ o.occurredAt := by
  obtain ⟨found, hfound, hmatched⟩ := h
  simp only [evaluateWaitObservation, bind_eq_ok, refuse_eq_ok] at hfound
  obtain ⟨-, -, -, -, hfound⟩ := hfound
  split at hfound
  · obtain rfl := (pure_eq_ok _ _).1 hfound
    simp at hmatched
  · rename_i hearly
    obtain rfl := (pure_eq_ok _ _).1 hfound
    obtain ⟨hkind, hroute⟩ := matched_routed hmatched
    exact ⟨hkind, hroute, not_lt.1 fun hlt => hearly ⟨hkind, hlt⟩⟩

/-- EFFECT: a decision satisfies exactly the waiting conditions that it finds a timely fact for. -/
theorem effectOf_spec {w : WaitRow} {o : ObservationRow} {version : ℕ} {found : MatchDecision}
    (h : evaluateWaitObservation w o version = .ok found) :
    ((WaitStore.effectOf w o found).1 = .satisfied → w.status = .waiting ∧ Timely w o) ∧
      ((WaitStore.effectOf w o found).1 = .conditionTerminal → w.status ≠ .waiting) ∧
      ((WaitStore.effectOf w o found).1 = .noChange → ¬ Timely w o) := by
  have haccepts := accepts_iff h
  unfold WaitStore.effectOf
  split
  · rename_i hother
    simp only [reduceCtorEq, false_imp_iff, true_and, forall_const]
    exact fun htimely => hother (haccepts.1 htimely.1)
  · rename_i hmatched
    split
    · rename_i hclosed
      simpa using hclosed
    · rename_i hwaiting
      split
      · rename_i hlate
        simp only [reduceCtorEq, false_imp_iff, true_and, forall_const]
        rintro ⟨-, htimely⟩
        obtain ⟨d, hd, hlate⟩ := hlate
        obtain ⟨hoccurred, hrecorded⟩ := htimely d hd
        exact hlate.elim hoccurred.not_ge hrecorded.not_ge
      · rename_i hintime
        simp only [reduceCtorEq, false_imp_iff, and_true, forall_const]
        refine ⟨not_not.1 hwaiting, haccepts.2 (not_not.1 hmatched), fun d hd => ?_⟩
        have hlt : ¬ (d ≤ o.occurredAt ∨ d ≤ o.recordedAt) := fun hle => hintime ⟨d, hd, hle⟩
        rw [not_or, not_le, not_le] at hlt
        exact hlt

/-! ### Records of fallbacks -/

/-- A record under the durable key of the fallback of the condition. -/
def FallbackRecord (conditionId : UuidV7) (r : Retry.IdempotencyRecord WorkOperation String) :
    Prop :=
  r.operation = .waitFallback ∧ r.key = WorkStore.fallbackKey conditionId

instance decidableFallbackRecord (conditionId : UuidV7)
    (r : Retry.IdempotencyRecord WorkOperation String) :
    Decidable (FallbackRecord conditionId r) := by
  unfold FallbackRecord; infer_instance

/-- What has been materialized as the fallback of the condition. -/
def WorkStore.fallbacks (s : WorkStore) (conditionId : UuidV7) :
    List (Retry.IdempotencyRecord WorkOperation String) :=
  s.retries.filter (FallbackRecord conditionId ·)

/-- Two conditions never share a key. -/
theorem fallbackKey_inj {k k' : UuidV7} (h : WorkStore.fallbackKey k = WorkStore.fallbackKey k') :
    k = k' := by
  unfold WorkStore.fallbackKey at h
  simp only [String.append_left_inj, String.append_right_inj, toString] at h
  exact Nat.repr_injective h

namespace WorkStore

variable {s s' : WorkStore} {p : Retry.Identity WorkOperation} {k : UuidV7}

/-- The identity is not that of the fallback of the condition. -/
def OtherCall (identity : Option (Retry.Identity WorkOperation)) (k : UuidV7) : Prop :=
  ∀ p ∈ identity, ¬ (p.operation = .waitFallback ∧ p.key = fallbackKey k)

theorem OtherCall.of_operation {identity : Option (Retry.Identity WorkOperation)}
    (h : ∀ p ∈ identity, p.operation ≠ .waitFallback) (k : UuidV7) : OtherCall identity k :=
  fun p hp hk => h p hp hk.1

/-- The fallbacks of a condition in a list of records. -/
theorem fallbacks_find {rows rows' : List (Retry.IdempotencyRecord WorkOperation String)}
    {identity : Option (Retry.Identity WorkOperation)}
    {found : Option (Retry.IdempotencyRecord WorkOperation String)}
    (h : Retry.findIdempotencyResult rows identity = .ok (rows', found))
    (hother : OtherCall identity k) :
    rows'.filter (FallbackRecord k ·) = rows.filter (FallbackRecord k ·) := by
  cases identity with
  | none =>
    obtain ⟨rfl, -⟩ := Prod.mk.inj ((pure_eq_ok _ _).1 h)
    rfl
  | some p =>
    simp only [Retry.findIdempotencyResult, bind_eq_ok, pure_eq_ok, Prod.mk.injEq] at h
    obtain ⟨-, -, rfl, -⟩ := h
    rw [Retry.dropExpired, List.filter_filter]
    refine List.filter_congr fun r _ => ?_
    by_cases hr : FallbackRecord k r
    · have hne : ¬ (r.operation = p.operation ∧ r.key = p.key) := fun ⟨hop, hkey⟩ =>
        hother p rfl ⟨hop ▸ hr.1, hkey ▸ hr.2⟩
      simp only [hr, decide_true, Bool.true_and, decide_not, Bool.not_eq_true',
        decide_eq_false_iff_not]
      exact fun ⟨_, hop, hkey, _⟩ => hne ⟨hop, hkey⟩
    · simp [hr]

/-- A record is saved under its identity. -/
theorem fallbacks_save {rows rows' : List (Retry.IdempotencyRecord WorkOperation String)}
    {outcome : Retry.IdempotencyOutcome String}
    (h : Retry.saveIdempotencyResult rows (some p) outcome = .ok rows') :
    ∃ r, r.toIdempotencyOutcome = outcome ∧ r.operation = p.operation ∧ r.key = p.key ∧
      rows' = rows ++ [r] := by
  simp only [Retry.saveIdempotencyResult, bind_eq_ok, pure_eq_ok] at h
  obtain ⟨-, -, -, -, -, -, rfl⟩ := h
  exact ⟨_, rfl, rfl, rfl, rfl⟩

/-- A call of another kind leaves the fallbacks alone. -/
theorem fallbacks_idempotent {β : Type} {identity : Option (Retry.Identity WorkOperation)}
    {replay : WorkStore → UuidV7 → Call β}
    {perform : WorkStore → Call (WorkStore × β × Option (Retry.IdempotencyOutcome String))}
    {result : β} (h : s.idempotent identity replay perform = .ok (s', result))
    (hother : OtherCall identity k)
    (hperform : ∀ s₀ s₁ outcome, perform s₀ = .ok (s₁, result, outcome) →
      s₁.retries = s₀.retries) : s'.fallbacks k = s.fallbacks k := by
  simp only [idempotent, bind_eq_ok, Prod.exists] at h
  obtain ⟨retries, prior, hfind, h⟩ := h
  have hkept := fallbacks_find hfind hother
  cases prior with
  | some record =>
    simp only [bind_eq_ok, pure_eq_ok, Prod.mk.injEq] at h
    obtain ⟨_, -, rfl, -⟩ := h
    exact hkept
  | none =>
    simp only [bind_eq_ok, Prod.exists] at h
    obtain ⟨s₁, _, outcome, hrun, h⟩ := h
    cases outcome with
    | none =>
      simp only [pure_eq_ok, Prod.mk.injEq] at h
      obtain ⟨rfl, rfl⟩ := h
      rw [fallbacks, hperform _ _ _ hrun]
      exact hkept
    | some outcome =>
      simp only [bind_eq_ok, pure_eq_ok, Prod.mk.injEq] at h
      obtain ⟨retries', hsave, rfl, rfl⟩ := h
      have hretries := hperform _ _ _ hrun
      cases identity with
      | none =>
        obtain rfl := (pure_eq_ok _ _).1 hsave
        rw [fallbacks, hretries]
        exact hkept
      | some p =>
        obtain ⟨r, -, hop, hkey, rfl⟩ := fallbacks_save hsave
        have hr : ¬ FallbackRecord k r := fun hr => hother p rfl ⟨hop ▸ hr.1, hkey ▸ hr.2⟩
        rw [fallbacks, List.filter_append, hretries, List.filter_singleton]
        simp only [hr, decide_false, cond_false, List.append_nil]
        exact hkept

end WorkStore

namespace WaitStore

/-! ### Moves -/

/-- What the moves on conditions leave: facts stay as they are, and evidence is only added. -/
structure Beside (s s' : WaitStore) : Prop where
  observations : s'.observations = s.observations
  routes : s'.routes = s.routes
  evidence : ∀ (e : UuidV7) row, s.work.evidence[e]? = some row → s'.work.evidence[e]? = some row

/-- One thing that happens to conditions and facts, at the instant `c`. -/
inductive Moves (c : UnixMs) (s s' : WaitStore) : Prop
  /-- Waiting conditions are cancelled, or only other rows change. -/
  | closes (hbeside : Beside s s')
      (hwaits : Table.Revised WaitRow.Lapses s.work.waits s'.work.waits)
      (hreconciliations : s'.reconciliations = s.reconciliations)
      (hfallbacks : ∀ k, s'.work.fallbacks k = s.work.fallbacks k)
  | opens (k : UuidV7) (w : WaitRow) (hbeside : Beside s s') (hk : k ∉ s.work.waits)
      (hwaiting : w.status = .waiting) (hresult : w.fallbackResultTaskId = none)
      (hwaits : s'.work.waits = s.work.waits.insert k w)
      (hreconciliations : s'.reconciliations = s.reconciliations)
      (hfallbacks : ∀ k, s'.work.fallbacks k = s.work.fallbacks k)
  | observes (o : UuidV7) (row : ObservationRow) (hwork : s'.work = s.work)
      (ho : o ∉ s.observations) (hnow : row.recordedAt = c)
      (hobservations : s'.observations = s.observations.insert o row)
      (hroutes : s'.routes = s.routes ++ observationRouteKeys o row.payload)
      (hreconciliations : s'.reconciliations = s.reconciliations)
  /-- A reconciliation that satisfies nothing. -/
  | notes (i : UuidV7) (r : ReconciliationRow) (w : WaitRow) (row : ObservationRow)
      (hbeside : Beside s s') (hw : s.work.waits[r.conditionId]? = some w)
      (hrow : s.observations[r.observationId]? = some row) (heffect : r.effect ≠ .satisfied)
      (hterminal : r.effect = .conditionTerminal → w.status ≠ .waiting)
      (hnoChange : r.effect = .noChange → ¬ Timely w row) (hi : i ∉ s.reconciliations)
      (hwaits : s'.work.waits = s.work.waits)
      (hreconciliations : s'.reconciliations = s.reconciliations.insert i r)
      (hfallbacks : ∀ k, s'.work.fallbacks k = s.work.fallbacks k)
  | satisfies (i : UuidV7) (r : ReconciliationRow) (w : WaitRow) (row : ObservationRow)
      (now : UnixMs) (e : UuidV7) (evidence : EvidenceRow) (hbeside : Beside s s')
      (hw : s.work.waits[r.conditionId]? = some w) (hwaiting : w.status = .waiting)
      (hrow : s.observations[r.observationId]? = some row) (heffect : r.effect = .satisfied)
      (htimely : Timely w row) (hi : i ∉ s.reconciliations)
      (hwaits : s'.work.waits =
        s.work.waits.insert r.conditionId (w.satisfiedBy r.observationId now))
      (hreconciliations : s'.reconciliations = s.reconciliations.insert i r)
      (he : r.evidenceId = some e) (hevidence : s'.work.evidence[e]? = some evidence)
      (htask : evidence.taskId = w.taskId)
      (hfallbacks : ∀ k, s'.work.fallbacks k = s.work.fallbacks k)
  /-- An expiry, when every candidate has been examined and none satisfied the condition. -/
  | expires (k : UuidV7) (w : WaitRow) (d now : UnixMs)
      (record : Option (Retry.IdempotencyRecord WorkOperation String)) (hbeside : Beside s s')
      (hw : s.work.waits[k]? = some w) (hwaiting : w.status = .waiting) (hd : d ∈ w.deadlineAt)
      (hdue : d ≤ c)
      (hexamined : ∀ o ∈ s.listCandidateObservations w d, ∃ (i : UuidV7) (r : ReconciliationRow),
        s.reconciliations[i]? = some r ∧ r.conditionId = k ∧ r.observationId = o ∧
          r.effect ≠ .satisfied)
      (hwaits : s'.work.waits =
        s.work.waits.insert k (w.expiredAs (record.map (·.resultId)) now))
      (hreconciliations : s'.reconciliations = s.reconciliations)
      (hrecord : record.isSome ↔ w.fallback ≠ .none)
      (hfallbacks : ∀ k', s'.work.fallbacks k' =
        s.work.fallbacks k' ++ if k' = k then record.toList else [])

/-! ### The law -/

/-- The reconciliation is one that satisfied the condition. -/
def SatisfiedBy (s : WaitStore) (k i : UuidV7) : Prop :=
  ∃ r, s.reconciliations[i]? = some r ∧ r.conditionId = k ∧ r.effect = .satisfied

/-- What the effect of a reconciliation says about its condition and its fact. -/
def Stands (s : WaitStore) (r : ReconciliationRow) (w : WaitRow) (row : ObservationRow) : Prop :=
  match r.effect with
  | .satisfied => w.status = .satisfied ∧ Timely w row ∧ ∃ e ∈ r.evidenceId,
      ∃ evidence, s.work.evidence[e]? = some evidence ∧ evidence.taskId = w.taskId
  | .conditionTerminal => w.status ≠ .waiting
  | .noChange => ¬ Timely w row

/-- INVARIANT: what the rows say once the clock has shown `c`. -/
structure Law (c : UnixMs) (s : WaitStore) : Prop where
  routed : ∀ (o : UuidV7) row, s.observations[o]? = some row → ∀ key ∈ row.payload.routeKeys,
    (⟨o, row.payload.kind, key⟩ : ObservationRoute) ∈ s.routes
  stands : ∀ (i : UuidV7) r, s.reconciliations[i]? = some r → ∃ w row,
    s.work.waits[r.conditionId]? = some w ∧ s.observations[r.observationId]? = some row ∧
      s.Stands r w row
  satisfied : ∀ (k : UuidV7) w, s.work.waits[k]? = some w → w.status = .satisfied →
    ∃ i, s.SatisfiedBy k i
  satisfied_once : ∀ k i i', s.SatisfiedBy k i → s.SatisfiedBy k i' → i = i'
  expired : ∀ (k : UuidV7) w, s.work.waits[k]? = some w → w.status = .expired →
    ∃ d ∈ w.deadlineAt, d ≤ c ∧ ∀ (o : UuidV7) row, s.observations[o]? = some row → ¬ Timely w row
  fallback : ∀ (k : UuidV7) w, s.work.waits[k]? = some w →
    ∃ record : Option (Retry.IdempotencyRecord WorkOperation String),
      s.work.fallbacks k = record.toList ∧ w.fallbackResultTaskId = record.map (·.resultId) ∧
        (record.isSome ↔ w.status = .expired ∧ w.fallback ≠ .none)
  no_fallback : ∀ k, k ∉ s.work.waits → s.work.fallbacks k = []

variable {c c' : UnixMs} {s s' : WaitStore} {k i i' : UuidV7} {w w' : WaitRow}

/-- Time goes by. -/
theorem Law.later (h : s.Law c) (hle : c ≤ c') : s.Law c' where
  routed := h.routed
  stands := h.stands
  satisfied := h.satisfied
  satisfied_once := h.satisfied_once
  expired k w hw hexpired := by
    obtain ⟨d, hd, hdue, hnone⟩ := h.expired k w hw hexpired
    exact ⟨d, hd, hdue.trans hle, hnone⟩
  fallback := h.fallback
  no_fallback := h.no_fallback

theorem SatisfiedBy.congr (hreconciliations : s'.reconciliations = s.reconciliations) :
    s'.SatisfiedBy k i ↔ s.SatisfiedBy k i := by
  rw [SatisfiedBy, SatisfiedBy, hreconciliations]

/-- The condition of a satisfied reconciliation is satisfied. -/
theorem Law.status (h : s.Law c) (hi : s.SatisfiedBy k i) :
    ∃ w, s.work.waits[k]? = some w ∧ w.status = .satisfied := by
  obtain ⟨r, hr, rfl, heffect⟩ := hi
  obtain ⟨w, row, hw, -, hstands⟩ := h.stands i r hr
  simp only [Stands, heffect] at hstands
  exact ⟨w, hw, hstands.1⟩

/-- A reconciliation of a waiting condition has found no timely fact. -/
theorem Law.examined (h : s.Law c) {r : ReconciliationRow} {row : ObservationRow}
    (hr : s.reconciliations[i]? = some r) (hw : s.work.waits[r.conditionId]? = some w)
    (hwaiting : w.status = .waiting) (hrow : s.observations[r.observationId]? = some row)
    (heffect : r.effect ≠ .satisfied) : ¬ Timely w row := by
  obtain ⟨w', row', hw', hrow', hstands⟩ := h.stands i r hr
  obtain rfl := Option.some.inj (hw.symm.trans hw')
  obtain rfl := Option.some.inj (hrow.symm.trans hrow')
  unfold Stands at hstands
  split at hstands
  · rename_i hsatisfied
    exact absurd hsatisfied heffect
  · exact absurd hwaiting hstands
  · exact hstands

/-- A waiting condition has had no fallback. -/
theorem Law.fallbacks_waiting (h : s.Law c) (hw : s.work.waits[k]? = some w)
    (hwaiting : w.status = .waiting) : s.work.fallbacks k = [] := by
  obtain ⟨record, hrecord, -, hsome⟩ := h.fallback k w hw
  cases record with
  | none => exact hrecord
  | some record => simp [hwaiting] at hsome

/-! ### What a move keeps -/

end WaitStore

/-- The condition stays as it is, or a waiting one ends. What is timely for it stays so. -/
def WaitRow.Ages (w w' : WaitRow) : Prop :=
  w' = w ∨ w.status = .waiting ∧ w'.status ≠ .waiting ∧ ∀ row, Timely w' row ↔ Timely w row

theorem WaitRow.Ages.refl (w : WaitRow) : w.Ages w := .inl rfl

theorem WaitRow.Ages.trans {a b c : WaitRow} (h : a.Ages b) (h' : b.Ages c) : a.Ages c := by
  rcases h with rfl | ⟨hwaiting, hclosed, htimely⟩
  · exact h'
  · rcases h' with rfl | ⟨hwaiting', -, -⟩
    · exact .inr ⟨hwaiting, hclosed, htimely⟩
    · exact absurd hwaiting' hclosed

/-- An ended condition stays as it is. -/
theorem WaitRow.Ages.eq {w w' : WaitRow} (h : w.Ages w') (hclosed : w.status ≠ .waiting) :
    w' = w :=
  h.resolve_right fun h => hclosed h.1

theorem WaitRow.Lapses.ages {w w' : WaitRow} (h : w.Lapses w') : w.Ages w' := by
  rcases h with rfl | ⟨hwaiting, reason, now, rfl⟩
  · exact .refl w'
  · exact .inr ⟨hwaiting, by simp [cancelledAs], fun row => .rfl⟩

theorem WaitRow.ages_satisfiedBy {w : WaitRow} (hwaiting : w.status = .waiting) (o : UuidV7)
    (now : UnixMs) : w.Ages (w.satisfiedBy o now) :=
  .inr ⟨hwaiting, by simp [satisfiedBy], fun row => .rfl⟩

theorem WaitRow.ages_expiredAs {w : WaitRow} (hwaiting : w.status = .waiting)
    (resultId : Option UuidV7) (now : UnixMs) : w.Ages (w.expiredAs resultId now) :=
  .inr ⟨hwaiting, by simp [expiredAs], fun row => .rfl⟩

namespace WaitStore

variable {c c' : UnixMs} {s s' : WaitStore} {k i i' : UuidV7} {w w' : WaitRow}

/-- One condition ends, the others stay. -/
theorem ages_insert {k₀ : UuidV7} {w₀ w₁ : WaitRow} (hw₀ : s.work.waits[k₀]? = some w₀)
    (hages : w₀.Ages w₁) (hwaits : s'.work.waits = s.work.waits.insert k₀ w₁)
    (hw : s.work.waits[k]? = some w) : ∃ w', s'.work.waits[k]? = some w' ∧ w.Ages w' := by
  rw [hwaits, Table.getElem?_insert']
  split
  · rename_i hk
    obtain rfl := Option.some.inj (hw₀.symm.trans (hk ▸ hw))
    exact ⟨w₁, rfl, hages⟩
  · exact ⟨w, hw, .refl w⟩

/-- MOVE: no condition is removed, and one that has ended stays as it is. -/
theorem Moves.ages (hm : Moves c s s') (hw : s.work.waits[k]? = some w) :
    ∃ w', s'.work.waits[k]? = some w' ∧ w.Ages w' := by
  cases hm with
  | closes hbeside hwaits hreconciliations hfallbacks =>
    obtain ⟨w', hw', hlapses⟩ := hwaits.after hw
    exact ⟨w', hw', hlapses.ages⟩
  | opens k₀ w₀ hbeside hk hwaiting hresult hwaits hreconciliations hfallbacks =>
    refine ⟨w, ?_, .refl w⟩
    rw [hwaits, Table.getElem?_insert', if_neg, hw]
    rintro rfl
    exact hk (Table.mem_of_getElem? hw)
  | observes o row hwork ho hnow hobservations hroutes hreconciliations =>
    exact ⟨w, by rw [hwork, hw], .refl w⟩
  | notes i r w₀ row hbeside hw₀ hrow heffect hterminal hnoChange hi hwaits hreconciliations
      hfallbacks => exact ⟨w, by rw [hwaits, hw], .refl w⟩
  | satisfies i r w₀ row now e evidence hbeside hw₀ hwaiting hrow heffect htimely hi hwaits
      hreconciliations he hevidence htask hfallbacks =>
    exact ages_insert hw₀ (WaitRow.ages_satisfiedBy hwaiting _ _) hwaits hw
  | expires k₀ w₀ d now record hbeside hw₀ hwaiting hd hdue hexamined hwaits hreconciliations
      hrecord hfallbacks => exact ages_insert hw₀ (WaitRow.ages_expiredAs hwaiting _ _) hwaits hw

/-- MOVE: facts and evidence stay. -/
theorem Moves.keeps (hm : Moves c s s') :
    (∀ (o : UuidV7) row, s.observations[o]? = some row → s'.observations[o]? = some row) ∧
      ∀ (e : UuidV7) row, s.work.evidence[e]? = some row → s'.work.evidence[e]? = some row := by
  cases hm with
  | closes hbeside => exact ⟨by simp [hbeside.observations], hbeside.evidence⟩
  | opens _ _ hbeside => exact ⟨by simp [hbeside.observations], hbeside.evidence⟩
  | notes _ _ _ _ hbeside => exact ⟨by simp [hbeside.observations], hbeside.evidence⟩
  | satisfies _ _ _ _ _ _ _ hbeside => exact ⟨by simp [hbeside.observations], hbeside.evidence⟩
  | expires _ _ _ _ _ hbeside => exact ⟨by simp [hbeside.observations], hbeside.evidence⟩
  | observes o row hwork ho hnow hobservations =>
    refine ⟨fun o' row' hrow' => ?_, by simp [hwork]⟩
    rw [hobservations, Table.getElem?_insert', if_neg, hrow']
    rintro rfl
    exact ho (Table.mem_of_getElem? hrow')

/-- MOVE: reconciliations stay. -/
theorem Moves.reconciliation (hm : Moves c s s') {r : ReconciliationRow}
    (hr : s.reconciliations[i]? = some r) : s'.reconciliations[i]? = some r := by
  cases hm with
  | closes _ _ hreconciliations => rw [hreconciliations, hr]
  | opens _ _ _ _ _ _ _ hreconciliations => rw [hreconciliations, hr]
  | observes _ _ _ _ _ _ _ hreconciliations => rw [hreconciliations, hr]
  | expires _ _ _ _ _ _ _ _ _ _ _ _ hreconciliations => rw [hreconciliations, hr]
  | notes i₀ r₀ w row hbeside hw hrow heffect hterminal hnoChange hi hwaits hreconciliations =>
    rw [hreconciliations, Table.getElem?_insert', if_neg, hr]
    rintro rfl
    exact hi (Table.mem_of_getElem? hr)
  | satisfies i₀ r₀ w row now e evidence hbeside hw hwaiting hrow heffect htimely hi hwaits
      hreconciliations =>
    rw [hreconciliations, Table.getElem?_insert', if_neg, hr]
    rintro rfl
    exact hi (Table.mem_of_getElem? hr)

/-- MOVE: what a reconciliation said goes on to hold. -/
theorem Moves.stands (hm : Moves c s s') {r : ReconciliationRow}
    (h : ∃ w row, s.work.waits[r.conditionId]? = some w ∧
      s.observations[r.observationId]? = some row ∧ s.Stands r w row) :
    ∃ w row, s'.work.waits[r.conditionId]? = some w ∧
      s'.observations[r.observationId]? = some row ∧ s'.Stands r w row := by
  obtain ⟨w, row, hw, hrow, hstands⟩ := h
  obtain ⟨w', hw', hages⟩ := hm.ages hw
  obtain ⟨hobservations, hevidence⟩ := hm.keeps
  refine ⟨w', row, hw', hobservations _ _ hrow, ?_⟩
  unfold Stands at hstands ⊢
  split at hstands
  · obtain ⟨hsatisfied, htimely, e, he, evidence, hstored, htask⟩ := hstands
    obtain rfl := hages.eq (by simp [hsatisfied])
    exact ⟨hsatisfied, htimely, e, he, evidence, hevidence _ _ hstored, htask⟩
  · obtain rfl := hages.eq hstands
    exact hstands
  · rcases hages with rfl | ⟨-, -, htimely⟩
    · exact hstands
    · exact mt (htimely row).1 hstands

/-! ### Every move keeps the law -/

/-- The candidates of an expiry are all the facts that could be timely. -/
theorem mem_listCandidateObservations {before : UnixMs} {o : UuidV7} :
    o ∈ s.listCandidateObservations w before ↔ ∃ row, s.observations[o]? = some row ∧
      ⟨o, w.parameters.observationKind, w.parameters.routeKey⟩ ∈ s.routes ∧
        w.notBefore ≤ row.occurredAt ∧ row.occurredAt < before ∧ row.recordedAt < before := by
  simp only [listCandidateObservations, List.mem_map, (List.perm_insertionSort _ _).mem_iff,
    Table.mem_rows, Bool.and_eq_true, decide_eq_true_eq, List.contains_iff_mem, Prod.exists,
    and_assoc]
  constructor
  · rintro ⟨o, row, hrow, hroute, hnotBefore, hoccurred, hrecorded, rfl⟩
    exact ⟨row, hrow, hroute, hnotBefore, hoccurred, hrecorded⟩
  · rintro ⟨row, hrow, hroute, hnotBefore, hoccurred, hrecorded⟩
    exact ⟨o, row, hrow, hroute, hnotBefore, hoccurred, hrecorded, rfl⟩

/-- SWEEP: a timely fact is a candidate. -/
theorem Law.candidate (h : s.Law c) {o : UuidV7} {row : ObservationRow} {d : UnixMs}
    (hrow : s.observations[o]? = some row) (htimely : Timely w row) (hd : d ∈ w.deadlineAt) :
    o ∈ s.listCandidateObservations w d := by
  obtain ⟨hkind, hroute, hnotBefore⟩ := htimely.1.routed
  obtain ⟨hoccurred, hrecorded⟩ := htimely.2 d hd
  exact mem_listCandidateObservations.2
    ⟨row, hrow, hkind ▸ h.routed o row hrow _ hroute, hnotBefore, hoccurred, hrecorded⟩

theorem Law.closes (h : s.Law c) (hbeside : Beside s s')
    (hwaits : Table.Revised WaitRow.Lapses s.work.waits s'.work.waits)
    (hreconciliations : s'.reconciliations = s.reconciliations)
    (hfallbacks : ∀ k, s'.work.fallbacks k = s.work.fallbacks k) : s'.Law c where
  routed o row hrow := by
    rw [hbeside.routes]
    exact h.routed o row (hbeside.observations ▸ hrow)
  stands i r hr := (Moves.closes (c := c) hbeside hwaits hreconciliations hfallbacks).stands
    (h.stands i r (hreconciliations ▸ hr))
  satisfied k w' hw' hsatisfied := by
    obtain ⟨w, hw, rfl | ⟨-, reason, now, rfl⟩⟩ := hwaits.before hw'
    · obtain ⟨i, hi⟩ := h.satisfied k w' hw hsatisfied
      exact ⟨i, (SatisfiedBy.congr hreconciliations).2 hi⟩
    · simp [WaitRow.cancelledAs] at hsatisfied
  satisfied_once k i i' hi hi' :=
    h.satisfied_once k i i' ((SatisfiedBy.congr hreconciliations).1 hi)
      ((SatisfiedBy.congr hreconciliations).1 hi')
  expired k w' hw' hexpired := by
    obtain ⟨w, hw, rfl | ⟨-, reason, now, rfl⟩⟩ := hwaits.before hw'
    · rw [hbeside.observations]
      exact h.expired k w' hw hexpired
    · simp [WaitRow.cancelledAs] at hexpired
  fallback k w' hw' := by
    obtain ⟨w, hw, rfl | ⟨hwaiting, reason, now, rfl⟩⟩ := hwaits.before hw'
    · rw [hfallbacks]
      exact h.fallback k w' hw
    · obtain ⟨record, hrecord, hresult, hsome⟩ := h.fallback k w hw
      refine ⟨record, by rw [hfallbacks, hrecord], hresult, ?_⟩
      rw [hsome]
      simp [hwaiting, WaitRow.cancelledAs]
  no_fallback k hk := by
    rw [hfallbacks]
    refine h.no_fallback k fun hmem => hk ?_
    obtain ⟨w, hw⟩ := Option.isSome_iff_exists.1 (Std.ExtTreeMap.mem_iff_isSome_getElem?.1 hmem)
    obtain ⟨w', hw', -⟩ := hwaits.after hw
    exact Table.mem_of_getElem? hw'

theorem Law.opens (h : s.Law c) (hm : Moves c s s') (hbeside : Beside s s')
    (hk : k ∉ s.work.waits) (hwaiting : w.status = .waiting)
    (hresult : w.fallbackResultTaskId = none)
    (hwaits : s'.work.waits = s.work.waits.insert k w)
    (hreconciliations : s'.reconciliations = s.reconciliations)
    (hfallbacks : ∀ k, s'.work.fallbacks k = s.work.fallbacks k) : s'.Law c where
  routed o row hrow := by
    rw [hbeside.routes]
    exact h.routed o row (hbeside.observations ▸ hrow)
  stands i r hr := hm.stands (h.stands i r (hreconciliations ▸ hr))
  satisfied k' w' hw' hsatisfied := by
    rw [hwaits, Table.getElem?_insert'] at hw'
    split at hw'
    · obtain rfl := Option.some.inj hw'
      simp [hwaiting] at hsatisfied
    · obtain ⟨i, hi⟩ := h.satisfied k' w' hw' hsatisfied
      exact ⟨i, (SatisfiedBy.congr hreconciliations).2 hi⟩
  satisfied_once k i i' hi hi' :=
    h.satisfied_once k i i' ((SatisfiedBy.congr hreconciliations).1 hi)
      ((SatisfiedBy.congr hreconciliations).1 hi')
  expired k' w' hw' hexpired := by
    rw [hwaits, Table.getElem?_insert'] at hw'
    split at hw'
    · obtain rfl := Option.some.inj hw'
      simp [hwaiting] at hexpired
    · rw [hbeside.observations]
      exact h.expired k' w' hw' hexpired
  fallback k' w' hw' := by
    rw [hwaits, Table.getElem?_insert'] at hw'
    rw [hfallbacks]
    split at hw'
    · rename_i heq
      obtain rfl := Option.some.inj hw'
      exact ⟨none, heq ▸ h.no_fallback k hk, hresult, by simp [hwaiting]⟩
    · exact h.fallback k' w' hw'
  no_fallback k' hk' := by
    rw [hfallbacks]
    refine h.no_fallback k' fun hmem => hk' ?_
    rw [hwaits, Std.ExtTreeMap.mem_insert]
    exact .inr hmem

theorem Law.observes (h : s.Law c) (hm : Moves c s s') {o : UuidV7} {row : ObservationRow}
    (hwork : s'.work = s.work) (hnow : row.recordedAt = c)
    (hobservations : s'.observations = s.observations.insert o row)
    (hroutes : s'.routes = s.routes ++ observationRouteKeys o row.payload)
    (hreconciliations : s'.reconciliations = s.reconciliations) : s'.Law c where
  routed o' row' hrow' key hkey := by
    rw [hobservations, Table.getElem?_insert'] at hrow'
    rw [hroutes, List.mem_append]
    split at hrow'
    · rename_i heq
      obtain rfl := Option.some.inj hrow'
      refine .inr (List.mem_map.2 ⟨key, List.mem_dedup.2 hkey, ?_⟩)
      rw [heq]
    · exact .inl (h.routed o' row' hrow' key hkey)
  stands i r hr := hm.stands (h.stands i r (hreconciliations ▸ hr))
  satisfied k w hw hsatisfied := by
    obtain ⟨i, hi⟩ := h.satisfied k w (hwork ▸ hw) hsatisfied
    exact ⟨i, (SatisfiedBy.congr hreconciliations).2 hi⟩
  satisfied_once k i i' hi hi' :=
    h.satisfied_once k i i' ((SatisfiedBy.congr hreconciliations).1 hi)
      ((SatisfiedBy.congr hreconciliations).1 hi')
  expired k w hw hexpired := by
    obtain ⟨d, hd, hdue, hnone⟩ := h.expired k w (hwork ▸ hw) hexpired
    refine ⟨d, hd, hdue, fun o' row' hrow' htimely => ?_⟩
    rw [hobservations, Table.getElem?_insert'] at hrow'
    split at hrow'
    · -- the deadline has passed, so a fact that is recorded now is late
      obtain rfl := Option.some.inj hrow'
      exact absurd (htimely.2 d hd).2 (hnow ▸ hdue).not_gt
    · exact hnone o' row' hrow' htimely
  fallback := hwork ▸ h.fallback
  no_fallback := hwork ▸ h.no_fallback

/-- One more reconciliation. -/
theorem satisfiedBy_insert {r : ReconciliationRow} (hi : i ∉ s.reconciliations)
    (hreconciliations : s'.reconciliations = s.reconciliations.insert i r) :
    s'.SatisfiedBy k i' ↔
      s.SatisfiedBy k i' ∨ i' = i ∧ r.conditionId = k ∧ r.effect = .satisfied := by
  simp only [SatisfiedBy, hreconciliations, Table.getElem?_insert']
  by_cases heq : i = i'
  · subst heq
    have hnone : s.reconciliations[i]? = none := Std.ExtTreeMap.getElem?_eq_none hi
    simp [hnone]
  · simp [heq, Ne.symm heq]

theorem Law.notes (h : s.Law c) (hm : Moves c s s') {r : ReconciliationRow} {row : ObservationRow}
    (hbeside : Beside s s') (hw : s.work.waits[r.conditionId]? = some w)
    (hrow : s.observations[r.observationId]? = some row) (heffect : r.effect ≠ .satisfied)
    (hterminal : r.effect = .conditionTerminal → w.status ≠ .waiting)
    (hnoChange : r.effect = .noChange → ¬ Timely w row) (hi : i ∉ s.reconciliations)
    (hwaits : s'.work.waits = s.work.waits)
    (hreconciliations : s'.reconciliations = s.reconciliations.insert i r)
    (hfallbacks : ∀ k, s'.work.fallbacks k = s.work.fallbacks k) : s'.Law c := by
  have hsame : ∀ k i', s'.SatisfiedBy k i' ↔ s.SatisfiedBy k i' := fun k i' => by
    rw [satisfiedBy_insert hi hreconciliations]
    exact or_iff_left fun hnew => heffect hnew.2.2
  refine ⟨fun o row hrow => ?_, fun i' r' hr' => ?_, fun k w hw hsatisfied => ?_,
    fun k i i' hi hi' => ?_, fun k w hw hexpired => ?_, fun k w hw => ?_, fun k hk => ?_⟩
  · rw [hbeside.routes]
    exact h.routed o row (hbeside.observations ▸ hrow)
  · rw [hreconciliations, Table.getElem?_insert'] at hr'
    split at hr'
    · obtain rfl := Option.some.inj hr'
      refine ⟨w, row, by rw [hwaits, hw], by rw [hbeside.observations, hrow], ?_⟩
      unfold Stands
      split
      · rename_i hsatisfied
        exact absurd hsatisfied heffect
      · rename_i hclosed
        exact hterminal hclosed
      · rename_i hnone
        exact hnoChange hnone
    · exact hm.stands (h.stands i' r' hr')
  · obtain ⟨i, hi⟩ := h.satisfied k w (hwaits ▸ hw) hsatisfied
    exact ⟨i, (hsame k i).2 hi⟩
  · exact h.satisfied_once k i i' ((hsame k i).1 hi) ((hsame k i').1 hi')
  · rw [hbeside.observations]
    exact h.expired k w (hwaits ▸ hw) hexpired
  · rw [hfallbacks]
    exact h.fallback k w (hwaits ▸ hw)
  · rw [hfallbacks]
    exact h.no_fallback k (hwaits ▸ hk)

theorem Law.satisfies (h : s.Law c) (hm : Moves c s s') {r : ReconciliationRow}
    {row : ObservationRow} {now : UnixMs} {e : UuidV7} {evidence : EvidenceRow}
    (hbeside : Beside s s') (hw : s.work.waits[r.conditionId]? = some w)
    (hwaiting : w.status = .waiting) (hrow : s.observations[r.observationId]? = some row)
    (heffect : r.effect = .satisfied) (htimely : Timely w row) (hi : i ∉ s.reconciliations)
    (hwaits : s'.work.waits = s.work.waits.insert r.conditionId (w.satisfiedBy r.observationId now))
    (hreconciliations : s'.reconciliations = s.reconciliations.insert i r)
    (he : r.evidenceId = some e) (hevidence : s'.work.evidence[e]? = some evidence)
    (htask : evidence.taskId = w.taskId)
    (hfallbacks : ∀ k, s'.work.fallbacks k = s.work.fallbacks k) : s'.Law c := by
  have hnew : ∀ k i', s'.SatisfiedBy k i' ↔ _ := fun k i' => satisfiedBy_insert hi hreconciliations
  have hnone : ∀ i', ¬ s.SatisfiedBy r.conditionId i' := fun i' hi' => by
    obtain ⟨w', hw', hsatisfied⟩ := h.status hi'
    obtain rfl := Option.some.inj (hw.symm.trans hw')
    simp [hwaiting] at hsatisfied
  have hself : s'.work.waits[r.conditionId]? = some (w.satisfiedBy r.observationId now) := by
    rw [hwaits, Table.getElem?_insert', if_pos rfl]
  have hother : ∀ k, r.conditionId ≠ k → s'.work.waits[k]? = s.work.waits[k]? := fun k hk => by
    rw [hwaits, Table.getElem?_insert', if_neg hk]
  refine ⟨fun o row hrow => ?_, fun i' r' hr' => ?_, fun k w' hw' hsatisfied => ?_,
    fun k i i' hi hi' => ?_, fun k w' hw' hexpired => ?_, fun k w' hw' => ?_, fun k hk => ?_⟩
  · rw [hbeside.routes]
    exact h.routed o row (hbeside.observations ▸ hrow)
  · rw [hreconciliations, Table.getElem?_insert'] at hr'
    split at hr'
    · obtain rfl := Option.some.inj hr'
      refine ⟨_, row, hself, by rw [hbeside.observations, hrow], ?_⟩
      simp only [Stands, heffect]
      exact ⟨rfl, htimely, e, he, evidence, hevidence, htask⟩
    · exact hm.stands (h.stands i' r' hr')
  · rcases eq_or_ne r.conditionId k with rfl | hk
    · exact ⟨i, (hnew _ i).2 (.inr ⟨rfl, rfl, heffect⟩)⟩
    · obtain ⟨i', hi'⟩ := h.satisfied k w' (hother k hk ▸ hw') hsatisfied
      exact ⟨i', (hnew k i').2 (.inl hi')⟩
  · rcases (hnew k i).1 hi with hold | ⟨rfl, rfl, -⟩
    · rcases (hnew k i').1 hi' with hold' | ⟨rfl, rfl, -⟩
      · exact h.satisfied_once k i i' hold hold'
      · exact absurd hold (hnone i)
    · rcases (hnew _ i').1 hi' with hold' | ⟨rfl, -, -⟩
      · exact absurd hold' (hnone i')
      · rfl
  · rw [hbeside.observations]
    rcases eq_or_ne r.conditionId k with rfl | hk
    · obtain rfl := Option.some.inj (hself.symm.trans hw')
      simp [WaitRow.satisfiedBy] at hexpired
    · exact h.expired k w' (hother k hk ▸ hw') hexpired
  · rw [hfallbacks]
    rcases eq_or_ne r.conditionId k with rfl | hk
    · obtain rfl := Option.some.inj (hself.symm.trans hw')
      obtain ⟨record, hrecord, hresult, hsome⟩ := h.fallback _ w hw
      refine ⟨record, hrecord, hresult, ?_⟩
      rw [hsome]
      simp [hwaiting, WaitRow.satisfiedBy]
    · exact h.fallback k w' (hother k hk ▸ hw')
  · rw [hfallbacks]
    refine h.no_fallback k fun hmem => hk ?_
    rw [hwaits, Std.ExtTreeMap.mem_insert]
    exact .inr hmem

theorem Law.expires (h : s.Law c) (hm : Moves c s s') {d now : UnixMs}
    {record : Option (Retry.IdempotencyRecord WorkOperation String)} (hbeside : Beside s s')
    (hw : s.work.waits[k]? = some w) (hwaiting : w.status = .waiting) (hd : d ∈ w.deadlineAt)
    (hdue : d ≤ c)
    (hexamined : ∀ o ∈ s.listCandidateObservations w d, ∃ (i : UuidV7) (r : ReconciliationRow),
      s.reconciliations[i]? = some r ∧ r.conditionId = k ∧ r.observationId = o ∧
        r.effect ≠ .satisfied)
    (hwaits : s'.work.waits = s.work.waits.insert k (w.expiredAs (record.map (·.resultId)) now))
    (hreconciliations : s'.reconciliations = s.reconciliations)
    (hrecord : record.isSome ↔ w.fallback ≠ .none)
    (hfallbacks : ∀ k', s'.work.fallbacks k' =
      s.work.fallbacks k' ++ if k' = k then record.toList else []) : s'.Law c := by
  have hself : s'.work.waits[k]? = some (w.expiredAs (record.map (·.resultId)) now) := by
    rw [hwaits, Table.getElem?_insert', if_pos rfl]
  have hother : ∀ k', k ≠ k' → s'.work.waits[k']? = s.work.waits[k']? := fun k' hk => by
    rw [hwaits, Table.getElem?_insert', if_neg hk]
  have hothers : ∀ k', k ≠ k' → s'.work.fallbacks k' = s.work.fallbacks k' := fun k' hk => by
    rw [hfallbacks, if_neg hk.symm, List.append_nil]
  refine ⟨fun o row hrow => ?_, fun i' r' hr' => ?_, fun k' w' hw' hsatisfied => ?_,
    fun k' i i' hi hi' => ?_, fun k' w' hw' hexpired => ?_, fun k' w' hw' => ?_, fun k' hk' => ?_⟩
  · rw [hbeside.routes]
    exact h.routed o row (hbeside.observations ▸ hrow)
  · exact hm.stands (h.stands i' r' (hreconciliations ▸ hr'))
  · rcases eq_or_ne k k' with rfl | hk
    · obtain rfl := Option.some.inj (hself.symm.trans hw')
      simp [WaitRow.expiredAs] at hsatisfied
    · obtain ⟨i, hi⟩ := h.satisfied k' w' (hother k' hk ▸ hw') hsatisfied
      exact ⟨i, (SatisfiedBy.congr hreconciliations).2 hi⟩
  · exact h.satisfied_once k' i i' ((SatisfiedBy.congr hreconciliations).1 hi)
      ((SatisfiedBy.congr hreconciliations).1 hi')
  · rw [hbeside.observations]
    rcases eq_or_ne k k' with rfl | hk
    · obtain rfl := Option.some.inj (hself.symm.trans hw')
      refine ⟨d, hd, hdue, fun o row hrow htimely => ?_⟩
      -- a timely fact would have been a candidate, and its examination would have satisfied `w`
      have htimely : Timely w row := htimely
      obtain ⟨i, r, hr, rfl, rfl, heffect⟩ := hexamined o (h.candidate hrow htimely hd)
      exact h.examined hr hw hwaiting hrow heffect htimely
    · exact h.expired k' w' (hother k' hk ▸ hw') hexpired
  · rcases eq_or_ne k k' with rfl | hk
    · obtain rfl := Option.some.inj (hself.symm.trans hw')
      refine ⟨record, ?_, rfl, ?_⟩
      · rw [hfallbacks, if_pos rfl, h.fallbacks_waiting hw hwaiting, List.nil_append]
      · rw [hrecord]
        simp [WaitRow.expiredAs]
    · rw [hothers k' hk]
      exact h.fallback k' w' (hother k' hk ▸ hw')
  · rw [hwaits, Std.ExtTreeMap.mem_insert, compare_eq_iff_eq, not_or] at hk'
    rw [hothers k' hk'.1]
    exact h.no_fallback k' hk'.2

/-- STEP: every move keeps the law. -/
theorem Law.moves (h : s.Law c) (hm : Moves c s s') : s'.Law c := by
  have hmove := hm
  cases hm with
  | closes hbeside hwaits hreconciliations hfallbacks =>
    exact h.closes hbeside hwaits hreconciliations hfallbacks
  | opens k w hbeside hk hwaiting hresult hwaits hreconciliations hfallbacks =>
    exact h.opens hmove hbeside hk hwaiting hresult hwaits hreconciliations hfallbacks
  | observes o row hwork ho hnow hobservations hroutes hreconciliations =>
    exact h.observes hmove hwork hnow hobservations hroutes hreconciliations
  | notes i r w row hbeside hw hrow heffect hterminal hnoChange hi hwaits hreconciliations
      hfallbacks =>
    exact h.notes hmove hbeside hw hrow heffect hterminal hnoChange hi hwaits hreconciliations
      hfallbacks
  | satisfies i r w row now e evidence hbeside hw hwaiting hrow heffect htimely hi hwaits
      hreconciliations he hevidence htask hfallbacks =>
    exact h.satisfies hmove hbeside hw hwaiting hrow heffect htimely hi hwaits hreconciliations he
      hevidence htask hfallbacks
  | expires k w d now record hbeside hw hwaiting hd hdue hexamined hwaits hreconciliations hrecord
      hfallbacks =>
    exact h.expires hmove hbeside hw hwaiting hd hdue hexamined hwaits hreconciliations hrecord
      hfallbacks

/-! ### Paths -/

/-- Moves at the instant `c` lead from `s` to `s'`. -/
def Path (c : UnixMs) : WaitStore → WaitStore → Prop := Relation.ReflTransGen (Moves c)

theorem Path.refl (s : WaitStore) : Path c s s := Relation.ReflTransGen.refl

theorem Path.one (h : Moves c s s') : Path c s s' := .single h

theorem Path.append {t : WaitStore} (h : Path c s t) (h' : Path c t s') : Path c s s' :=
  Relation.ReflTransGen.trans h h'

theorem Path.law (hpath : Path c s s') (h : s.Law c) : s'.Law c := by
  induction hpath with
  | refl => exact h
  | tail _ hm ih => exact ih.moves hm

theorem Path.ages (hpath : Path c s s') (hw : s.work.waits[k]? = some w) :
    ∃ w', s'.work.waits[k]? = some w' ∧ w.Ages w' := by
  induction hpath with
  | refl => exact ⟨w, hw, .refl w⟩
  | tail _ hm ih =>
    obtain ⟨w₁, hw₁, hages⟩ := ih
    obtain ⟨w₂, hw₂, hages'⟩ := hm.ages hw₁
    exact ⟨w₂, hw₂, hages.trans hages'⟩

theorem Path.reconciliation (hpath : Path c s s') {r : ReconciliationRow}
    (hr : s.reconciliations[i]? = some r) : s'.reconciliations[i]? = some r := by
  induction hpath with
  | refl => exact hr
  | tail _ hm ih => exact hm.reconciliation ih

end WaitStore

end Tasq
