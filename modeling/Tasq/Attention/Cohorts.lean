import Mathlib.Tactic
import Tasq.Attention.Plan

/-! Cohorts of deliveries, before and after a change of policy.

    What a cohort has covered is rounded to millionths, and it has a million requests at most: so it
    reads as full exactly when every request was delivered, and no comparison counts a saving that
    comes from requests that were left out. -/

namespace Tasq.Attention

open Text Outcome Custody

structure WorkUnit where
  id : String
  decisionQualityMicros : Option ℕ
  deriving DecidableEq

structure Delivery where
  deliveryId : String
  requestIds : List String
  deriving DecidableEq

structure CohortRequest where
  requestId : String
  workUnitId : String
  deriving DecidableEq

/-- `CohortInput` -/
structure Cohort where
  workUnits : List WorkUnit
  deliveries : List Delivery
  requests : List CohortRequest
  deriving DecidableEq

/-- The texts as the schema reads them. -/
def Cohort.trim (c : Cohort) : Cohort where
  workUnits := c.workUnits.map fun u => { u with id := jsTrim u.id }
  deliveries := c.deliveries.map fun d => ⟨jsTrim d.deliveryId, d.requestIds.map jsTrim⟩
  requests := c.requests.map fun r => ⟨jsTrim r.requestId, jsTrim r.workUnitId⟩

/-- The bounds of the schema. -/
def IsCohort (c : Cohort) : Prop :=
  ((1 ≤ c.workUnits.length ∧ c.workUnits.length ≤ 100000) ∧
    ∀ u ∈ c.workUnits, IsText 500 u.id ∧ ∀ q ∈ u.decisionQualityMicros, q ≤ 1000000) ∧
  (c.deliveries.length ≤ 100000 ∧ ∀ d ∈ c.deliveries, IsText 500 d.deliveryId ∧
    (1 ≤ d.requestIds.length ∧ d.requestIds.length ≤ maximumItems) ∧
    ∀ id ∈ d.requestIds, IsText 500 id) ∧
  (c.requests.length ≤ 1000000 ∧ ∀ r ∈ c.requests, IsText 500 r.requestId ∧ IsText 500 r.workUnitId)

instance (c : Cohort) : Decidable (IsCohort c) := by
  unfold IsCohort IsText; infer_instance

/-- `AttentionCohortMetrics` -/
structure Metrics where
  workUnitCount : ℕ
  requestCount : ℕ
  solicitationCount : ℕ
  deliveredRequestCount : ℕ
  deliveryCoverageMicros : ℕ
  solicitationsPerWorkUnitMicros : ℕ
  requestsPerSolicitationMicros : Option ℕ
  ratedDecisionCount : ℕ
  meanDecisionQualityMicros : Option ℕ
  deriving DecidableEq

/-- `Math.round(a / b)`. The quotients here are of numbers up to 10^12 and 10^6, so that none comes
    near enough to a half for the double to cross it. -/
def roundQuotient (a b : ℕ) : ℕ := (2 * a + b) / (2 * b)

/-- The loop over the requests, with the ids that it has seen. -/
def knownRequest (workIds seen : List String) (request : CohortRequest) : Call (List String) := do
  refuse (request.workUnitId ∉ workIds)
    (.error ("Attention request has unknown work unit: " ++ request.workUnitId))
  refuse (request.requestId ∈ seen)
    (.error ("Attention cohort has duplicate request: " ++ request.requestId))
  pure (seen ++ [request.requestId])

/-- The loop over the requests of a delivery, with those that have been delivered. -/
def deliveredOnce (requestIds delivered : List String) (requestId : String) : Call (List String) := do
  refuse (requestId ∉ requestIds)
    (.error ("Attention delivery has unknown request: " ++ requestId))
  refuse (requestId ∈ delivered)
    (.error ("Attention request appears in multiple deliveries: " ++ requestId))
  pure (delivered ++ [requestId])

/-- The loop over the deliveries, with those seen and the requests that have been delivered. -/
def knownDelivery (requestIds : List String) (seen : List String × List String)
    (delivery : Delivery) : Call (List String × List String) := do
  refuse (delivery.deliveryId ∈ seen.1)
    (.error ("Attention cohort has duplicate delivery: " ++ delivery.deliveryId))
  let delivered ← delivery.requestIds.foldlM (deliveredOnce requestIds) seen.2
  pure (seen.1 ++ [delivery.deliveryId], delivered)

/-- What `measureAttentionCohort` answers for a cohort, once it is checked. -/
def Cohort.metrics (c : Cohort) (delivered : List String) : Metrics :=
  let ratings := c.workUnits.filterMap (·.decisionQualityMicros)
  { workUnitCount := c.workUnits.length
    requestCount := c.requests.length
    solicitationCount := c.deliveries.length
    deliveredRequestCount := delivered.length
    deliveryCoverageMicros := if c.requests.length = 0 then 1000000
      else roundQuotient (delivered.length * 1000000) c.requests.length
    solicitationsPerWorkUnitMicros :=
      roundQuotient (c.deliveries.length * 1000000) c.workUnits.length
    requestsPerSolicitationMicros := if c.deliveries.length = 0 then none
      else some (roundQuotient (delivered.length * 1000000) c.deliveries.length)
    ratedDecisionCount := ratings.length
    meanDecisionQualityMicros := if ratings.length = 0 then none
      else some (roundQuotient ratings.sum ratings.length) }

/-- `measureAttentionCohort` -/
def measureAttentionCohort (input : Cohort) : Call Metrics := do
  let parsed := input.trim
  refuse (¬ IsCohort parsed) (.invalid "CohortInput")
  let workIds := parsed.workUnits.map (·.id)
  refuse (¬ workIds.Nodup) (.error "Attention cohort has duplicate work-unit ids")
  let requestIds ← parsed.requests.foldlM (knownRequest workIds) []
  let (_, delivered) ← parsed.deliveries.foldlM (knownDelivery requestIds) ([], [])
  pure (parsed.metrics delivered)

/-- What `compareAttentionCohorts` answers, apart from the two cohorts. -/
structure Comparison where
  coverageComparable : Bool
  solicitationsReduced : Bool
  solicitationReductionMicros : ℤ
  qualityComparable : Bool
  decisionQualityRetained : Bool
  deriving DecidableEq

/-- `compareAttentionCohorts` -/
def compareAttentionCohorts (baseline candidate : Metrics) (maximumQualityLossMicros : ℤ := 0) :
    Call Comparison := do
  refuse (maximumQualityLossMicros < 0 ∨ 1000000 < maximumQualityLossMicros)
    (.error "maximumQualityLossMicros must be an integer in 0..1000000")
  let comparableQuality := baseline.meanDecisionQualityMicros.isSome &&
    candidate.meanDecisionQualityMicros.isSome &&
    baseline.ratedDecisionCount == baseline.workUnitCount &&
    candidate.ratedDecisionCount == candidate.workUnitCount
  let completeCoverage := baseline.deliveryCoverageMicros == 1000000 &&
    candidate.deliveryCoverageMicros == 1000000
  pure
    { coverageComparable := completeCoverage
      solicitationsReduced := completeCoverage &&
        decide (candidate.solicitationsPerWorkUnitMicros < baseline.solicitationsPerWorkUnitMicros)
      solicitationReductionMicros :=
        baseline.solicitationsPerWorkUnitMicros - candidate.solicitationsPerWorkUnitMicros
      qualityComparable := comparableQuality
      decisionQualityRetained := comparableQuality &&
        decide ((baseline.meanDecisionQualityMicros.getD 0 : ℤ) ≤
          candidate.meanDecisionQualityMicros.getD 0 + maximumQualityLossMicros) }

/-! ### What the checks establish -/

section

variable {workIds requestIds seen ids : List String} {requests : List CohortRequest}
  {deliveries : List Delivery}

theorem foldlM_knownRequest : requests.foldlM (knownRequest workIds) seen = .ok ids →
    seen.Nodup → ids.Nodup ∧ ids = seen ++ requests.map (·.requestId) := by
  induction requests generalizing seen with
  | nil =>
    intro h hseen
    obtain rfl := (pure_eq_ok _ _).1 h
    exact ⟨hseen, by simp⟩
  | cons request requests ih =>
    intro h hseen
    simp only [List.foldlM_cons, knownRequest, bind_eq_ok, refuse_eq_ok, pure_eq_ok, exists_const,
      not_not] at h
    obtain ⟨_, ⟨-, hnew, rfl⟩, h⟩ := h
    obtain ⟨hnodup, rfl⟩ := ih h (List.nodup_append.2 ⟨hseen, List.nodup_singleton _, by
      rintro a ha b hb rfl
      exact hnew (List.mem_singleton.1 hb ▸ ha)⟩)
    exact ⟨hnodup, by simp⟩

theorem foldlM_deliveredOnce {delivered : List String} :
    ids.foldlM (deliveredOnce requestIds) seen = .ok delivered → seen.Nodup → seen ⊆ requestIds →
      delivered.Nodup ∧ delivered ⊆ requestIds ∧ delivered = seen ++ ids := by
  induction ids generalizing seen with
  | nil =>
    intro h hseen hknown
    obtain rfl := (pure_eq_ok _ _).1 h
    exact ⟨hseen, hknown, by simp⟩
  | cons id ids ih =>
    intro h hseen hknown
    simp only [List.foldlM_cons, deliveredOnce, bind_eq_ok, refuse_eq_ok, pure_eq_ok, exists_const,
      not_not] at h
    obtain ⟨_, ⟨hid, hnew, rfl⟩, h⟩ := h
    obtain ⟨hnodup, hsubset, rfl⟩ := ih h
      (List.nodup_append.2 ⟨hseen, List.nodup_singleton _, by
        rintro a ha b hb rfl
        exact hnew (List.mem_singleton.1 hb ▸ ha)⟩)
      (List.append_subset.2 ⟨hknown, List.cons_subset.2 ⟨hid, List.nil_subset _⟩⟩)
    exact ⟨hnodup, hsubset, by simp⟩

theorem foldlM_knownDelivery {before after : List String × List String} :
    deliveries.foldlM (knownDelivery requestIds) before = .ok after → before.2.Nodup →
      before.2 ⊆ requestIds → after.2.Nodup ∧ after.2 ⊆ requestIds ∧
        after.2 = before.2 ++ deliveries.flatMap (·.requestIds) := by
  induction deliveries generalizing before with
  | nil =>
    intro h hseen hknown
    obtain rfl := (pure_eq_ok _ _).1 h
    exact ⟨hseen, hknown, by simp⟩
  | cons delivery deliveries ih =>
    intro h hseen hknown
    simp only [List.foldlM_cons, knownDelivery, bind_eq_ok, refuse_eq_ok, pure_eq_ok,
      exists_const] at h
    obtain ⟨_, ⟨-, delivered, hdelivered, rfl⟩, h⟩ := h
    obtain ⟨hnodup, hsubset, rfl⟩ := foldlM_deliveredOnce hdelivered hseen hknown
    obtain ⟨hnodup', hsubset', heq⟩ := ih h hnodup hsubset
    exact ⟨hnodup', hsubset', by rw [heq]; simp⟩

end

/-- What a measured cohort is known to hold. -/
theorem measure_eq_ok {input : Cohort} {m : Metrics} (h : measureAttentionCohort input = .ok m) :
    IsCohort input.trim ∧ (input.trim.requests.map (·.requestId)).Nodup ∧
      (input.trim.deliveries.flatMap (·.requestIds)).Nodup ∧
      input.trim.deliveries.flatMap (·.requestIds) ⊆ input.trim.requests.map (·.requestId) ∧
      m = input.trim.metrics (input.trim.deliveries.flatMap (·.requestIds)) := by
  simp only [measureAttentionCohort, bind_eq_ok, refuse_eq_ok, pure_eq_ok, exists_const, not_not,
    Prod.exists] at h
  obtain ⟨hinput, -, requestIds, hrequests, seen, delivered, hdeliveries, rfl⟩ := h
  obtain ⟨hnodup, rfl⟩ := foldlM_knownRequest hrequests List.nodup_nil
  obtain ⟨honce, hknown, hall⟩ :=
    foldlM_knownDelivery hdeliveries List.nodup_nil (List.nil_subset _)
  simp only [List.nil_append] at hnodup hknown hall
  subst hall
  exact ⟨hinput, hnodup, honce, hknown, rfl⟩

/-! ### Coverage -/

/-- A quotient of a million or fewer reads as one only when it is. -/
theorem roundQuotient_eq_million {a b : ℕ} (hb : 0 < b) (hle : b ≤ 1000000) (hab : a ≤ b) :
    roundQuotient (a * 1000000) b = 1000000 ↔ a = b := by
  unfold roundQuotient
  constructor
  · intro h
    by_contra hne
    have hless : a + 1 ≤ b := Nat.lt_of_le_of_ne hab hne
    have hround := Nat.div_mul_le_self (2 * (a * 1000000) + b) (2 * b)
    rw [h] at hround
    omega
  · rintro rfl
    rw [show 2 * (a * 1000000) + a = a + 1000000 * (2 * a) by ring,
      Nat.add_mul_div_right _ _ (by omega), Nat.div_eq_of_lt (by omega)]

/-- Every request of the cohort was delivered. -/
def Covers (c : Cohort) : Prop :=
  ∀ r ∈ c.trim.requests, ∃ d ∈ c.trim.deliveries, r.requestId ∈ d.requestIds

theorem coverage_eq_million {input : Cohort} {m : Metrics}
    (h : measureAttentionCohort input = .ok m) :
    m.deliveryCoverageMicros = 1000000 ↔ Covers input := by
  obtain ⟨hinput, hnodup, honce, hknown, rfl⟩ := measure_eq_ok h
  have hcovers : Covers input ↔ input.trim.requests.map (·.requestId) ⊆
      input.trim.deliveries.flatMap (·.requestIds) := by
    simp only [Covers, List.subset_def, List.mem_map, List.mem_flatMap, forall_exists_index, and_imp,
      forall_apply_eq_imp_iff₂]
  have hlength := (honce.subperm hknown).length_le
  rw [List.length_map] at hlength
  have hall : (input.trim.deliveries.flatMap (·.requestIds)).length = input.trim.requests.length ↔
      Covers input := by
    rw [hcovers]
    constructor
    · intro heq
      have hperm := (honce.subperm hknown).perm_of_length_le (by rw [List.length_map, heq])
      exact hperm.symm.subset
    · intro hsubset
      have := (hnodup.subperm hsubset).length_le
      rw [List.length_map] at this
      omega
  rw [← hall]
  simp only [Cohort.metrics]
  split_ifs with hnone
  · rw [hnone] at hlength ⊢
    exact iff_of_true rfl (Nat.le_zero.1 hlength)
  · exact roundQuotient_eq_million (Nat.pos_of_ne_zero hnone) hinput.2.2.1 hlength

/-- CORRECT: a comparison is of full coverage exactly when both cohorts delivered all their requests,
    and it reports fewer solicitations only then. -/
theorem compare_covers {baseline candidate : Cohort} {mb mc : Metrics} {loss : ℤ}
    {comparison : Comparison} (hb : measureAttentionCohort baseline = .ok mb)
    (hc : measureAttentionCohort candidate = .ok mc)
    (h : compareAttentionCohorts mb mc loss = .ok comparison) :
    (comparison.coverageComparable = true ↔ Covers baseline ∧ Covers candidate) ∧
      (comparison.solicitationsReduced = true ↔ Covers baseline ∧ Covers candidate ∧
        mc.solicitationsPerWorkUnitMicros < mb.solicitationsPerWorkUnitMicros) := by
  simp only [compareAttentionCohorts, bind_eq_ok, refuse_eq_ok, pure_eq_ok, exists_const] at h
  obtain ⟨-, rfl⟩ := h
  simp only [Bool.and_eq_true, beq_iff_eq, decide_eq_true_eq, coverage_eq_million hb,
    coverage_eq_million hc, and_assoc, and_self]

/-- Two requests about one unit of work, in deliveries of their own or in one. -/
def plainCohort (deliveries : List Delivery) : Cohort where
  workUnits := [⟨"w", some 1⟩]
  deliveries := deliveries
  requests := [⟨"a", "w"⟩, ⟨"b", "w"⟩]

theorem compare_covers_plain : ∃ mb mc comparison,
    measureAttentionCohort (plainCohort [⟨"1", ["a"]⟩, ⟨"2", ["b"]⟩]) = .ok mb ∧
      measureAttentionCohort (plainCohort [⟨"1", ["a", "b"]⟩]) = .ok mc ∧
      compareAttentionCohorts mb mc 0 = .ok comparison ∧ comparison.solicitationsReduced = true := by
  have hb : measureAttentionCohort (plainCohort [⟨"1", ["a"]⟩, ⟨"2", ["b"]⟩]) =
      .ok ⟨1, 2, 2, 2, 1000000, 2000000, some 1000000, 1, some 1⟩ := by
    decide +kernel
  have hc : measureAttentionCohort (plainCohort [⟨"1", ["a", "b"]⟩]) =
      .ok ⟨1, 2, 1, 2, 1000000, 1000000, some 2000000, 1, some 1⟩ := by
    decide +kernel
  have h : compareAttentionCohorts ⟨1, 2, 2, 2, 1000000, 2000000, some 1000000, 1, some 1⟩
      ⟨1, 2, 1, 2, 1000000, 1000000, some 2000000, 1, some 1⟩ 0 =
        .ok ⟨true, true, 1000000, true, true⟩ := by
    decide +kernel
  obtain ⟨hall, hfewer⟩ := compare_covers hb hc h
  obtain ⟨hbaseline, hcandidate⟩ := hall.1 rfl
  exact ⟨_, _, _, hb, hc, h, hfewer.2 ⟨hbaseline, hcandidate, by decide⟩⟩

end Tasq.Attention
