import Mathlib.Tactic
import Tasq.Attention.Queue

/-! The batches of a ready plan: the queue in its order, cut into envelopes that keep both bounds,
    each as long as the bounds allow. -/

namespace Tasq.Attention

open Text Outcome Json Custody Statements

/-- The envelope that is made of some requests. -/
def Made (rt : AttentionRuntime) (policy : Policy) (requests : List Request) (b : Batch) : Prop :=
  ∃ first others, requests = first :: others ∧
    rt.createAttentionBatchEnvelope policy first others = .ok b

/-- The batch is the envelope of its requests, and short enough. -/
structure Fits (rt : AttentionRuntime) (policy : Policy) (b : Batch) : Prop where
  made : Made rt policy b.requests b
  within : Within effectLimits b.json
  short : bytes (serialize b.json) ≤ policy.maximumBatchBytes

/-- The requests make an envelope that is too long for the policy. -/
def TooLong (rt : AttentionRuntime) (policy : Policy) (requests : List Request) : Prop :=
  ∃ b, Made rt policy requests b ∧ Within effectLimits b.json ∧
    policy.maximumBatchBytes < bytes (serialize b.json)

/-- What the batches of a queue are to be. -/
structure IsPacking (rt : AttentionRuntime) (policy : Policy) (queue : List Request)
    (batches : List Batch) : Prop where
  whole : batches.flatMap (·.requests) = queue
  fits : ∀ b ∈ batches, Fits rt policy b
  few : ∀ b ∈ batches, b.requests.length ≤ policy.maximumBatchItems
  /-- No batch could take more of what comes after it. -/
  full : ∀ before b after, batches = before ++ b :: after →
    ∀ n, b.requests.length < n → n ≤ policy.maximumBatchItems →
      n ≤ (b.requests ++ after.flatMap (·.requests)).length →
      TooLong rt policy ((b.requests ++ after.flatMap (·.requests)).take n)

section

variable {rt : AttentionRuntime} {policy : Policy} {first : Request} {others queue : List Request}
  {b : Batch} {batches rest : List Batch} {n : ℕ}

theorem Made.requests (h : Made rt policy queue b) : b.requests = queue := by
  obtain ⟨first, others, rfl, h⟩ := h
  simp only [AttentionRuntime.createAttentionBatchEnvelope, bind_eq_ok, pure_eq_ok] at h
  obtain ⟨-, -, -, -, rfl⟩ := h
  rfl

theorem made_cons : Made rt policy (first :: others) b ↔
    rt.createAttentionBatchEnvelope policy first others = .ok b := by
  constructor
  · rintro ⟨_, _, hcons, h⟩
    cases hcons
    exact h
  · exact fun h => ⟨first, others, rfl, h⟩

theorem canonicalBytes_eq_ok {value : Json} {size : ℕ} :
    AttentionRuntime.canonicalBytes value = .ok size ↔
      Within effectLimits value ∧ bytes (serialize value) = size := by
  simp only [AttentionRuntime.canonicalBytes, bind_eq_ok, refuse_eq_ok, pure_eq_ok, not_not,
    exists_const]

theorem fitting_eq_some : rt.fitting policy first others n = .ok (some b) ↔
    Made rt policy (first :: others.take n) b ∧ Fits rt policy b := by
  simp only [AttentionRuntime.fitting, bind_eq_ok, canonicalBytes_eq_ok, pure_eq_ok]
  constructor
  · rintro ⟨made, hmade, size, ⟨hwithin, rfl⟩, hsize⟩
    split_ifs at hsize with hshort
    obtain rfl := Option.some.inj hsize
    have hmade := made_cons.2 hmade
    exact ⟨hmade, hmade.requests ▸ hmade, hwithin, hshort⟩
  · rintro ⟨hmade, -, hwithin, hshort⟩
    exact ⟨b, made_cons.1 hmade, _, ⟨hwithin, rfl⟩, by rw [if_pos hshort]⟩

theorem fitting_eq_none : rt.fitting policy first others n = .ok none ↔
    TooLong rt policy (first :: others.take n) := by
  simp only [AttentionRuntime.fitting, bind_eq_ok, canonicalBytes_eq_ok, pure_eq_ok, TooLong,
    made_cons]
  constructor
  · rintro ⟨made, hmade, size, ⟨hwithin, rfl⟩, hsize⟩
    split_ifs at hsize with hshort
    exact ⟨made, hmade, hwithin, not_le.1 hshort⟩
  · rintro ⟨made, hmade, hwithin, hlong⟩
    exact ⟨made, hmade, _, ⟨hwithin, rfl⟩, by rw [if_neg (not_le.2 hlong)]⟩

/-- The inner loop: the most requests that fit, out of those that it tries. -/
theorem shrink_eq_ok : rt.shrink policy first others n = .ok b ↔
    ∃ k ≤ n, (Made rt policy (first :: others.take k) b ∧ Fits rt policy b) ∧
      ∀ m, k < m → m ≤ n → TooLong rt policy (first :: others.take m) := by
  induction n with
  | zero =>
    simp only [AttentionRuntime.shrink, bind_eq_ok, demand_eq_ok]
    constructor
    · rintro ⟨_, hfitting, rfl⟩
      exact ⟨0, le_rfl, fitting_eq_some.1 hfitting, fun m hm hle => by omega⟩
    · rintro ⟨k, hk, hfits, -⟩
      obtain rfl := Nat.le_zero.1 hk
      exact ⟨_, fitting_eq_some.2 hfits, rfl⟩
  | succ n ih =>
    simp only [AttentionRuntime.shrink, bind_eq_ok]
    constructor
    · rintro ⟨found, hfitting, h⟩
      cases found with
      | some envelope =>
        obtain rfl := (pure_eq_ok _ _).1 h
        exact ⟨n + 1, le_rfl, fitting_eq_some.1 hfitting, fun m hm hle => by omega⟩
      | none =>
        obtain ⟨k, hk, hfits, hlong⟩ := ih.1 h
        refine ⟨k, by omega, hfits, fun m hm hle => ?_⟩
        rcases Nat.lt_or_ge n m with hlast | hbefore
        · obtain rfl : m = n + 1 := by omega
          exact fitting_eq_none.1 hfitting
        · exact hlong m hm hbefore
    · rintro ⟨k, hk, hfits, hlong⟩
      rcases Nat.lt_or_ge k (n + 1) with hless | hall
      · exact ⟨none, fitting_eq_none.2 (hlong (n + 1) hless le_rfl),
          ih.2 ⟨k, by omega, hfits, fun m hm hle => hlong m hm (by omega)⟩⟩
      · obtain rfl : k = n + 1 := by omega
        exact ⟨some b, fitting_eq_some.2 hfits, rfl⟩

/-! ### The outer loop -/

theorem isPacking_nil : IsPacking rt policy [] batches ↔ batches = [] := by
  constructor
  · intro h
    cases batches with
    | nil => rfl
    | cons b rest =>
      have hempty := h.whole
      obtain ⟨first, others, hb, -⟩ := (h.fits b (.head _)).made
      simp [hb] at hempty
  · rintro rfl
    exact ⟨rfl, nofun, nofun, fun before b after h => by simp at h⟩

/-- STEP: a packing is a batch of the first requests, as many as fit, and a packing of the rest. -/
theorem isPacking_cons (hpos : 1 ≤ policy.maximumBatchItems) :
    IsPacking rt policy (first :: others) batches ↔
      ∃ b rest, batches = b :: rest ∧
        (∃ k ≤ min (policy.maximumBatchItems - 1) others.length,
          (Made rt policy (first :: others.take k) b ∧ Fits rt policy b) ∧
          ∀ m, k < m → m ≤ min (policy.maximumBatchItems - 1) others.length →
            TooLong rt policy (first :: others.take m)) ∧
        IsPacking rt policy (others.drop (b.requests.length - 1)) rest := by
  constructor
  · intro h
    cases batches with
    | nil => cases h.whole
    | cons b rest =>
      have hfits := h.fits b (.head _)
      have hwhole : b.requests ++ rest.flatMap (·.requests) = first :: others := h.whole
      obtain ⟨f, os, hb, -⟩ := hfits.made
      have hsplit := hwhole
      rw [hb, List.cons_append, List.cons.injEq] at hsplit
      obtain ⟨rfl, hothers⟩ := hsplit
      have htake : others.take os.length = os := by rw [← hothers, List.take_left']; rfl
      have hdrop : others.drop os.length = rest.flatMap (·.requests) := by
        rw [← hothers, List.drop_left']
        rfl
      have hlength : b.requests.length = os.length + 1 := by rw [hb, List.length_cons]
      refine ⟨b, rest, rfl, ⟨os.length, ?_, ⟨?_, hfits⟩, fun m hm hle => ?_⟩, ?_⟩
      · have hfew := h.few b (.head _)
        have hle := congrArg List.length hothers
        rw [List.length_append] at hle
        omega
      · rw [htake, ← hb]
        exact hfits.made
      · have hlong := h.full [] b rest rfl (m + 1) (by omega) (by omega)
        rw [hwhole] at hlong
        exact hlong (by rw [List.length_cons]; omega)
      · rw [hlength, Nat.add_sub_cancel, hdrop]
        exact ⟨rfl, fun b' hb' => h.fits b' (.tail _ hb'), fun b' hb' => h.few b' (.tail _ hb'),
          fun before b' after hafter => h.full (b :: before) b' after (by rw [hafter]; rfl)⟩
  · rintro ⟨b, rest, rfl, ⟨k, hk, ⟨hmade, hfits⟩, hlong⟩, hrest⟩
    have hb := hmade.requests
    have htaken : (others.take k).length = k := List.length_take_of_le (by omega)
    have hlength : b.requests.length = k + 1 := by rw [hb, List.length_cons, htaken]
    rw [hlength, Nat.add_sub_cancel] at hrest
    have hwhole : b.requests ++ rest.flatMap (·.requests) = first :: others := by
      rw [hb, hrest.whole, List.cons_append, List.take_append_drop]
    refine ⟨hwhole, fun b' hb' => ?_, fun b' hb' => ?_, fun before b' after hafter => ?_⟩
    · rcases List.mem_cons.1 hb' with rfl | hb'
      · exact hfits
      · exact hrest.fits b' hb'
    · rcases List.mem_cons.1 hb' with rfl | hb'
      · omega
      · exact hrest.few b' hb'
    · cases before with
      | nil =>
        obtain ⟨rfl, rfl⟩ := List.cons.inj hafter
        intro n hn hitems hle
        rw [hwhole] at hle ⊢
        rw [List.length_cons] at hle
        obtain ⟨m, rfl⟩ : ∃ m, n = m + 1 := ⟨n - 1, by omega⟩
        exact hlong m (by omega) (by omega)
      | cons _ before =>
        obtain ⟨rfl, hsplit⟩ := List.cons.inj hafter
        exact hrest.full before b' after hsplit

/-- RUN: the loop makes the packing of a queue, and makes it in as many turns as there are
    requests. -/
theorem packFrom_eq_ok (hpos : 1 ≤ policy.maximumBatchItems) {turns : ℕ}
    (hturns : queue.length ≤ turns) :
    rt.packFrom policy turns queue = .ok batches ↔ IsPacking rt policy queue batches := by
  induction turns generalizing queue batches with
  | zero =>
    obtain rfl := List.length_eq_zero_iff.1 (Nat.le_zero.1 hturns)
    rw [isPacking_nil, AttentionRuntime.packFrom, pure_eq_ok, eq_comm]
  | succ turns ih =>
    cases queue with
    | nil => rw [isPacking_nil, AttentionRuntime.packFrom, pure_eq_ok, eq_comm]
    | cons first others =>
      have hrest (b : Batch) (rest : List Batch) :
          rt.packFrom policy turns (others.drop (b.requests.length - 1)) = .ok rest ↔
            IsPacking rt policy (others.drop (b.requests.length - 1)) rest := by
        refine ih ?_
        rw [List.length_cons] at hturns
        rw [List.length_drop]
        omega
      rw [isPacking_cons hpos]
      simp only [AttentionRuntime.packFrom, bind_eq_ok, pure_eq_ok, shrink_eq_ok, hrest]
      constructor
      · rintro ⟨b, hb, rest, hpacked, rfl⟩
        exact ⟨b, rest, rfl, hb, hpacked⟩
      · rintro ⟨b, rest, rfl, hb, hpacked⟩
        exact ⟨b, hb, rest, hpacked, rfl⟩

end

/-- EXACT: a plan is ready exactly when the queue is admitted, nobody is disturbed and nothing waits;
    its batches are then the one packing of the queue. -/
theorem planAttention_ready (rt : AttentionRuntime) (requests : List Request) (policy : Policy)
    (now : UnixMs) (batches : List Batch) (digest : String) :
    rt.planAttention requests policy now = .ok (.ready batches digest) ↔
      ∃ defined queue, (rt.defineAttentionPolicy policy.input = .ok defined ∧
          defined.policyDigest = policy.policyDigest) ∧ IsUnixMs now ∧
        ((∀ r ∈ requests, Genuine rt r) ∧
          Sorted.sortBy rt.inOrder (requests.map Request.trimmed) = queue ∧ Uniform defined queue) ∧
        ¬ Disturbs policy.input.windows now ∧
        (∃ first ∈ queue.head?, IsUnixMs (first.requestedAt + defined.maximumBatchWaitMs)) ∧
        ¬ Waits defined queue now ∧ IsPacking rt defined queue batches ∧
        digest = defined.policyDigest := by
  rw [planAttention_eq_ok]
  refine exists_congr fun defined => exists_congr fun queue => and_congr_right fun hdefined =>
    and_congr_right fun _ => ?_
  rw [queueOf_eq_ok]
  refine and_congr_right fun _ => ?_
  have hspec := hdefined.1
  simp only [AttentionRuntime.defineAttentionPolicy, bind_eq_ok, refuse_eq_ok, pure_eq_ok, not_not,
    exists_const] at hspec
  obtain ⟨hinput, policyDigest, -, hmade⟩ := hspec
  have hpos : 1 ≤ defined.maximumBatchItems := by
    rw [← hmade]
    exact hinput.2.1.1
  have hquiet := (activeEnd_answers policy.input now).eq_none_iff
  rw [show policy.input.definition = defined.toPolicyDefinition by rw [← hmade]] at hquiet
  rw [← hquiet]
  cases queue with
  | nil => simp [AttentionRuntime.planQueue]
  | cons first others =>
    simp only [AttentionRuntime.planQueue]
    cases activeDoNotDisturbEnd defined.toPolicyDefinition now with
    | some e => simp
    | none =>
      simp only [bind_eq_ok, refuse_eq_ok, exists_const, not_not, true_and, Waits, List.head?_cons,
        Option.mem_some_iff, exists_eq_left', Due]
      split_ifs with hwaits
      · refine iff_of_false ?_ fun h => h.2.1 hwaits
        rintro ⟨-, h⟩
        cases (pure_eq_ok _ _).1 h
      · rw [bind_eq_ok]
        simp only [pure_eq_ok, AttentionPlan.ready.injEq, hwaits, not_false_eq_true, true_and,
          AttentionRuntime.packBatches, packFrom_eq_ok hpos le_rfl]
        refine and_congr_right fun _ => ⟨?_, ?_⟩
        · rintro ⟨_, hpacked, rfl, rfl⟩
          exact ⟨hpacked, rfl⟩
        · rintro ⟨hpacked, rfl⟩
          exact ⟨batches, hpacked, rfl, rfl⟩

end Tasq.Attention
