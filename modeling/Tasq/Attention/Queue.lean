import Mathlib.Tactic
import Tasq.Attention.Plan

/-! The queue of a plan: the pending requests as their fields make them, in an order that depends on
    nothing but the requests. -/

namespace Tasq.Attention

open Text Outcome Json Custody Statements

/-- A request with its texts as the schema reads them. -/
def Request.trimmed (r : Request) : Request := { r with toInput := r.toInput.trim }

/-- The request is the one that its fields make. -/
structure Genuine (rt : AttentionRuntime) (r : Request) : Prop where
  input : IsInput r.toInput.trim
  contractVersion : r.contractVersion = requestContract
  kind : r.kind = inputRequiredKind
  payloadDigest : rt.digest (.obj (r.toInput.trim.fields requestContract inputRequiredKind)) =
    .ok r.payloadDigest
  requestId : ∃ identity, rt.hash r.toInput.trim.identity = .ok identity ∧
    r.requestId = "attention-request:" ++ identity

section

variable {rt : AttentionRuntime} {policy : Policy} {requests queue : List Request} {r r' : Request}

theorem checked_eq_ok : rt.checked r = .ok r' ↔ Genuine rt r ∧ r.trimmed = r' := by
  simp only [AttentionRuntime.checked, AttentionRuntime.createInputRequiredAttentionRequest,
    bind_eq_ok, refuse_eq_ok, pure_eq_ok, exists_const, not_not, not_or, ne_eq]
  constructor
  · rintro ⟨made, ⟨hinput, payloadDigest, hpayload, identity, hidentity, rfl⟩,
      ⟨hversion, hkind, hid, hdigest⟩, rfl⟩
    change r.contractVersion = requestContract at hversion
    change r.kind = inputRequiredKind at hkind
    change r.requestId = "attention-request:" ++ identity at hid
    change r.payloadDigest = payloadDigest at hdigest
    subst hdigest
    refine ⟨⟨hinput, hversion, hkind, hpayload, identity, hidentity, hid⟩, ?_⟩
    simp only [Request.trimmed, hversion, hkind, hid]
  · rintro ⟨⟨hinput, hversion, hkind, hpayload, identity, hidentity, hid⟩, rfl⟩
    refine ⟨_, ⟨hinput, r.payloadDigest, hpayload, identity, hidentity, rfl⟩,
      ⟨hversion, hkind, hid, rfl⟩, ?_⟩
    simp only [Request.trimmed, hversion, hkind, hid]

/-- One recipient of one workspace, and no request twice. -/
structure Uniform (policy : Policy) (queue : List Request) : Prop where
  recipient : ∀ r ∈ queue, r.recipientRef = policy.recipientRef
  workspace : ∀ r ∈ queue, ∀ r' ∈ queue, r.workspaceId = r'.workspaceId
  distinct : (queue.map (·.requestId)).Nodup

/-- What the checks of a queue ask, read off its first request. -/
theorem uniform_iff : Uniform policy queue ↔
    (¬ ∃ first ∈ queue.head?, first.recipientRef ≠ policy.recipientRef) ∧
    (¬ ∃ first ∈ queue.head?, ∃ r ∈ queue,
      r.workspaceId ≠ first.workspaceId ∨ r.recipientRef ≠ first.recipientRef) ∧
    (queue.map (·.requestId)).Nodup := by
  cases queue with
  | nil => simpa using ⟨nofun, nofun, List.nodup_nil⟩
  | cons first others =>
    simp only [List.head?_cons, Option.mem_some_iff, exists_eq_left', not_not, not_exists, not_and,
      not_or]
    constructor
    · rintro ⟨hrecipient, hworkspace, hdistinct⟩
      have hfirst := hrecipient first (.head _)
      exact ⟨hfirst, fun r hr => ⟨hworkspace r hr first (.head _),
        (hrecipient r hr).trans hfirst.symm⟩, hdistinct⟩
    · rintro ⟨hfirst, hsame, hdistinct⟩
      exact ⟨fun r hr => (hsame r hr).2.trans hfirst,
        fun r hr r' hr' => (hsame r hr).1.trans (hsame r' hr').1.symm, hdistinct⟩

/-- EXACT: which queues are admitted, and what they are. -/
theorem queueOf_eq_ok : rt.queueOf policy requests = .ok queue ↔
    (∀ r ∈ requests, Genuine rt r) ∧ Sorted.sortBy rt.inOrder (requests.map Request.trimmed) = queue ∧
      Uniform policy queue := by
  have hmap (regenerated : List Request) : requests.mapM rt.checked = .ok regenerated ↔
      (∀ r ∈ requests, Genuine rt r) ∧ requests.map Request.trimmed = regenerated :=
    mapM_eq_ok (fun _ _ _ => checked_eq_ok) regenerated
  simp only [AttentionRuntime.queueOf, bind_eq_ok, refuse_eq_ok, pure_eq_ok, exists_const, hmap]
  constructor
  · rintro ⟨regenerated, ⟨hgenuine, rfl⟩, hrecipient, hsame, hdistinct, rfl⟩
    exact ⟨hgenuine, rfl, uniform_iff.2 ⟨hrecipient, hsame, not_not.1 hdistinct⟩⟩
  · rintro ⟨hgenuine, rfl, huniform⟩
    obtain ⟨hrecipient, hsame, hdistinct⟩ := uniform_iff.1 huniform
    exact ⟨_, ⟨hgenuine, rfl⟩, hrecipient, hsame, not_not.2 hdistinct, rfl⟩

end

/-! ### The order of the requests -/

/-- What the collation of a runtime is known to do: it is an order, and it does not tie two texts of
    one prefix and hexadecimal digits. -/
structure Collates (rt : AttentionRuntime) : Prop where
  trans : Std.TransCmp rt.localeCompare
  requestId : ∀ x y : {s : String // matchesHex64 s = true},
    rt.localeCompare ("attention-request:" ++ x.1) ("attention-request:" ++ y.1) = .eq → x = y

section

variable {rt : AttentionRuntime} {policy : Policy} {requests others : List Request}

theorem hash_eq_ok {value : Json} {identity : String} (h : rt.hash value = .ok identity) :
    ∃ x : {s : String // matchesHex64 s = true}, x.1 = identity := by
  simp only [AttentionRuntime.hash, bind_eq_ok, refuse_eq_ok, pure_eq_ok, exists_const] at h
  exact ⟨_, h.2⟩

/-- Genuine requests that the queue cannot tell apart have one id. -/
theorem requestId_eq_of_tied (hrt : Collates rt) {a b : Request} (ha : Genuine rt a)
    (hb : Genuine rt b) (h : rt.inOrder a.trimmed b.trimmed = .eq) : a.requestId = b.requestId := by
  obtain ⟨x, hx, hax⟩ := ha.requestId
  obtain ⟨y, hy, hby⟩ := hb.requestId
  obtain ⟨x, rfl⟩ := hash_eq_ok hx
  obtain ⟨y, rfl⟩ := hash_eq_ok hy
  have hid : rt.localeCompare a.requestId b.requestId = .eq := by
    simp only [AttentionRuntime.inOrder, compareLex, Ordering.then_eq_eq, Sorted.byField,
      Request.trimmed] at h
    exact h.2.2
  rw [hax, hby] at hid ⊢
  rw [hrt.requestId x y hid]

/-- The queue of requests in another order is the same. -/
theorem queue_perm (hrt : Collates rt) (h : requests.Perm others)
    (hgenuine : ∀ r ∈ requests, Genuine rt r)
    (hdistinct : (requests.map (·.requestId)).Nodup) :
    Sorted.sortBy rt.inOrder (requests.map Request.trimmed) =
      Sorted.sortBy rt.inOrder (others.map Request.trimmed) := by
  have := hrt.trans
  have hcmp : Std.TransCmp rt.inOrder := by
    unfold AttentionRuntime.inOrder
    infer_instance
  refine List.Perm.eq_of_pairwise (fun a b ha hb hab hba => ?_) (Sorted.sortBy_pairwise _)
    (Sorted.sortBy_pairwise _)
    ((Sorted.sortBy_perm _).trans ((h.map _).trans (Sorted.sortBy_perm _).symm))
  obtain ⟨a, hmem, rfl⟩ := List.mem_map.1 ((Sorted.sortBy_perm _).mem_iff.1 ha)
  obtain ⟨b, hmem', rfl⟩ := List.mem_map.1 ((Sorted.sortBy_perm _).mem_iff.1 hb)
  have hmem' := h.mem_iff.2 hmem'
  have htie : rt.inOrder a.trimmed b.trimmed = .eq := by
    rcases hcase : rt.inOrder a.trimmed b.trimmed with _ | _ | _
    · exact absurd (Std.OrientedCmp.gt_iff_lt.2 hcase) hba
    · rfl
    · exact absurd hcase hab
  have hid := requestId_eq_of_tied hrt (hgenuine a hmem) (hgenuine b hmem') htie
  rw [List.inj_on_of_nodup_map hdistinct hmem hmem' hid]

/-- The admitted queue is known from the requests, in whatever order they come. -/
theorem queueOf_perm (hrt : Collates rt) (h : requests.Perm others) {queue : List Request}
    (hqueue : rt.queueOf policy requests = .ok queue) : rt.queueOf policy others = .ok queue := by
  obtain ⟨hgenuine, rfl, huniform⟩ := queueOf_eq_ok.1 hqueue
  have hdistinct : (requests.map (·.requestId)).Nodup := by
    have hperm := (@Sorted.sortBy_perm _ rt.inOrder (requests.map Request.trimmed)).map
      (·.requestId)
    simpa [Request.trimmed, Function.comp_def] using hperm.nodup_iff.1 huniform.distinct
  exact queueOf_eq_ok.2 ⟨fun r hr => hgenuine r (h.mem_iff.2 hr),
    (queue_perm hrt h hgenuine hdistinct).symm, huniform⟩

/-- What a plan comes from: the policy as it is defined anew, and the queue. -/
theorem planAttention_eq_ok {now : UnixMs} {plan : AttentionPlan} :
    rt.planAttention requests policy now = .ok plan ↔
      ∃ defined queue, (rt.defineAttentionPolicy policy.input = .ok defined ∧
        defined.policyDigest = policy.policyDigest) ∧ IsUnixMs now ∧
        rt.queueOf defined requests = .ok queue ∧ rt.planQueue defined now queue = .ok plan := by
  simp only [AttentionRuntime.planAttention, bind_eq_ok, refuse_eq_ok, exists_const, not_not, ne_eq]
  constructor
  · rintro ⟨defined, hdefined, hdigest, hnow, queue, hqueue, hplan⟩
    exact ⟨defined, queue, ⟨hdefined, hdigest⟩, hnow, hqueue, hplan⟩
  · rintro ⟨defined, queue, ⟨hdefined, hdigest⟩, hnow, hqueue, hplan⟩
    exact ⟨defined, hdefined, hdigest, hnow, queue, hqueue, hplan⟩

/-- INVARIANT: the order in which the pending requests are given changes no plan. -/
theorem planAttention_perm (hrt : Collates rt) (h : requests.Perm others) (policy : Policy)
    (now : UnixMs) (plan : AttentionPlan) : rt.planAttention requests policy now = .ok plan ↔
      rt.planAttention others policy now = .ok plan := by
  simp only [planAttention_eq_ok]
  constructor
  · rintro ⟨defined, queue, hpolicy, hnow, hqueue, hplan⟩
    exact ⟨defined, queue, hpolicy, hnow, queueOf_perm hrt h hqueue, hplan⟩
  · rintro ⟨defined, queue, hpolicy, hnow, hqueue, hplan⟩
    exact ⟨defined, queue, hpolicy, hnow, queueOf_perm hrt h.symm hqueue, hplan⟩

end

/-- A digit of a digest. -/
def hexDigit (n : Fin 16) : Char := Char.ofNat (if n.val < 10 then 0x30 + n.val else 0x57 + n.val)

theorem repeated_hex (n : Fin 16) :
    matchesHex64 (String.ofList (List.replicate 64 (hexDigit n))) = true := by
  rw [matchesHex64, String.toList_ofList]
  revert n
  decide +kernel

/-- A digest of one digit, which stands for the sum of the characters. -/
def plainHash (text : List Char) : {s : String // matchesHex64 s = true} :=
  ⟨_, repeated_hex (Fin.ofNat 16 (text.map Char.toNat).sum)⟩

/-- A runtime that compares texts by their code points. -/
def plainRuntime : AttentionRuntime where
  sha256Hex := plainHash
  localeCompare := compareOn fun text => text.toList.map Char.toNat

theorem plain_collates : Collates plainRuntime where
  trans := inferInstanceAs (Std.TransCmp (compareOn fun text : String => text.toList.map Char.toNat))
  requestId x y h := by
    change compare (("attention-request:" ++ x.1).toList.map Char.toNat)
      (("attention-request:" ++ y.1).toList.map Char.toNat) = .eq at h
    have hcodes := Std.LawfulEqCmp.eq_of_compare h
    have htext := List.map_injective_iff.2 (fun c d => Char.toNat_inj.1) hcodes
    rw [String.toList_append, String.toList_append, List.append_right_inj] at htext
    exact Subtype.ext (String.toList_inj.1 htext)

/-- What is asked by the event of a sequence number. -/
def plainInput (n : ℕ) : Input where
  workspaceId := "w"
  eventId := "e"
  eventSequence := n
  recipientRef := "r"
  commitmentId := "c"
  attemptId := "a"
  reasonCode := "q"
  summary := "s"
  decisionContextDigest := "sha256:" ++ (plainHash []).1
  requestedAt := 0
  respondBy := none

/-- The request that it makes. -/
def plainRequest (n : ℕ) : Request where
  toInput := plainInput n
  contractVersion := requestContract
  kind := inputRequiredKind
  requestId := "attention-request:" ++ (plainHash (serialize (plainInput n).identity)).1
  payloadDigest := "sha256:" ++
    (plainHash (serialize (.obj ((plainInput n).fields requestContract inputRequiredKind)))).1

/-- One recipient, with batches of three requests. -/
def plainDefinition : PolicyDefinition where
  recipientRef := "r"
  maximumBatchItems := 3
  maximumBatchWaitMs := 300000
  maximumBatchBytes := 65536
  doNotDisturbWindows := []

def plainPolicy : Policy where
  toPolicyDefinition := plainDefinition
  policyDigest := "sha256:" ++ (plainHash (serialize plainDefinition.json)).1

/-- Both requests wait for a third one, the first before the second. -/
def plainPlan : AttentionPlan :=
  .deferred .batchWindow [(plainRequest 1).requestId, (plainRequest 2).requestId] 300000
    plainPolicy.policyDigest

theorem planAttention_perm_plain :
    plainRuntime.planAttention [plainRequest 2, plainRequest 1] plainPolicy 0 = .ok plainPlan ∧
      plainRuntime.planAttention [plainRequest 1, plainRequest 2] plainPolicy 0 = .ok plainPlan := by
  have hplan : plainRuntime.planAttention [plainRequest 2, plainRequest 1] plainPolicy 0 =
      .ok plainPlan := by
    decide +kernel
  exact ⟨hplan, (planAttention_perm plain_collates (.swap _ _ _) plainPolicy 0 _).1 hplan⟩

/-! ### Coming back -/

/-- Whoever comes back at the instant that a deferred plan names, `n` times at most. -/
def AttentionRuntime.follow (rt : AttentionRuntime) (requests : List Request) (policy : Policy) :
    ℕ → UnixMs → Call AttentionPlan
  | 0, now => rt.planAttention requests policy now
  | n + 1, now => do
    match ← rt.planAttention requests policy now with
    | .deferred _ _ next _ => AttentionRuntime.follow rt requests policy n next
    | plan => pure plan

section

variable {rt : AttentionRuntime} {policy defined : Policy} {requests queue : List Request}
  {now t next : UnixMs} {n : ℕ}

/-- Coming back has led to a plan that is not put off, and never too late. -/
def Arrives (rt : AttentionRuntime) (requests : List Request) (policy : Policy) (n : ℕ)
    (now : UnixMs) : Prop :=
  ∃ t, now ≤ t ∧ rt.follow requests policy n now = rt.planAttention requests policy t ∧
    ¬ Deferred (rt.planAttention requests policy t) ∧
    ∀ t', now ≤ t' → t' < t → Deferred (rt.planAttention requests policy t') ∨ Due requests t'

theorem Arrives.here (h : ¬ Deferred (rt.planAttention requests policy now)) :
    Arrives rt requests policy n now := by
  refine ⟨now, le_rfl, ?_, h, fun t' hle hlt => absurd hle (not_le.2 hlt)⟩
  cases n with
  | zero => rfl
  | succ n =>
    unfold AttentionRuntime.follow
    cases hplan : rt.planAttention requests policy now with
    | error e => rfl
    | ok plan =>
      cases plan with
      | deferred reason ids next digest => exact absurd ⟨reason, ids, next, digest, hplan⟩ h
      | empty => rfl
      | ready batches digest => rfl

/-- STEP: one more plan that is put off, and not for too long. -/
theorem Arrives.after {reason : DeferralReason} {ids : List String} {digest : String}
    (hplan : rt.planAttention requests policy now = .ok (.deferred reason ids next digest))
    (hlater : now ≤ next)
    (hbetween : ∀ t', now ≤ t' → t' < next →
      Deferred (rt.planAttention requests policy t') ∨ Due requests t')
    (h : Arrives rt requests policy n next) : Arrives rt requests policy (n + 1) now := by
  obtain ⟨t, ht, hfollow, hend, hwait⟩ := h
  refine ⟨t, hlater.trans ht, ?_, hend, fun t' hle hlt => ?_⟩
  · rw [AttentionRuntime.follow, hplan, ok_bind]
    exact hfollow
  · rcases Nat.lt_or_ge t' next with hbefore | hafter
    · exact hbetween t' hle hbefore
    · exact hwait t' hafter hlt

theorem due_queue (hqueue : rt.queueOf defined requests = .ok queue) :
    Due queue t ↔ Due requests t := by
  obtain ⟨-, rfl, -⟩ := queueOf_eq_ok.1 hqueue
  simp only [Due, (Sorted.sortBy_perm _).mem_iff, List.mem_map, exists_exists_and_eq_and,
    Request.trimmed, Input.trim]

/-- What the plans of one policy and one queue have in common. -/
structure Situation (rt : AttentionRuntime) (requests : List Request) (policy defined : Policy)
    (queue : List Request) : Prop where
  plan : ∀ t, IsUnixMs t →
    rt.planAttention requests policy t = rt.planQueue defined t queue
  quiet : ∀ t, Answers t policy.input.windows
    (activeDoNotDisturbEnd defined.toPolicyDefinition t)
  safe : ∀ t e, activeDoNotDisturbEnd defined.toPolicyDefinition t = some e → IsUnixMs e
  due : ∀ t, Due queue t ↔ Due requests t

theorem situation_of_ok {plan : AttentionPlan}
    (h : rt.planAttention requests policy now = .ok plan) :
    IsUnixMs now ∧ ∃ defined queue, Situation rt requests policy defined queue := by
  obtain ⟨defined, queue, ⟨hdefined, hdigest⟩, hnow, hqueue, -⟩ := planAttention_eq_ok.1 h
  have hspec := hdefined
  simp only [AttentionRuntime.defineAttentionPolicy, bind_eq_ok, refuse_eq_ok, pure_eq_ok, not_not,
    exists_const] at hspec
  obtain ⟨hinput, digest, -, hmade⟩ := hspec
  have hquiet (t : UnixMs) : Answers t policy.input.windows
      (activeDoNotDisturbEnd defined.toPolicyDefinition t) := by
    rw [← hmade]
    exact activeEnd_answers policy.input t
  refine ⟨hnow, defined, queue, fun t ht => ?_, hquiet, fun t e he => ?_, fun t => due_queue hqueue⟩
  · rw [AttentionRuntime.planAttention, hdefined, ok_bind, refuse_of_not _ (not_not.2 hdigest),
      ok_bind, refuse_of_not _ (not_not.2 ht), ok_bind, hqueue, ok_bind]
  · obtain ⟨w, hw, hle⟩ := (he ▸ hquiet t).le_end
    obtain ⟨-, -, -, -, -, hwindows⟩ := hinput
    exact hle.trans (hwindows w.trim (List.mem_map.2 ⟨w, hw, rfl⟩)).2.1

namespace Situation

variable (h : Situation rt requests policy defined queue)

include h

/-- Nobody is disturbed at the instant that a plan names for that reason, nor before it. -/
theorem doNotDisturb {ids : List String} {digest : String}
    (hplan : rt.planQueue defined now queue = .ok (.deferred .doNotDisturb ids next digest)) :
    now < next ∧ IsUnixMs next ∧ activeDoNotDisturbEnd defined.toPolicyDefinition next = none ∧
      ∀ t, now ≤ t → t < next →
        rt.planQueue defined t queue = .ok (.deferred .doNotDisturb ids next digest) := by
  obtain ⟨hqueue, hend, hids, hdigest⟩ := planQueue_doNotDisturb.1 hplan
  have hanswer : Answers now policy.input.windows (some next) := hend ▸ h.quiet now
  refine ⟨hanswer.1, h.safe now next hend, (h.quiet next).eq_none_iff.2 hanswer.2.2,
    fun t ht hlt => planQueue_doNotDisturb.2 ⟨hqueue, ?_, hids, hdigest⟩⟩
  exact ((h.quiet t).eq_some_iff next).2 (((hanswer.later ht hlt).eq_some_iff next).1 rfl)

/-- A plan that waits for its batch window is put off until then, unless a request falls due. -/
theorem batchWindow {ids : List String} {digest : String}
    (hplan : rt.planQueue defined now queue = .ok (.deferred .batchWindow ids next digest)) :
    now < next ∧ IsUnixMs next ∧ (∀ t, next ≤ t → ¬ Waits defined queue t) ∧
      ∀ t, now ≤ t → t < next → Deferred (rt.planQueue defined t queue) ∨ Due requests t := by
  obtain ⟨-, ⟨first, hfirst, hfew, hopen, -⟩, hsafe, ⟨first', hfirst', rfl⟩, hids, hdigest⟩ :=
    planQueue_batchWindow.1 hplan
  obtain rfl : first = first' := Option.mem_unique hfirst hfirst'
  refine ⟨hopen, hsafe, fun t ht => ?_, fun t ht hlt => ?_⟩
  · rintro ⟨first', hfirst', -, hopen', -⟩
    obtain rfl : first = first' := Option.mem_unique hfirst hfirst'
    exact absurd hopen' (not_lt.2 ht)
  · rw [← h.due t, or_iff_not_imp_right]
    intro hdue
    cases hend : activeDoNotDisturbEnd defined.toPolicyDefinition t with
    | none => exact ⟨_, _, _, _, planQueue_batchWindow.2
        ⟨hend, ⟨first, hfirst, hfew, hlt, hdue⟩, hsafe, ⟨first, hfirst, rfl⟩, hids, hdigest⟩⟩
    | some e =>
      have hqueue : queue ≠ [] := by
        rintro rfl
        cases hfirst
      exact ⟨_, _, _, _, planQueue_doNotDisturb.2 ⟨hqueue, hend, rfl, rfl⟩⟩

/-- Once the batch window is over, one instant is enough. -/
theorem arrives_late (hnow : IsUnixMs now) (hlate : ∀ t, now ≤ t → ¬ Waits defined queue t) :
    Arrives rt requests policy (n + 1) now := by
  by_cases hdeferred : Deferred (rt.planAttention requests policy now)
  · obtain ⟨reason, ids, next, digest, hplan⟩ := hdeferred
    have hqueue := h.plan now hnow ▸ hplan
    cases reason with
    | batchWindow => exact absurd (planQueue_batchWindow.1 hqueue).2.1 (hlate now le_rfl)
    | doNotDisturb =>
      obtain ⟨hlater, hsafe, hend, hbetween⟩ := h.doNotDisturb hqueue
      refine .after hplan hlater.le (fun t ht hlt => .inl ?_) (.here ?_)
      · exact ⟨_, _, _, _, (h.plan t (hlt.le.trans hsafe)).trans (hbetween t ht hlt)⟩
      · rintro ⟨reason, ids', next', digest', hagain⟩
        rw [h.plan next hsafe] at hagain
        cases reason with
        | batchWindow => exact hlate next hlater.le (planQueue_batchWindow.1 hagain).2.1
        | doNotDisturb =>
          have hagain := (planQueue_doNotDisturb.1 hagain).2.1
          rw [hend] at hagain
          cases hagain
  · exact .here hdeferred

/-- While nobody is disturbed, two instants are enough. -/
theorem arrives_quiet (hnow : IsUnixMs now)
    (hquiet : activeDoNotDisturbEnd defined.toPolicyDefinition now = none) :
    Arrives rt requests policy (n + 2) now := by
  by_cases hdeferred : Deferred (rt.planAttention requests policy now)
  · obtain ⟨reason, ids, next, digest, hplan⟩ := hdeferred
    have hqueue := h.plan now hnow ▸ hplan
    cases reason with
    | batchWindow =>
      obtain ⟨hlater, hsafe, hlate, hbetween⟩ := h.batchWindow hqueue
      refine .after hplan hlater.le (fun t ht hlt => ?_) (h.arrives_late hsafe hlate)
      rw [h.plan t (hlt.le.trans hsafe)]
      exact hbetween t ht hlt
    | doNotDisturb =>
      have hend := (planQueue_doNotDisturb.1 hqueue).2.1
      rw [hquiet] at hend
      cases hend
  · exact .here hdeferred

theorem arrives (hnow : IsUnixMs now) : Arrives rt requests policy 3 now := by
  by_cases hdeferred : Deferred (rt.planAttention requests policy now)
  · obtain ⟨reason, ids, next, digest, hplan⟩ := hdeferred
    have hqueue := h.plan now hnow ▸ hplan
    cases reason with
    | batchWindow =>
      exact h.arrives_quiet hnow (planQueue_batchWindow.1 hqueue).1
    | doNotDisturb =>
      obtain ⟨hlater, hsafe, hend, hbetween⟩ := h.doNotDisturb hqueue
      refine .after hplan hlater.le (fun t ht hlt => .inl ?_) (h.arrives_quiet hsafe hend)
      exact ⟨_, _, _, _, (h.plan t (hlt.le.trans hsafe)).trans (hbetween t ht hlt)⟩
  · exact .here hdeferred

end Situation

/-- RUN: whoever comes back at the instants that the plans name comes to a plan that is not put off
    after three of them at most, and never lets an instant pass at which the plan would not have been
    put off and no request was due. -/
theorem follow_three (rt : AttentionRuntime) (requests : List Request) (policy : Policy)
    (now : UnixMs) : ∃ t, now ≤ t ∧
      rt.follow requests policy 3 now = rt.planAttention requests policy t ∧
      ¬ Deferred (rt.planAttention requests policy t) ∧
      ∀ t', now ≤ t' → t' < t →
        Deferred (rt.planAttention requests policy t') ∨ Due requests t' := by
  by_cases hdeferred : Deferred (rt.planAttention requests policy now)
  · obtain ⟨reason, ids, next, digest, hplan⟩ := hdeferred
    obtain ⟨hnow, defined, queue, hsituation⟩ := situation_of_ok hplan
    exact hsituation.arrives hnow
  · exact Arrives.here hdeferred

end

end Tasq.Attention
