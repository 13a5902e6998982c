import Mathlib.Tactic
import Tasq.Lib.Run
import Tasq.Work.Attempts

/-! What the ledger refused: a claim acquisition that is turned away because another holds the
    commitment, or because blockers have not resolved, is counted under the standoff that it is.

    The count is written with the handle that the acquisition was given. On a handle of its own that
    is after the rollback of the refused transaction; inside a journey it is the transaction of the
    journey, whose rollback takes the count away too. -/

namespace Tasq

open Text Outcome Run

/-- `ContentionKind` -/
inductive ContentionKind where
  | claimHeldByAnother | claimBlockedByUnresolved | completeNotHolder | completeWithoutEvidence
  deriving DecidableEq, Repr

/-- A refused acquisition is of this kind. -/
def ContentionKind.ofClaim : ContentionKind → Bool
  | .claimHeldByAnother | .claimBlockedByUnresolved => true
  | _ => false

/-- The primary key of `contention`, in one workspace. -/
structure Standoff where
  commitmentId : UuidV7
  kind : ContentionKind
  requestedByPrincipalId : String
  holderPrincipalId : String
  deriving DecidableEq

/-- `ContentionFacts` -/
structure ContentionFacts extends Standoff where
  requestedByLabel : String
  holderLabel : String
  deriving DecidableEq

/-- A row of `contention`. -/
structure Contention where
  requestedByLabel : String
  holderLabel : String
  firstAt : UnixMs
  lastAt : UnixMs
  attempts : ℕ
  deriving DecidableEq

/-- `recordContention`. The table checks `last_at >= first_at`, and a write that fails is only
    reported. -/
def recordContention (rows : Standoff → Option Contention) (facts : ContentionFacts)
    (now : UnixMs) : Standoff → Option Contention :=
  match rows facts.toStandoff with
  | none =>
    Function.update rows facts.toStandoff
      (some ⟨facts.requestedByLabel, facts.holderLabel, now, now, 1⟩)
  | some row =>
    if row.firstAt ≤ now then
      Function.update rows facts.toStandoff
        (some { row with lastAt := now, attempts := row.attempts + 1 })
    else rows

/-- What a call throws. A `ContentionError` carries its facts. -/
structure Thrown where
  failure : Failure
  facts : Option ContentionFacts

/-- The work of a workspace and what it refused. -/
structure ClaimStore where
  work : WorkStore
  contention : Standoff → Option Contention

namespace EffectStore

variable (s : EffectStore) (rt : EffectRuntime)

/-- The facts of the `ContentionError` that an acquisition throws, when it comes to throw one. -/
def acquisitionContention (taskId : UuidV7) (options : AcquireClaimOptions)
    (ctx : PrincipalContext) : Call (Option ContentionFacts) := do
  let actor := ctx.actor.getD "system"
  let leaseMs ← validateLeaseMs options.leaseMs
  refuse (Json.maxSafeInteger < ctx.now + leaseMs) (.error "Lease expiry exceeds unix-ms range")
  let (s, prior, _) ← s.retryResult rt ctx .claimAcquire
    (.acquire taskId actor ctx.principalId leaseMs options.metadata)
    (some defaultIdempotencyRetentionMs)
  match prior with
  | some _ => pure none
  | none => do
    let linkedTask ← s.requireLiveTask taskId
    let (s, caller) ← s.contextPrincipal rt ctx
    refuse (linkedTask.status = .done ∨ linkedTask.status = .cancelled)
      (.error s!"Cannot claim terminal task {taskId}")
    passGate options.gates.premise
    passGate options.gates.paused
    match (if options.force then none else options.gates.blockers) with
    | some _ => pure (some ⟨⟨taskId, .claimBlockedByUnresolved, caller.id, ""⟩, actor, ""⟩)
    | none => do
      let current ← s.currentClaim taskId
      refuse (∃ c ∈ current, ctx.now < c.2.heartbeatAt) (.error "Claim clock moved backwards")
      match current.filter fun c => ctx.now < c.2.expiresAt ∧ HeldByAnother c.2 caller actor with
      | some c => pure (some ⟨⟨taskId, .claimHeldByAnother, caller.id,
          c.2.principalId.getD ""⟩, actor, c.2.actor⟩)
      | none => pure none

end EffectStore

namespace ClaimStore

variable (s : ClaimStore) (rt : WorkRuntime)

/-- The counter of a standoff. -/
def attempts (k : Standoff) : ℕ := ((s.contention k).map (·.attempts)).getD 0

/-! ### Transactions and entries -/

/-- `runInTransaction`: on the handle of a transaction the work is a part of it, on another handle a
    refusal rolls back. -/
def runInTransaction {α : Type} (nested : Bool)
    (work : ClaimStore → ClaimStore × Except Thrown α) : ClaimStore × Except Thrown α :=
  match work s with
  | (s', .ok a) => (s', .ok a)
  | (s', .error e) => (if nested then s' else s, .error e)

/-- `withContentionRecorded` -/
def withContentionRecorded {α : Type} (now : UnixMs) (r : ClaimStore × Except Thrown α) :
    ClaimStore × Except Thrown α :=
  match r with
  | (s, .ok a) => (s, .ok a)
  | (s, .error e) =>
    match e.facts with
    | none => (s, .error e)
    | some facts =>
      ({ s with contention := recordContention s.contention facts now }, .error e)

/-- The transaction of `acquireTaskClaim`. -/
def performAcquire (taskId : UuidV7) (options : AcquireClaimOptions) (ctx : PrincipalContext)
    (freshId : UuidV7) : ClaimStore × Except Thrown LeasedClaim :=
  match s.work.view.acquireTaskClaim rt.toEffectRuntime taskId options ctx freshId with
  | .ok (e, c) => ({ s with work := s.work.adopt e }, .ok c)
  | .error failure =>
    (s, .error ⟨failure, (s.work.view.acquisitionContention rt.toEffectRuntime taskId options
      ctx).toOption.join⟩)

/-- `acquireTaskClaim`, on a handle of its own or on that of a transaction. -/
def acquireTaskClaim (nested : Bool) (taskId : UuidV7) (options : AcquireClaimOptions)
    (ctx : PrincipalContext) (freshId : UuidV7) : ClaimStore × Except Thrown LeasedClaim :=
  withContentionRecorded ctx.now
    (s.runInTransaction nested fun s => s.performAcquire rt taskId options ctx freshId)

/-- The id of a claim: its task and fence have it alone. -/
def claimId (c : LeasedClaim) : Option UuidV7 :=
  ((Table.rows s.work.claims fun _ r => r.taskId = c.taskId && r.fence = c.fence).head?).map
    Prod.fst

end ClaimStore

/-- The input of `journeys.claimAndStart`, with what the gates of the acquisition say. -/
structure ClaimAndStartInput where
  commitmentId : UuidV7
  idempotencyKey : String
  leaseMs : Option ℕ
  claimMetadata : Metadata
  runtime : Option String
  externalId : Option String
  contextId : Option String
  attemptMetadata : Metadata
  gates : ClaimGates

namespace ClaimStore

variable (s : ClaimStore) (rt : WorkRuntime)

/-- `journeys.claimAndStart`. The client acts as one principal. -/
def claimAndStart (input : ClaimAndStartInput) (actor principalId : String) (now : UnixMs)
    (claimFreshId attemptFreshId : UuidV7) :
    ClaimStore × Except Thrown (LeasedClaim × AttemptRow) :=
  let idempotencyKey := jsTrim input.idempotencyKey
  if idempotencyKey = "" then
    (s, .error ⟨.error "claimAndStart requires an idempotencyKey", none⟩)
  else
    s.runInTransaction false fun s =>
      match s.acquireTaskClaim rt true input.commitmentId
          ⟨input.leaseMs, input.claimMetadata, false, none, input.gates⟩
          ⟨some actor, some principalId, some (idempotencyKey ++ ":claim"), now⟩ claimFreshId with
      | (s, .error e) => (s, .error e)
      | (s, .ok claim) =>
        match s.work.startTaskAttempt rt input.commitmentId
            { occurredAt := none
              claimId := s.claimId claim
              runtime := input.runtime
              externalId := input.externalId
              contextId := input.contextId
              metadata := input.attemptMetadata }
            ⟨some actor, some principalId, some (idempotencyKey ++ ":attempt"), now⟩
            attemptFreshId with
        | .error failure => (s, .error ⟨failure, none⟩)
        | .ok (work, attempt) => ({ s with work := work }, .ok (claim, attempt))

end ClaimStore

/-- A claim acquisition, by the entry that it is made through. -/
inductive AcquireEntry where
  | acquire (taskId : UuidV7) (options : AcquireClaimOptions) (ctx : PrincipalContext)
      (freshId : UuidV7)
  | claimAndStart (input : ClaimAndStartInput) (actor principalId : String) (now : UnixMs)
      (claimFreshId attemptFreshId : UuidV7)

/-- The acquisition runs on a handle of its own. -/
def AcquireEntry.OwnHandle : AcquireEntry → Prop
  | .acquire _ _ _ _ => True
  | .claimAndStart _ _ _ _ _ _ => False

instance (entry : AcquireEntry) : Decidable entry.OwnHandle := by
  cases entry <;> unfold AcquireEntry.OwnHandle <;> infer_instance

/-- The instant of the acquisition. -/
def AcquireEntry.now : AcquireEntry → UnixMs
  | .acquire _ _ ctx _ => ctx.now
  | .claimAndStart _ _ _ now _ _ => now

/-- What happens next. Elsewhere the work changes in any way, and so may the standoffs that are not
    about acquisitions. -/
inductive ClaimAction where
  | enter (entry : AcquireEntry)
  | elsewhere (work : WorkStore) (contention : Standoff → Option Contention)

namespace ClaimStore

variable (s : ClaimStore) (rt : WorkRuntime)

/-- The store after an acquisition, and what it threw. -/
def enter (entry : AcquireEntry) : ClaimStore × Option Thrown :=
  match entry with
  | .acquire taskId options ctx freshId =>
    match s.acquireTaskClaim rt false taskId options ctx freshId with
    | (s, .ok _) => (s, none)
    | (s, .error e) => (s, some e)
  | .claimAndStart input actor principalId now claimFreshId attemptFreshId =>
    match s.claimAndStart rt input actor principalId now claimFreshId attemptFreshId with
    | (s, .ok _) => (s, none)
    | (s, .error e) => (s, some e)

/-- One action. -/
def step (s : ClaimStore) : ClaimAction → ClaimStore
  | .enter entry => (s.enter rt entry).1
  | .elsewhere work contention =>
    ⟨work, fun k => if k.kind.ofClaim then s.contention k else contention k⟩

/-- The standoff of a refusal. -/
def refusal (entry : AcquireEntry) : Option Standoff :=
  ((s.enter rt entry).2.bind (·.facts)).map (·.toStandoff)

/-- The refusals of an action. -/
def refusals (s : ClaimStore) : ClaimAction → List Standoff
  | .enter entry => (s.refusal rt entry).toList
  | .elsewhere _ _ => []

/-- The counter of the standoff is one higher, and nothing else is different. -/
structure Counted (s s' : ClaimStore) (k : Standoff) : Prop where
  work : s'.work = s.work
  counter : s'.attempts k = s.attempts k + 1
  others : ∀ k', k' ≠ k → s'.contention k' = s.contention k'

/-- The count of a refusal stays: it is written on a handle of its own, and not at an instant before
    the first refusal of the standoff. -/
def Stays (entry : AcquireEntry) (k : Standoff) : Prop :=
  entry.OwnHandle ∧ ∀ row ∈ s.contention k, row.firstAt ≤ entry.now

instance (entry : AcquireEntry) (k : Standoff) : Decidable (s.Stays entry k) := by
  unfold Stays; infer_instance

/-- Every refusal of the action stays counted. -/
def Tallies (s : ClaimStore) : ClaimAction → Prop
  | .enter entry => ∀ k ∈ s.refusal rt entry, s.Stays entry k
  | .elsewhere _ _ => True

instance : DecidablePred (s.Tallies rt)
  | .enter entry => inferInstanceAs (Decidable (∀ k ∈ s.refusal rt entry, s.Stays entry k))
  | .elsewhere _ _ => isTrue trivial

/-- A workspace that has refused nothing yet. -/
def opened (work : WorkStore) : ClaimStore := ⟨work, fun _ => none⟩

end ClaimStore

/-! ### What is written -/

theorem recordContention_other {rows : Standoff → Option Contention} {facts : ContentionFacts}
    {now : UnixMs} {k : Standoff} (hk : k ≠ facts.toStandoff) :
    recordContention rows facts now k = rows k := by
  cases hrow : rows facts.toStandoff with
  | none => simp [recordContention, hrow, Function.update_of_ne hk]
  | some row =>
    simp only [recordContention, hrow]
    split
    · exact Function.update_of_ne hk _ _
    · rfl

namespace ClaimStore

variable {s s' : ClaimStore} {rt : WorkRuntime} {e : Thrown} {facts : ContentionFacts}

/-- A count is one higher exactly when the instant is not before the first refusal. -/
theorem attempts_recordContention (s : ClaimStore) (facts : ContentionFacts) (now : UnixMs) :
    attempts { s with contention := recordContention s.contention facts now } facts.toStandoff =
        s.attempts facts.toStandoff + 1 ↔
      ∀ row ∈ s.contention facts.toStandoff, row.firstAt ≤ now := by
  cases hrow : s.contention facts.toStandoff with
  | none => simp [attempts, recordContention, hrow]
  | some row =>
    by_cases hnow : row.firstAt ≤ now
    · simp [attempts, recordContention, hrow, hnow]
    · simp [attempts, recordContention, hrow, hnow]

/-- A count on a handle of its own is the only change. -/
theorem counted_record_iff (s : ClaimStore) (facts : ContentionFacts) (now : UnixMs) :
    s.Counted { s with contention := recordContention s.contention facts now }
        facts.toStandoff ↔
      ∀ row ∈ s.contention facts.toStandoff, row.firstAt ≤ now := by
  rw [← attempts_recordContention]
  exact ⟨fun h => h.counter, fun h => ⟨rfl, h, fun k hk => recordContention_other hk⟩⟩

/-- What changes nothing does not count. -/
theorem not_counted_self (s : ClaimStore) (k : Standoff) : ¬ s.Counted s k := by
  intro h
  have := h.counter
  omega

/-! ### What an acquisition does -/

theorem performAcquire_error {taskId freshId : UuidV7} {options : AcquireClaimOptions}
    {ctx : PrincipalContext} (h : s.performAcquire rt taskId options ctx freshId = (s', .error e)) :
    s' = s := by
  unfold performAcquire at h
  split at h
  · simp at h
  · simp only [Prod.mk.injEq] at h
    exact h.1.symm

theorem performAcquire_ok {taskId freshId : UuidV7} {options : AcquireClaimOptions}
    {ctx : PrincipalContext} {c : LeasedClaim}
    (h : s.performAcquire rt taskId options ctx freshId = (s', .ok c)) :
    s'.contention = s.contention := by
  unfold performAcquire at h
  split at h
  · simp only [Prod.mk.injEq] at h
    rw [← h.1]
  · simp at h

/-- ACQUIRE: a refused acquisition leaves the count alone, or nothing. -/
theorem acquireTaskClaim_error {nested : Bool} {taskId freshId : UuidV7}
    {options : AcquireClaimOptions} {ctx : PrincipalContext}
    (h : s.acquireTaskClaim rt nested taskId options ctx freshId = (s', .error e)) :
    s' = match e.facts with
      | none => s
      | some facts => { s with contention := recordContention s.contention facts ctx.now } := by
  unfold acquireTaskClaim runInTransaction at h
  cases hperform : s.performAcquire rt taskId options ctx freshId with
  | mk s₁ r =>
    beta_reduce at h
    rw [hperform] at h
    cases r with
    | ok c => simp [withContentionRecorded] at h
    | error e' =>
      obtain rfl := performAcquire_error hperform
      simp only [withContentionRecorded, ite_self] at h
      split at h
      · rename_i hfacts
        simp only [Prod.mk.injEq, Except.error.injEq] at h
        obtain ⟨rfl, rfl⟩ := h
        rw [hfacts]
      · rename_i facts hfacts
        simp only [Prod.mk.injEq, Except.error.injEq] at h
        obtain ⟨rfl, rfl⟩ := h
        rw [hfacts]

theorem acquireTaskClaim_ok {nested : Bool} {taskId freshId : UuidV7}
    {options : AcquireClaimOptions} {ctx : PrincipalContext} {c : LeasedClaim}
    (h : s.acquireTaskClaim rt nested taskId options ctx freshId = (s', .ok c)) :
    s'.contention = s.contention := by
  unfold acquireTaskClaim runInTransaction at h
  cases hperform : s.performAcquire rt taskId options ctx freshId with
  | mk s₁ r =>
    beta_reduce at h
    rw [hperform] at h
    cases r with
    | ok c =>
      simp only [withContentionRecorded, Prod.mk.injEq] at h
      rw [← h.1, performAcquire_ok hperform]
    | error e' =>
      simp only [withContentionRecorded] at h
      split at h <;> simp at h

/-- JOURNEY: a refused journey leaves nothing, not even the count. -/
theorem claimAndStart_error {input : ClaimAndStartInput} {actor principalId : String} {now : UnixMs}
    {claimFreshId attemptFreshId : UuidV7}
    (h : s.claimAndStart rt input actor principalId now claimFreshId attemptFreshId =
      (s', .error e)) : s' = s := by
  unfold claimAndStart at h
  dsimp only at h
  split at h
  · simp only [Prod.mk.injEq] at h
    exact h.1.symm
  · unfold runInTransaction at h
    split at h
    · simp at h
    · simp only [Bool.false_eq_true, if_false, Prod.mk.injEq] at h
      exact h.1.symm

theorem claimAndStart_ok {input : ClaimAndStartInput} {actor principalId : String} {now : UnixMs}
    {claimFreshId attemptFreshId : UuidV7} {r : LeasedClaim × AttemptRow}
    (h : s.claimAndStart rt input actor principalId now claimFreshId attemptFreshId = (s', .ok r)) :
    s'.contention = s.contention := by
  unfold claimAndStart at h
  dsimp only at h
  split at h
  · simp at h
  · unfold runInTransaction at h
    split at h
    · rename_i s₁ a hwork
      simp only [Prod.mk.injEq] at h
      rw [← h.1]
      beta_reduce at hwork
      split at hwork
      · simp at hwork
      · rename_i s₂ claim hacquire
        split at hwork
        · simp at hwork
        · simp only [Prod.mk.injEq] at hwork
          rw [← hwork.1]
          change s₂.contention = s.contention
          exact acquireTaskClaim_ok hacquire
    · simp at h

/-- EXACT: a refusal is counted, and leaves nothing else, exactly when its count stays. -/
theorem enter_counted_iff {entry : AcquireEntry} (h : s.enter rt entry = (s', some e))
    (hfacts : e.facts = some facts) :
    s.Counted s' facts.toStandoff ↔ s.Stays entry facts.toStandoff := by
  cases entry with
  | acquire taskId options ctx freshId =>
    simp only [enter] at h
    split at h
    · simp at h
    · rename_i s₁ e' hacquire
      simp only [Prod.mk.injEq, Option.some.injEq] at h
      obtain ⟨rfl, rfl⟩ := h
      have hleft := acquireTaskClaim_error hacquire
      rw [hfacts] at hleft
      rw [hleft, counted_record_iff]
      simp [Stays, AcquireEntry.OwnHandle, AcquireEntry.now]
  | claimAndStart input actor principalId now claimFreshId attemptFreshId =>
    simp only [enter] at h
    split at h
    · simp at h
    · rename_i s₁ e' hjourney
      simp only [Prod.mk.injEq, Option.some.injEq] at h
      obtain ⟨rfl, rfl⟩ := h
      rw [claimAndStart_error hjourney]
      simp [Stays, AcquireEntry.OwnHandle, not_counted_self]

/-- Without a refusal that is counted, the counters stay. -/
theorem enter_uncounted {entry : AcquireEntry} (h : s.refusal rt entry = none) :
    (s.enter rt entry).1.contention = s.contention := by
  cases entry with
  | acquire taskId options ctx freshId =>
    simp only [refusal, enter] at h ⊢
    split
    · rename_i s₁ c hacquire
      exact acquireTaskClaim_ok hacquire
    · rename_i s₁ e hacquire
      rw [hacquire] at h
      have hnone : e.facts = none := by simpa using h
      rw [acquireTaskClaim_error hacquire, hnone]
  | claimAndStart input actor principalId now claimFreshId attemptFreshId =>
    simp only [enter]
    split
    · rename_i s₁ r hjourney
      exact claimAndStart_ok hjourney
    · rename_i s₁ e hjourney
      rw [claimAndStart_error hjourney]

theorem attempts_congr (h : s'.contention = s.contention) (k : Standoff) :
    s'.attempts k = s.attempts k := by
  rw [attempts, h, attempts]

/-- STEP: a counter grows by the refusals of its standoff. -/
theorem attempts_step {a : ClaimAction} (hmeets : s.Tallies rt a) {k : Standoff}
    (hk : k.kind.ofClaim = true) :
    (s.step rt a).attempts k = s.attempts k + (s.refusals rt a).count k := by
  cases a with
  | elsewhere work contention => simp [step, refusals, attempts, hk]
  | enter entry =>
    change (s.enter rt entry).1.attempts k = s.attempts k + (s.refusal rt entry).toList.count k
    cases hrefusal : s.refusal rt entry with
    | none => rw [attempts_congr (enter_uncounted hrefusal)]; rfl
    | some standoff =>
      obtain ⟨facts, hfacts, rfl⟩ := Option.map_eq_some_iff.1 hrefusal
      obtain ⟨e, he, hfacts⟩ := Option.bind_eq_some_iff.1 hfacts
      have hcounted := (enter_counted_iff (Prod.ext rfl he) hfacts).2
        (hmeets facts.toStandoff hrefusal)
      by_cases hsame : k = facts.toStandoff
      · subst hsame
        rw [hcounted.counter]
        simp
      · rw [attempts, hcounted.others k hsame]
        simp [attempts, Ne.symm hsame]

/-- RUN: a counter is the number of refusals of its standoff. -/
theorem attempts_run {actions : List ClaimAction} (halong : Along (step rt) (Tallies rt) s actions)
    {k : Standoff} (hk : k.kind.ofClaim = true) :
    (run (step rt) s actions).attempts k =
      s.attempts k + (trace (step rt) (refusals rt) s actions).count k := by
  induction actions generalizing s with
  | nil => simp [trace]
  | cons a actions ih =>
    obtain ⟨ha, hrest⟩ := halong
    rw [run_cons, ih hrest, attempts_step ha hk, trace, List.count_append, Nat.add_assoc]

end ClaimStore

/-- EXACT: a refusal of an acquisition, through whichever entry, leaves one count more of its
    standoff and nothing else exactly when it is made on a handle of its own, and not before the
    first refusal of the standoff. In a run of such refusals the counters are their numbers. -/
theorem refusals_counted_iff (rt : WorkRuntime) :
    (∀ (s : ClaimStore) entry s' e facts, s.enter rt entry = (s', some e) → e.facts = some facts →
      (s.Counted s' facts.toStandoff ↔
        entry.OwnHandle ∧ ∀ row ∈ s.contention facts.toStandoff, row.firstAt ≤ entry.now)) ∧
    ∀ work actions, Along (ClaimStore.step rt) (ClaimStore.Tallies rt) (.opened work) actions →
      ∀ k : Standoff, k.kind.ofClaim = true →
        (run (ClaimStore.step rt) (.opened work) actions).attempts k =
          (trace (ClaimStore.step rt) (ClaimStore.refusals rt) (.opened work) actions).count k := by
  refine ⟨fun s entry s' e facts h hfacts => ClaimStore.enter_counted_iff h hfacts,
    fun work actions halong k hk => ?_⟩
  rw [ClaimStore.attempts_run halong hk]
  simp [ClaimStore.attempts, ClaimStore.opened]

/-! ### A commitment that another holds -/

/-- Commitment 1, which principal `p` has claimed until 100, and principal `q`. -/
def plainClaimed : WorkStore :=
  { WorkStore.opening "w" [⟨"p", some "p", true⟩, ⟨"q", some "q", true⟩] with
    tasks := Std.ExtTreeMap.ofList ([(1, plainTask)] : List (UuidV7 × Task))
    claims := Std.ExtTreeMap.ofList ([(2, plainClaim)] : List (UuidV7 × LeasedClaim)) }

/-- No other gate refuses. -/
def plainGates : ClaimGates := ⟨none, none, none, none⟩

/-- `q` asks for commitment 1. -/
def plainAcquire (now : UnixMs) : ClaimAction :=
  .enter (.acquire 1 ⟨none, ⟨[]⟩, false, none, plainGates⟩ ⟨some "q", some "q", none, now⟩ 7)

/-- `q` asks for commitment 1 in a journey. -/
def plainJourney (now : UnixMs) : ClaimAction :=
  .enter (.claimAndStart ⟨1, "k", none, ⟨[]⟩, none, none, none, ⟨[]⟩, plainGates⟩ "q" "q" now 7 8)

/-- The standoff between `q` and `p` about commitment 1. -/
def plainStandoff : Standoff := ⟨1, .claimHeldByAnother, "q", "p"⟩

theorem refusals_counted_plain :
    (run (ClaimStore.step plainWorkRuntime) (.opened plainClaimed)
      [plainAcquire 5, plainAcquire 6]).attempts plainStandoff = 2 := by
  have halong : Along (ClaimStore.step plainWorkRuntime) (ClaimStore.Tallies plainWorkRuntime)
      (.opened plainClaimed) [plainAcquire 5, plainAcquire 6] := by
    refine ⟨?_, ?_, trivial⟩ <;> decide +kernel
  rw [(refusals_counted_iff plainWorkRuntime).2 plainClaimed _ halong plainStandoff rfl]
  decide +kernel

/-- NOT SO: a journey that is refused leaves no count, and neither does a refusal at an instant
    before the first one. -/
theorem refusals_uncounted :
    (trace (ClaimStore.step plainWorkRuntime) (ClaimStore.refusals plainWorkRuntime)
        (.opened plainClaimed) [plainJourney 5] = [plainStandoff] ∧
      (run (ClaimStore.step plainWorkRuntime) (.opened plainClaimed)
        [plainJourney 5]).attempts plainStandoff = 0) ∧
    trace (ClaimStore.step plainWorkRuntime) (ClaimStore.refusals plainWorkRuntime)
        (.opened plainClaimed) [plainAcquire 6, plainAcquire 5] = [plainStandoff, plainStandoff] ∧
      (run (ClaimStore.step plainWorkRuntime) (.opened plainClaimed)
        [plainAcquire 6, plainAcquire 5]).attempts plainStandoff = 1 := by
  decide +kernel

end Tasq
