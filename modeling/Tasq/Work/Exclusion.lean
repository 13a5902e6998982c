import Mathlib.Tactic
import Tasq.Work.System

/-! Claims exclude: who works on a task, and who may end its work, in any run of the workspace.

    The claims of a task are leases with consecutive fences, at most one of them unreleased
    (`claims_fenced`). So the claim that a call finds is the one that is there, and the checks of the
    calls against it keep the work of its holder (`live_claim_excludes`). -/

namespace Tasq

open Text Outcome OpenRows Run

namespace EffectStore

variable {s : EffectStore} {taskId k : UuidV7} {c : LeasedClaim}

/-- A caller that is not the holder acts on the claim of another. -/
theorem heldByAnother_of_ne {caller : Principal} {actor p : String} (hp : c.principalId = some p)
    (hne : caller.id ≠ p) : HeldByAnother c caller actor := by
  rw [HeldByAnother, hp]
  exact Ne.symm hne

/-- A claim that is live is unreleased. -/
theorem unreleased_of_live {now : UnixMs} (hrow : s.claims[k]? = some c) (htask : c.taskId = taskId)
    (hlive : c.LiveAt now) : claimLease.Unreleased s.claims taskId k c :=
  ⟨⟨hrow, htask⟩, by simp [claimLease, hlive.1]⟩

end EffectStore

namespace WorkStore

variable {s s' : WorkStore} {rt : WorkRuntime} {taskId k freshId : UuidV7} {c : LeasedClaim}
  {now : UnixMs} {ctx : PrincipalContext} {p : String}

/-- The claim is the live one of the task, and principal `p` holds it. -/
structure Holds (s : WorkStore) (taskId k : UuidV7) (c : LeasedClaim) (p : String)
    (now : UnixMs) : Prop where
  row : s.claims[k]? = some c
  task : c.taskId = taskId
  holder : c.principalId = some p
  live : c.LiveAt now

/-- The call is made by a principal other than `p`. -/
def ByAnother (ctx : PrincipalContext) (p : String) : Prop :=
  ∃ q, ctx.principalId = some q ∧ q ≠ "" ∧ q ≠ p

theorem Holds.unreleased (h : s.Holds taskId k c p now) :
    claimLease.Unreleased s.claims taskId k c :=
  EffectStore.unreleased_of_live (s := s.view) h.row h.task h.live

/-- An unreleased claim of the task is the live one. -/
theorem Holds.unique (h : s.Holds taskId k c p now) (hs : claimLease.Fenced s.claims)
    {k' : UuidV7} {c' : LeasedClaim} (h' : claimLease.Unreleased s.claims taskId k' c') :
    c' = c := by
  obtain rfl := hs.one_unreleased h.unreleased h'
  exact Option.some.inj (h'.1.1.symm.trans h.row)

/-- READ: the active claim that the calls find is the live one. -/
theorem Holds.activeClaim (h : s.Holds taskId k c p now) (hs : claimLease.Fenced s.claims) :
    ∃ k', s.activeClaim taskId now = some (k', c) := by
  have hmem : (k, c) ∈ Table.rows s.claims fun _ c => c.taskId = taskId && decide (c.LiveAt now) := by
    simp [Table.mem_rows, h.row, h.task, h.live]
  cases hactive : s.activeClaim taskId now with
  | none =>
    rw [WorkStore.activeClaim, List.head?_eq_none_iff] at hactive
    simp [hactive] at hmem
  | some found =>
    obtain ⟨k', c'⟩ := found
    have hfound := List.mem_of_mem_head? hactive
    simp only [Table.mem_rows, Bool.and_eq_true, decide_eq_true_eq] at hfound
    obtain ⟨hrow, htask, hlive⟩ := hfound
    rw [h.unique hs (EffectStore.unreleased_of_live (s := s.view) hrow htask hlive)]
    exact ⟨k', rfl⟩

/-- Any caller but the holder acts on the claim of another. -/
theorem Holds.another (h : s.Holds taskId k c p now) (hctx : ByAnother ctx p) {caller : Principal}
    (hcaller : EffectStore.Calls rt.toEffectRuntime ctx caller) (actor : String) :
    EffectStore.HeldByAnother c caller actor := by
  obtain ⟨q, hq, hne, hother⟩ := hctx
  exact EffectStore.heldByAnother_of_ne h.holder ((hcaller.id_eq hq hne) ▸ hother)

theorem resolveCallerPrincipal_calls {caller : Principal}
    (h : s.resolveCallerPrincipal rt ctx = .ok (s', caller)) :
    EffectStore.Calls rt.toEffectRuntime ctx caller := by
  simp only [resolveCallerPrincipal, bind_eq_ok, pure_eq_ok, Prod.exists, Prod.mk.injEq] at h
  obtain ⟨e, _, hcaller, -, rfl⟩ := h
  exact ⟨_, e, hcaller⟩

/-! ### What another principal cannot do -/

/-- ACQUIRE: the claims stay as they are. -/
theorem Holds.acquire (h : s.Holds taskId k c p now) (hs : claimLease.Fenced s.claims)
    {options : AcquireClaimOptions} (hctx : ByAnother ctx p) (hnow : ctx.now = now)
    {r : LeasedClaim} (hcall : s.acquireTaskClaim rt taskId options ctx freshId = .ok (s', r)) :
    s'.toWorkRows = s.toWorkRows := by
  simp only [acquireTaskClaim, bind_eq_ok, Prod.exists, pure_eq_ok, Prod.mk.injEq] at hcall
  obtain ⟨e, _, hacquire, rfl, -⟩ := hcall
  subst hnow
  obtain hsame | ⟨linked, caller, -, -, -, hcaller, hacquires⟩ :=
    EffectStore.acquireTaskClaim_cases hacquire
  · change { s.toWorkRows with claims := e.claims } = s.toWorkRows
    rw [hsame]
    rfl
  · cases hacquires with
    | renews id old expiresAt found live held written =>
      rw [h.unique hs found] at held
      exact absurd (h.another hctx hcaller _) held
    | issues m new closed task opened holder written =>
      rcases closed with ⟨hnone, -⟩ | ⟨id, old, hold, hlapsed, -⟩
      · exact absurd h.unreleased (hnone k c)
      · rw [h.unique hs hold] at hlapsed
        exact absurd h.live.2 (not_lt.2 hlapsed)

/-- RELEASE: the claim stays, unless it is forced. -/
theorem Holds.release (h : s.Holds taskId k c p now) (hs : claimLease.Fenced s.claims)
    {options : ReleaseClaimOptions} (hctx : ByAnother ctx p) (hforce : options.force = false)
    {r : LeasedClaim} (hcall : s.releaseTaskClaim rt taskId options ctx = .ok (s', r)) :
    s'.toWorkRows = s.toWorkRows := by
  simp only [releaseTaskClaim, bind_eq_ok, Prod.exists, pure_eq_ok, Prod.mk.injEq] at hcall
  obtain ⟨e, _, hrelease, rfl, -⟩ := hcall
  obtain hsame | ⟨id, old, caller, reason, hfound, hcaller, hheld, -⟩ :=
    EffectStore.releaseTaskClaim_cases hrelease
  · change { s.toWorkRows with claims := e.claims } = s.toWorkRows
    rw [hsame]
    rfl
  · rw [h.unique hs hfound] at hheld
    exact absurd (h.another hctx hcaller _) (hheld hforce)

/-- START: no attempt begins, where the instant that the caller names is not past the claim. -/
theorem Holds.start (h : s.Holds taskId k c p now) (hs : claimLease.Fenced s.claims)
    {options : StartAttemptOptions} (hctx : ByAnother ctx p)
    (hnow : options.occurredAt.getD ctx.now = now) {a : AttemptRow}
    (hcall : s.startTaskAttempt rt taskId options ctx freshId = .ok (s', a)) :
    s'.toWorkRows = s.toWorkRows := by
  simp only [startTaskAttempt, bind_eq_ok] at hcall
  obtain ⟨-, -, -, -, _, -, hcall⟩ := hcall
  obtain ⟨retries, rfl⟩ | ⟨retries, s₁, outcome, retries', hrun, -⟩ := idempotent_eq_ok hcall
  · rfl
  · simp only [performStart, assertUnclaimed, bind_eq_ok, refuse_eq_ok, Prod.exists] at hrun
    obtain ⟨_, -, s₂, caller, hcaller, -, -, -, hunclaimed, -⟩ := hrun
    have hclaims : s₂.claims = s.claims := by rw [resolveCallerPrincipal_eq hcaller]
    have hheld : s₂.Holds taskId k c p (options.occurredAt.getD ctx.now) :=
      ⟨hclaims ▸ h.row, h.task, h.holder, hnow ▸ h.live⟩
    obtain ⟨k', hactive⟩ := hheld.activeClaim (hclaims ▸ hs)
    have hcaller := resolveCallerPrincipal_calls hcaller
    exact absurd ⟨k', c, hactive, hheld.another hctx hcaller _⟩ hunclaimed

/-- TRANSITION: the task does not end, unless it is forced. -/
theorem Holds.transition (h : s.Holds taskId k c p now) (hs : claimLease.Fenced s.claims)
    {status : TaskStatus} {options : StatusChangeOptions} (hctx : ByAnother ctx p)
    (hterminal : Ledger.Terminal status) (hforce : options.force = false) (hnow : ctx.now = now)
    {row : Task} (hcall : s.transitionTaskStatus rt taskId status options ctx = .ok (s', row)) :
    s'.toWorkRows = s.toWorkRows := by
  subst hnow
  simp only [transitionTaskStatus, bind_eq_ok] at hcall
  obtain ⟨-, -, _, -, hcall⟩ := hcall
  obtain ⟨retries, rfl⟩ | ⟨retries, s₁, outcome, retries', hrun, rfl⟩ := idempotent_eq_ok hcall
  · rfl
  · simp only [performTransition, bind_eq_ok] at hrun
    obtain ⟨_, -, before, -, -, -, hrun⟩ := hrun
    split at hrun
    · obtain ⟨rfl, -⟩ := Prod.mk.inj ((pure_eq_ok _ _).1 hrun)
      rfl
    · simp only [bind_eq_ok, Prod.exists, assertHolder, refuse_eq_ok, not_and] at hrun
      obtain ⟨-, -, -, -, s₂, caller, hcaller, -, hholder, -⟩ := hrun
      have hclaims : s₂.claims = s.claims := by rw [resolveCallerPrincipal_eq hcaller]
      have hheld : s₂.Holds taskId k c p ctx.now := ⟨hclaims ▸ h.row, h.task, h.holder, h.live⟩
      obtain ⟨k', hactive⟩ := hheld.activeClaim (hclaims ▸ hs)
      have hcaller := resolveCallerPrincipal_calls hcaller
      exact absurd ⟨k', c, hactive, hheld.another hctx hcaller _⟩ (hholder hterminal hforce)

end WorkStore

namespace WorkSystem

variable {rt : WorkRuntime} {s : WaitStore}

/-! ### Runs -/

/-- The fences that an action gives for a task. -/
def fences (rt : WorkRuntime) (taskId : UuidV7) (s : WaitStore) (a : WorkAction) : List ℕ :=
  claimLease.issued taskId s.work.claims (step rt s a).work.claims

theorem fenced_opening (workspaceId : String) (principals : List Principal) :
    claimLease.Fenced (opening workspaceId principals).work.claims := Lease.fenced_empty

/-- RUN: in every state that a run reaches a task has at most one unreleased claim, which has the
    highest fence of the task, and the fences that the run gives for a task are 1, 2, and so on. -/
theorem claims_fenced (rt : WorkRuntime) (workspaceId : String) (principals : List Principal)
    (actions : List WorkAction) (taskId : UuidV7) :
    (∀ (k k' : UuidV7) c c',
      (run (step rt) (opening workspaceId principals) actions).work.claims[k]? = some c →
      (run (step rt) (opening workspaceId principals) actions).work.claims[k']? = some c' →
      c.taskId = taskId → c'.taskId = taskId → c.releasedAt = none →
        c'.fence ≤ c.fence ∧ (c'.releasedAt = none → k = k')) ∧
      ∃ count, trace (step rt) (fences rt taskId) (opening workspaceId principals) actions =
        List.range' 1 count := by
  have hturn : ∀ (s : WaitStore) (a : WorkAction), claimLease.Fenced s.work.claims →
      claimLease.Turns s.work.claims (step rt s a).work.claims := fun s a _ => (step_steps a).turns
  have hfenced := Lease.fenced_run hturn (fenced_opening workspaceId principals) actions
  refine ⟨fun k k' c c' hc hc' htask htask' hopen => ⟨?_, fun hopen' => ?_⟩, ?_⟩
  · exact hfenced.last taskId k c k' c' ⟨⟨hc, htask⟩, by simp [claimLease, hopen]⟩ ⟨hc', htask'⟩
  · exact hfenced.one_unreleased ⟨⟨hc, htask⟩, by simp [claimLease, hopen]⟩
      ⟨⟨hc', htask'⟩, by simp [claimLease, hopen']⟩
  · exact Lease.trace_issued hturn (fenced_opening workspaceId principals) actions (Lease.highest_empty taskId)

/-- The action would take the task from `p` at the instant, or end its work: an acquisition or a
    start at that instant, and a terminal transition or a release that is not forced. -/
def Intrudes (taskId : UuidV7) (p : String) (now : UnixMs) : WorkAction → Prop
  | .acquireTaskClaim id _ ctx _ => id = taskId ∧ ctx.now = now ∧ WorkStore.ByAnother ctx p
  | .startTaskAttempt id options ctx _ =>
    id = taskId ∧ options.occurredAt.getD ctx.now = now ∧ WorkStore.ByAnother ctx p
  | .transitionTaskStatus id status options ctx =>
    id = taskId ∧ Ledger.Terminal status ∧ options.force = false ∧ ctx.now = now ∧
      WorkStore.ByAnother ctx p
  | .releaseTaskClaim id options ctx =>
    id = taskId ∧ options.force = false ∧ WorkStore.ByAnother ctx p
  | _ => False

/-- RUN: in every state that a run reaches, while a claim of a task is live, no other principal
    acquires the task, starts an attempt on it, ends it or releases the claim without force. Tasks,
    claims, attempts and waits stay as they are. -/
theorem live_claim_excludes (rt : WorkRuntime) (workspaceId : String) (principals : List Principal)
    (actions : List WorkAction) {s : WaitStore}
    (hs : run (step rt) (opening workspaceId principals) actions = s) {taskId k : UuidV7}
    {c : LeasedClaim} {p : String} {now : UnixMs} (h : s.work.Holds taskId k c p now)
    {a : WorkAction} (ha : Intrudes taskId p now a) :
    (step rt s a).work.toWorkRows = s.work.toWorkRows := by
  subst hs
  have hturn : ∀ (s : WaitStore) (a : WorkAction), claimLease.Fenced s.work.claims →
      claimLease.Turns s.work.claims (step rt s a).work.claims := fun s a _ => (step_steps a).turns
  have hfenced := Lease.fenced_run hturn (fenced_opening workspaceId principals) actions
  cases a with
  | acquireTaskClaim id options ctx freshId =>
    obtain ⟨rfl, hnow, hctx⟩ := ha
    exact settle_fst_rule (I := fun work : WorkStore => work.toWorkRows = _) rfl
      fun _ _ hcall => h.acquire hfenced hctx hnow hcall
  | startTaskAttempt id options ctx freshId =>
    obtain ⟨rfl, hnow, hctx⟩ := ha
    exact settle_fst_rule (I := fun work : WorkStore => work.toWorkRows = _) rfl
      fun _ _ hcall => h.start hfenced hctx hnow hcall
  | transitionTaskStatus id status options ctx =>
    obtain ⟨rfl, hterminal, hforce, hnow, hctx⟩ := ha
    exact settle_fst_rule (I := fun work : WorkStore => work.toWorkRows = _) rfl
      fun _ _ hcall => h.transition hfenced hctx hterminal hforce hnow hcall
  | releaseTaskClaim id options ctx =>
    obtain ⟨rfl, hforce, hctx⟩ := ha
    exact settle_fst_rule (I := fun work : WorkStore => work.toWorkRows = _) rfl
      fun _ _ hcall => h.release hfenced hctx hforce hcall
  | _ => exact ha.elim

/-! ### A task that `p` holds -/

/-- Task 1 is created and acquired by `p`. -/
def plainHeld : List WorkAction :=
  [.createTask (plainInsert 1 none) (plainAt 1),
    .acquireTaskClaim 1 ⟨none, ⟨[]⟩, false, none, ⟨none, none, none, none⟩⟩
      ⟨some "p", some "p", none, 2⟩ 7]

/-- The workspace after that. -/
def plainHolding : WaitStore :=
  run (step plainWorkRuntime) (opening "w" [⟨"p", some "p", true⟩, ⟨"q", some "q", true⟩]) plainHeld

/-- `q` starts an attempt. -/
def plainStart : WorkAction :=
  .startTaskAttempt 1 ⟨none, none, none, none, ⟨[]⟩, none⟩ ⟨some "q", some "q", none, 5⟩ 8

theorem live_claim_excludes_plain :
    (step plainWorkRuntime plainHolding plainStart).work.toWorkRows =
      plainHolding.work.toWorkRows := by
  have hclaim : (plainHolding.work.claims[(7 : UuidV7)]?.map fun c =>
      (c.taskId, c.principalId, decide (c.LiveAt 5))) = some (1, some "p", true) := by
    decide +kernel
  obtain ⟨c, hrow, heq⟩ := Option.map_eq_some_iff.1 hclaim
  simp only [Prod.mk.injEq, decide_eq_true_eq] at heq
  exact live_claim_excludes plainWorkRuntime "w" [⟨"p", some "p", true⟩, ⟨"q", some "q", true⟩]
    plainHeld rfl ⟨hrow, heq.1, heq.2.1, heq.2.2⟩ (a := plainStart)
    ⟨rfl, rfl, "q", rfl, by decide, by decide⟩

end WorkSystem

end Tasq
