import Mathlib.Tactic
import Tasq.Lib.Lease
import Tasq.Waiting.Run
import Tasq.Work.PremiseRun

/-! The calls on claims, premises and waits as paths of moves, beside those of the task service and
    of attempts.

    A row of `task_claim` reads as a lease of its task. An acquisition is a turn of these leases: it
    revises the claim that is there, or closes it when it has lapsed and issues the next fence.
    `Steps` is what any call does to the rows: moves on the tasks and on what is open on them, and
    one turn of the leases.

        a call ──> Works ──> Steps ──> laws of whole runs -/

namespace Tasq

open Text Outcome OpenRows

/-- How a claim reads as a lease of its task. -/
def claimLease : Lease LeasedClaim UuidV7 where
  resource := (·.taskId)
  fence := (·.fence)
  released c := c.releasedAt.isSome

/-- Closing claims revises the leases. -/
theorem revises_of_fades {t t' : Table UuidV7 LeasedClaim} (h : Table.Revised LeasedClaim.Fades t t') :
    claimLease.Revises t t' := by
  refine ⟨fun k => ⟨fun hk => ?_, fun hk => ?_⟩, fun k c c' hc hc' => ?_⟩
  · obtain ⟨c, hc, -⟩ := h.before (Std.ExtTreeMap.getElem?_eq_some_getElem hk)
    exact Table.mem_of_getElem? hc
  · obtain ⟨c, hc, -⟩ := h.after (Std.ExtTreeMap.getElem?_eq_some_getElem hk)
    exact Table.mem_of_getElem? hc
  · obtain ⟨c₀, hc₀, hfades⟩ := h.before hc'
    obtain rfl : c₀ = c := by simpa [hc] using hc₀.symm
    rcases hfades with rfl | ⟨-, _, _, _, _, rfl⟩
    · exact ⟨rfl, rfl, id⟩
    · exact ⟨rfl, rfl, fun _ => rfl⟩

namespace EffectStore

variable {s s' : EffectStore} {rt : EffectRuntime} {taskId id freshId : UuidV7} {c : LeasedClaim}

/-! ### Reading the claims -/

theorem mem_claims_rows {p : LeasedClaim → Bool} {row : UuidV7 × LeasedClaim} :
    row ∈ Table.rows s.claims (fun _ c => p c) ↔ s.claims[row.1]? = some row.2 ∧ p row.2 = true :=
  Table.mem_rows

/-- READ: the claim that is found is unreleased. -/
theorem unreleasedClaim_some (h : s.unreleasedClaim taskId = some (id, c)) :
    claimLease.Unreleased s.claims taskId id c := by
  have hmem := mem_claims_rows.1 (List.mem_of_mem_head? h)
  simp only [Bool.and_eq_true, decide_eq_true_eq, Option.isNone_iff_eq_none] at hmem
  obtain ⟨hrow, htask, hopen⟩ := hmem
  exact ⟨⟨hrow, htask⟩, by simp [claimLease, hopen]⟩

/-- READ: when none is found, every claim of the task is released. -/
theorem unreleasedClaim_none (h : s.unreleasedClaim taskId = none) (id : UuidV7)
    (c : LeasedClaim) : ¬ claimLease.Unreleased s.claims taskId id c := by
  rintro ⟨⟨hrow, htask⟩, hopen⟩
  rw [unreleasedClaim, List.head?_eq_none_iff, Table.rows_eq_nil] at h
  have := h id c hrow
  simp_all [claimLease]

theorem parseClaim_eq_ok {c c' : LeasedClaim} (h : parseClaim c = .ok c') : c' = c := by
  simp only [parseClaim, bind_eq_ok, pure_eq_ok] at h
  obtain ⟨-, -, rfl⟩ := h
  rfl

theorem currentClaim_eq_ok {current : Option (UuidV7 × LeasedClaim)}
    (h : s.currentClaim taskId = .ok current) : s.unreleasedClaim taskId = current := by
  unfold currentClaim at h
  split at h
  · rename_i hnone
    rw [hnone]
    simpa using h
  · rename_i row hrow
    simp only [map_eq_ok] at h
    obtain ⟨c, hparse, rfl⟩ := h
    rw [hrow, parseClaim_eq_ok hparse]

/-- READ: the highest fence of a task is that of one of its claims, or 0. -/
theorem highestFence_highest (s : EffectStore) (taskId : UuidV7) :
    claimLease.Highest s.claims taskId (s.highestFence taskId) := by
  have hfold : ∀ (fences : List ℕ) (n : ℕ),
      (∀ f ∈ n :: fences, f ≤ fences.foldl max n) ∧ fences.foldl max n ∈ n :: fences := by
    intro fences
    induction fences with
    | nil => simp
    | cons f fences ih =>
      intro n
      obtain ⟨hle, hmem⟩ := ih (max n f)
      have htop := hle _ List.mem_cons_self
      rw [List.foldl_cons]
      refine ⟨?_, ?_⟩
      · rintro g (_ | ⟨_, _ | ⟨_, hg⟩⟩)
        · omega
        · omega
        · exact hle g (List.mem_cons_of_mem _ hg)
      · rcases List.mem_cons.1 hmem with heq | hmem
        · rw [heq]
          rcases le_total n f with h | h
          · simp [max_eq_right h]
          · simp [max_eq_left h]
        · exact List.mem_cons_of_mem _ (List.mem_cons_of_mem _ hmem)
  obtain ⟨hle, hmem⟩ := hfold
    ((Table.rows s.claims fun _ c => c.taskId = taskId).map fun row => row.2.fence) 0
  refine ⟨fun k c hc => hle _ (List.mem_cons_of_mem _ (List.mem_map.2 ⟨(k, c), ?_, rfl⟩)), ?_⟩
  · exact mem_claims_rows.2 ⟨hc.1, decide_eq_true hc.2⟩
  · rcases List.mem_cons.1 hmem with hzero | hmem
    · exact .inl hzero
    · obtain ⟨row, hrow, hfence⟩ := List.mem_map.1 hmem
      obtain ⟨hrow, htask⟩ := mem_claims_rows.1 hrow
      exact .inr ⟨row.1, row.2, ⟨hrow, of_decide_eq_true htask⟩, hfence⟩

/-! ### Writing them -/

theorem updateClaim_eq_ok {old new : LeasedClaim} {f : LeasedClaim → LeasedClaim}
    {expectedRevision : Option ℕ} (h : s.updateClaim id old f expectedRevision = .ok (s', new)) :
    old.releasedAt = none ∧ new = { f old with revision := old.revision + 1 } ∧
      s' = { s with claims := s.claims.insert id new } := by
  simp only [updateClaim, bind_eq_ok, refuse_eq_ok, pure_eq_ok, Prod.mk.injEq,
    Option.not_isSome_iff_eq_none] at h
  obtain ⟨-, -, -, -, -, hopen, _, hparse, rfl, rfl⟩ := h
  obtain rfl := parseClaim_eq_ok hparse
  exact ⟨hopen, rfl, rfl⟩

/-- INSERT: a claim is inserted where the task has no unreleased one. -/
theorem insertClaim_eq_ok (h : s.insertClaim id c = .ok s') (hopen : c.releasedAt = none) :
    id ∉ s.claims ∧ s.unreleasedClaim c.taskId = none ∧
      s' = { s with claims := s.claims.insert id c } := by
  simp only [insertClaim, bind_eq_ok, refuse_eq_ok, not_or, not_and, Option.not_isSome_iff_eq_none,
    pure_eq_ok] at h
  obtain ⟨-, -, -, -, -, -, -, ⟨hfresh, -⟩, -, hidle, -, -, rfl⟩ := h
  exact ⟨hfresh, hidle hopen, rfl⟩

theorem requireLiveTask_eq_ok {row : Task} (h : s.requireLiveTask taskId = .ok row) :
    s.tasks[taskId]? = some row ∧ truthy row.deletedAt = false := by
  simp only [requireLiveTask, bind_eq_ok, demand_eq_ok, refuse_eq_ok, pure_eq_ok,
    Ledger.getTask_eq_ok] at h
  obtain ⟨_, ⟨hrow, -⟩, found, rfl, -, hlive, rfl⟩ := h
  refine ⟨hrow, ?_⟩
  cases hdeleted : found.deletedAt with
  | none => rfl
  | some t => simpa [truthy, hdeleted] using hlive

variable (rt) in
/-- The caller that the context names. -/
def Calls (ctx : PrincipalContext) (caller : Principal) : Prop :=
  ∃ t t' : EffectStore, t.contextPrincipal rt ctx = .ok (t', caller)

/-- A context that names a principal is the call of that principal. -/
theorem Calls.id_eq {ctx : PrincipalContext} {caller : Principal} {q : String}
    (h : Calls rt ctx caller) (hq : ctx.principalId = some q) (hne : q ≠ "") : caller.id = q := by
  obtain ⟨t, t', h⟩ := h
  have hfilter : ctx.principalId.filter (· ≠ "") = some q := by simp [hq, hne]
  simp only [contextPrincipal, hfilter, bind_eq_ok, demand_eq_ok, pure_eq_ok, Prod.mk.injEq] at h
  obtain ⟨p, hfound, -, -, -, rfl⟩ := h
  simpa using List.find?_some hfound

/-- The claim as a renewal leaves it. -/
def renewed (c : LeasedClaim) (now expiresAt : UnixMs) : LeasedClaim :=
  { c with heartbeatAt := now, expiresAt := expiresAt, updatedAt := now, revision := c.revision + 1 }

/-- What an acquisition does to the claims once it is no replay: it renews the live claim of the
    caller, or issues the next fence when the claim that was there, if any, has lapsed. -/
inductive Acquires (t t' : Table UuidV7 LeasedClaim) (taskId freshId : UuidV7) (caller : Principal)
    (actor : String) (now : UnixMs) : Prop
  | renews (id : UuidV7) (c : LeasedClaim) (expiresAt : UnixMs)
      (found : claimLease.Unreleased t taskId id c) (live : now < c.expiresAt)
      (held : ¬ HeldByAnother c caller actor) (written : t' = t.insert id (renewed c now expiresAt))
  | issues (m : Table UuidV7 LeasedClaim) (c : LeasedClaim)
      (closed : (∀ id c, ¬ claimLease.Unreleased t taskId id c) ∧ m = t ∨
        ∃ id c, claimLease.Unreleased t taskId id c ∧ c.expiresAt ≤ now ∧
          m = t.insert id (c.releasedAs "expired" now))
      (task : c.taskId = taskId) (opened : c.releasedAt = none)
      (holder : c.principalId = some caller.id) (written : claimLease.Issues m t' freshId c)

/-- EXPIRE: the claim that was there has lapsed and is closed. -/
theorem expireClaim_eq_ok {current : Option (UuidV7 × LeasedClaim)} {now : UnixMs}
    (hcurrent : s.unreleasedClaim taskId = current)
    (hlapsed : current.filter (fun c => now < c.2.expiresAt) = none)
    (h : s.expireClaim current now = .ok s') :
    ((∀ id c, ¬ claimLease.Unreleased s.claims taskId id c) ∧ s'.claims = s.claims ∨
      ∃ id c, claimLease.Unreleased s.claims taskId id c ∧ c.expiresAt ≤ now ∧
        s'.claims = s.claims.insert id (c.releasedAs "expired" now)) ∧
      s' = { s with claims := s'.claims } := by
  cases current with
  | none =>
    obtain rfl : s = s' := by simpa [expireClaim] using h
    exact ⟨.inl ⟨unreleasedClaim_none hcurrent, rfl⟩, rfl⟩
  | some row =>
    obtain ⟨id, c⟩ := row
    simp only [expireClaim, bind_eq_ok, Prod.exists, pure_eq_ok] at h
    obtain ⟨t, _, hupdate, rfl⟩ := h
    obtain ⟨-, rfl, rfl⟩ := updateClaim_eq_ok hupdate
    have hle : c.expiresAt ≤ now := by
      simpa [Option.filter_eq_none_iff] using hlapsed
    exact ⟨.inr ⟨id, c, unreleasedClaim_some hcurrent, hle, rfl⟩, rfl⟩

/-- ACQUIRE: a replay leaves the claims alone; any other acquisition finds the task open, and
    renews or issues. -/
theorem acquireTaskClaim_cases {options : AcquireClaimOptions} {ctx : PrincipalContext}
    (h : s.acquireTaskClaim rt taskId options ctx freshId = .ok (s', c)) :
    s'.claims = s.claims ∨
      ∃ linked caller, s.tasks[taskId]? = some linked ∧ truthy linked.deletedAt = false ∧
        ¬ Ledger.Terminal linked.status ∧ Calls rt ctx caller ∧
        Acquires s.claims s'.claims taskId freshId caller (ctx.actor.getD "system") ctx.now := by
  simp only [acquireTaskClaim, bind_eq_ok, Prod.exists] at h
  obtain ⟨leaseMs, -, -, -, s₁, prior, identity, hretry, h⟩ := h
  obtain ⟨hkept₁, -, hop⟩ := retryResult_spec hretry
  cases prior with
  | some record =>
    simp only [bind_eq_ok, pure_eq_ok, Prod.mk.injEq] at h
    obtain ⟨_, -, rfl, -⟩ := h
    exact .inl hkept₁.claims
  | none =>
    simp only [bind_eq_ok, Prod.exists, refuse_eq_ok, not_or] at h
    obtain ⟨linked, hlinked, s₂, caller, hcaller, -, hopen, -, -, -, -, -, -, current, hcurrent, -,
      -, -, hheld, -, -, h⟩ := h
    have hkept₂ := hkept₁.trans (contextPrincipal_spec hcaller)
    have hcurrent := currentClaim_eq_ok hcurrent
    obtain ⟨hrow, halive⟩ := requireLiveTask_eq_ok hlinked
    have htasks : s₁.tasks = s.tasks := by rw [hkept₁.same]
    refine .inr ⟨linked, caller, htasks ▸ hrow, halive, by simpa [Ledger.Terminal] using hopen,
      ⟨_, _, hcaller⟩, ?_⟩
    rw [← hkept₂.claims]
    cases hlive : current.filter fun c => ctx.now < c.2.expiresAt with
    | some live =>
      obtain ⟨id, old⟩ := live
      simp only [hlive, bind_eq_ok, Prod.exists, pure_eq_ok, Prod.mk.injEq] at h
      obtain ⟨s₃, new, hupdate, s₄, hevent, s₅, hsave, rfl, -⟩ := h
      obtain ⟨-, rfl, rfl⟩ := updateClaim_eq_ok hupdate
      obtain ⟨hmem, hexpires⟩ := Option.filter_eq_some_iff.1 hlive
      have hexpires : ctx.now < old.expiresAt := of_decide_eq_true hexpires
      subst hmem
      have hown : ¬ HeldByAnother old caller (ctx.actor.getD "system") := fun hother =>
        hheld ⟨id, old, rfl, hexpires, hother⟩
      refine .renews id old (ctx.now + leaseMs) (unreleasedClaim_some hcurrent) hexpires hown ?_
      rw [((recordEvent_spec hevent).trans (saveIdempotencyResult_bookkept hop (by decide)
        hsave)).claims]
      rfl
    | none =>
      simp only [hlive, bind_eq_ok, pure_eq_ok, Prod.mk.injEq] at h
      obtain ⟨s₃, hexpire, s₄, hinsert, _, -, s₅, hevent, s₆, hsave, rfl, -⟩ := h
      obtain ⟨hclosed, hs₃⟩ := expireClaim_eq_ok hcurrent hlive hexpire
      obtain ⟨hfresh, hidle, rfl⟩ := insertClaim_eq_ok hinsert rfl
      have hclaims := ((recordEvent_spec hevent).trans (saveIdempotencyResult_bookkept hop
        (by decide) hsave)).claims
      exact .issues s₃.claims _ hclosed rfl rfl rfl ⟨hfresh, hclaims, unreleasedClaim_none hidle,
        s₃.highestFence taskId, highestFence_highest s₃ taskId, rfl⟩

/-- An acquisition is a turn of the leases. -/
theorem Acquires.turns {t t' : Table UuidV7 LeasedClaim} {caller : Principal} {actor : String}
    {now : UnixMs} (h : Acquires t t' taskId freshId caller actor now) :
    claimLease.Turns t t' := by
  cases h with
  | renews id c expiresAt found live held written =>
    rw [written]
    exact .revise (.insert found.1.1 rfl rfl (fun h => h))
  | issues m c closed task opened holder written =>
    rcases closed with ⟨-, rfl⟩ | ⟨id, old, hold, -, rfl⟩
    · exact .issue m freshId c (.refl _) written
    · exact .issue (t.insert id (old.releasedAs "expired" now)) freshId c
        (.insert hold.1.1 rfl rfl fun _ => rfl) written

/-- RELEASE: a replay, or the unreleased claim of the task is released by its holder or by
    force. -/
theorem releaseTaskClaim_cases {options : ReleaseClaimOptions} {ctx : PrincipalContext}
    (h : s.releaseTaskClaim rt taskId options ctx = .ok (s', c)) :
    s'.claims = s.claims ∨
      ∃ id old caller reason, claimLease.Unreleased s.claims taskId id old ∧
        Calls rt ctx caller ∧
        (options.force = false → ¬ HeldByAnother old caller (ctx.actor.getD "system")) ∧
        s'.claims = s.claims.insert id (old.releasedAs reason ctx.now) := by
  simp only [releaseTaskClaim, bind_eq_ok, Prod.exists] at h
  obtain ⟨s₁, prior, identity, hretry, h⟩ := h
  obtain ⟨hkept₁, -, hop⟩ := retryResult_spec hretry
  cases prior with
  | some record =>
    simp only [bind_eq_ok, pure_eq_ok, Prod.mk.injEq] at h
    obtain ⟨_, -, rfl, -⟩ := h
    exact .inl hkept₁.claims
  | none =>
    simp only [bind_eq_ok, Prod.exists, pure_eq_ok, Prod.mk.injEq, demand_eq_ok, refuse_eq_ok,
      not_and] at h
    obtain ⟨_, -, _, hcurrent, id, old, rfl, -, -, s₂, caller, hcaller, -, hheld, s₃, _, hupdate, s₄,
      hevent, s₅, hsave, rfl, -⟩ := h
    have hkept₂ := hkept₁.trans (contextPrincipal_spec hcaller)
    obtain ⟨-, rfl, rfl⟩ := updateClaim_eq_ok hupdate
    have hfound := unreleasedClaim_some (currentClaim_eq_ok hcurrent)
    rw [hkept₁.claims] at hfound
    refine .inr ⟨id, old, caller, options.reason.getD
        (if old.expiresAt ≤ ctx.now then "expired" else "released"),
      hfound, ⟨_, _, hcaller⟩, fun hforce hother => hheld hother hforce, ?_⟩
    rw [((recordEvent_spec hevent).trans (saveIdempotencyResult_bookkept hop (by decide)
      hsave)).claims, hkept₂.claims]
    rfl

end EffectStore

namespace WorkStore

variable {s s' s₁ : WorkStore} {rt : WorkRuntime} {P Q : Move → Prop} {taskId id freshId : UuidV7}
  {ctx : PrincipalContext}

/-- Admitted moves lead from `s` to `s'`, and the claims turn. -/
structure Steps (P : Move → Prop) (s s' : WorkStore) : Prop where
  path : OpenRows.Path P s.rows s'.rows
  turns : claimLease.Turns s.claims s'.claims

theorem Works.steps (h : Works P s s') : Steps P s s' :=
  ⟨h.path, .revise (revises_of_fades h.claims)⟩

theorem Steps.refl (s : WorkStore) : Steps P s s := (Works.refl s).steps

/-! ### Claims -/

variable (s rt) in
/-- `acquireTaskClaim` -/
def acquireTaskClaim (taskId : UuidV7) (options : AcquireClaimOptions) (ctx : PrincipalContext)
    (freshId : UuidV7) : Call (WorkStore × LeasedClaim) := do
  let (e, c) ← s.view.acquireTaskClaim rt.toEffectRuntime taskId options ctx freshId
  pure (s.adopt e, c)

variable (s rt) in
/-- `releaseTaskClaim` -/
def releaseTaskClaim (taskId : UuidV7) (options : ReleaseClaimOptions) (ctx : PrincipalContext) :
    Call (WorkStore × LeasedClaim) := do
  let (e, c) ← s.view.releaseTaskClaim rt.toEffectRuntime taskId options ctx
  pure (s.adopt e, c)

/-- What an acquisition is made of. -/
def Claiming (m : Move) : Prop := m = .closed ∨ ∃ d, truthy d = false ∧ m = .acquired d

/-- Writing a claim over its predecessor closes it at most. -/
theorem closed_of_insert {c c' : LeasedClaim} (hrow : s.claims[id]? = some c)
    (hfades : c.toTaskClaim.Fades c'.toTaskClaim) :
    s.rows.Takes { s with claims := s.claims.insert id c' }.rows .closed := by
  refine ⟨rfl, ?_, .refl (fun _ => .inl rfl) _, .refl (fun _ => .inl rfl) _⟩
  exact (Table.Revised.insert (fun _ => .inl rfl) hrow hfades).image
    (R := fun c c' : LeasedClaim => c.toTaskClaim.Fades c'.toTaskClaim) fun _ _ h => h

/-- ACQUIRE: nothing, a renewal, or a new claim of an open task once the lapsed one is closed. -/
theorem acquireTaskClaim_steps {options : AcquireClaimOptions} {c : LeasedClaim}
    (h : s.acquireTaskClaim rt taskId options ctx freshId = .ok (s', c)) : Steps Claiming s s' := by
  simp only [acquireTaskClaim, bind_eq_ok, Prod.exists, pure_eq_ok, Prod.mk.injEq] at h
  obtain ⟨e, _, hacquire, rfl, -⟩ := h
  obtain hsame | ⟨linked, caller, hrow, halive, hopen, -, hacquires⟩ :=
    EffectStore.acquireTaskClaim_cases hacquire
  · refine (Works.of_rows ?_).steps
    change { s.toWorkRows with claims := e.claims } = s.toWorkRows
    rw [hsame]
    rfl
  refine ⟨?_, hacquires.turns⟩
  have hpath : ∀ claims, e.claims = claims →
      OpenRows.Path Claiming s.rows { s with claims := claims }.rows →
        OpenRows.Path Claiming s.rows (s.adopt e).rows := by
    rintro _ rfl h
    exact h
  cases hacquires with
  | renews id old expiresAt found live held written =>
    exact hpath _ written (.one (.inl rfl) (closed_of_insert found.1.1 (.inl rfl)))
  | issues m new closed task opened holder written =>
    -- The lapsed claim is closed first.
    have hclosed : OpenRows.Path Claiming s.rows { s with claims := m }.rows := by
      rcases closed with ⟨-, rfl⟩ | ⟨id, old, hold, -, rfl⟩
      · exact .refl _
      · have hreleased : old.releasedAt = none := by simpa [claimLease] using hold.2
        exact .one (.inl rfl) (closed_of_insert hold.1.1 (.inr ⟨hreleased, ctx.now, rfl⟩))
    obtain ⟨hfresh, hinsert, -⟩ := written
    refine hpath _ hinsert (hclosed.append (.one (.inr ⟨linked.deletedAt, halive, rfl⟩) ?_))
    refine ⟨freshId, new.toTaskClaim, linked, ?_, opened, task ▸ hrow, rfl, hopen, ?_⟩
    · simpa [rows, ledger, Ledger.rows] using hfresh
    · simp [rows, ledger, Ledger.rows, Table.map_insert]

/-- RELEASE: nothing, or the claim is released. -/
theorem releaseTaskClaim_works {options : ReleaseClaimOptions} {c : LeasedClaim}
    (h : s.releaseTaskClaim rt taskId options ctx = .ok (s', c)) : Works (· = .closed) s s' := by
  simp only [releaseTaskClaim, bind_eq_ok, Prod.exists, pure_eq_ok, Prod.mk.injEq] at h
  obtain ⟨e, _, hrelease, rfl, -⟩ := h
  obtain hsame | ⟨id, old, caller, reason, hfound, -, -, hwritten⟩ :=
    EffectStore.releaseTaskClaim_cases hrelease
  · refine .of_rows ?_
    change { s.toWorkRows with claims := e.claims } = s.toWorkRows
    rw [hsame]
    rfl
  · have hopen : old.releasedAt = none := by simpa [claimLease] using hfound.2
    have hwritten : e.claims = s.claims.insert id (old.releasedAs reason ctx.now) := hwritten
    have hrows : (s.adopt e).rows =
        { s with claims := s.claims.insert id (old.releasedAs reason ctx.now) }.rows := by
      rw [← hwritten]
      rfl
    refine ⟨.one rfl (hrows ▸ closed_of_insert hfound.1.1 (.inr ⟨hopen, ctx.now, rfl⟩)), ?_⟩
    change Table.Revised LeasedClaim.Fades s.claims e.claims
    rw [hwritten]
    exact .insert (fun _ => .inl rfl) hfound.1.1 (.released old reason ctx.now hopen)

/-! ### Premises -/

theorem cancelAttempts_works {message : String} {now : UnixMs}
    (h : s.cancelAttempts taskId message now = .ok s') : Works (· = .closed) s s' := by
  simp only [cancelAttempts, bind_eq_ok, pure_eq_ok] at h
  obtain ⟨-, -, rfl⟩ := h
  have hfades : Table.Revised
      (fun a a' : AttemptRow => a.toTaskAttempt.Fades (fun _ => True) a'.toTaskAttempt) s.attempts
      (s.attempts.map fun _ a =>
        if a.taskId = taskId ∧ a.status.Active then a.cancelledAs message now else a) := by
    refine .map _ fun k a _ => ?_
    split
    · rename_i h
      exact .inr ⟨h.2, .cancelled, trivial, rfl⟩
    · exact .inl rfl
  exact Works.move (m := .closed) rfl rfl ⟨rfl, .refl (fun _ => .inl rfl) _,
    hfades.image fun _ _ h => h, .refl (fun _ => .inl rfl) _⟩

theorem insertTypedRef_rows {ref : PremiseRef} (h : s.insertTypedRef id ref = .ok s') :
    s'.toWorkRows = s.toWorkRows := by
  rw [(insertTypedRef_eq_ok h).2]

/-- MUTATE: nothing, or what is open on the task closes. -/
theorem appendPremiseMutation_works {mutation : PremiseMutation} {invalidationId result : UuidV7}
    (h : s.appendPremiseMutation rt taskId mutation ctx freshId invalidationId =
      .ok (s', result)) : Works (· = .closed) s s' := by
  simp only [appendPremiseMutation, bind_eq_ok] at h
  obtain ⟨_, -, h⟩ := h
  refine idempotent_works h fun retries s₁ outcome hrun => ?_
  simp only [performPremiseMutation, bind_eq_ok, Prod.exists, pure_eq_ok, Prod.mk.injEq] at hrun
  obtain ⟨_, -, state, -, s₂, principal, hcaller, built, -, s₃, hinsert, s₄, hevent, s₅, happly, rfl,
    -⟩ := hrun
  have hbefore : Works (· = .closed) { s with retries := retries } s₄ :=
    .of_rows ((recordEvent_rows hevent).trans
      ((insertTypedRef_rows hinsert).trans (resolveCallerPrincipal_rows hcaller)))
  refine hbefore.trans ?_
  unfold applyInvalidation at happly
  split at happly
  · obtain rfl : s₄ = s₅ := by simpa using happly
    exact .refl _
  · simp only [invalidatePremise, bind_eq_ok] at happly
    obtain ⟨s₆, hfiled, s₇, hrelease, s₈, hcancel, hlast⟩ := happly
    exact ((releaseClaims_works hrelease).trans (cancelAttempts_works hcancel)).between
      (insertTypedRef_rows hfiled) (recordEvent_rows hlast)

/-- CREATE: nothing, or one new open task with its premise. -/
theorem createTaskWithPremise_works {parsed : TaskInsert} {requested : PremiseInput}
    {observed : Option Digest} {result : UuidV7}
    (h : s.createTaskWithPremise rt parsed requested observed ctx freshId = .ok (s', result)) :
    Works (· = .created) s s' := by
  simp only [createTaskWithPremise, bind_eq_ok] at h
  obtain ⟨-, -, _, -, h⟩ := h
  refine idempotent_works h fun retries s₁ outcome hrun => ?_
  simp only [performCreateWithPremise, bind_eq_ok, Prod.exists, pure_eq_ok, Prod.mk.injEq] at hrun
  obtain ⟨_, -, s₂, principal, hcaller, -, -, l, created, hcreate, s₃, hinsert, s₄, hevent, rfl, -⟩ :=
    hrun
  exact (absorb_works (Ledger.createTaskInTransaction_goes hcreate)).between
    (resolveCallerPrincipal_rows hcaller)
    ((recordEvent_rows hevent).trans (insertTypedRef_rows hinsert))

/-! ### Waits -/

/-- END: a waiting condition ends, whatever else is written of it. -/
theorem updateWait_works {w new : WaitRow} {f : WaitRow → WaitRow} (hrow : s.waits[id]? = some w)
    (hf : (f w).toWaitCondition = { w.toWaitCondition with status := (f w).status })
    (h : s.updateWait id w f = .ok (s', new)) : Works (· = .closed) s s' := by
  obtain ⟨hwaiting, hended, -, rfl⟩ := updateWait_eq_ok h
  refine Works.move (m := .closed) rfl rfl ⟨rfl, .refl (fun _ => .inl rfl) _,
    .refl (fun _ => .inl rfl) _, ?_⟩
  exact (Table.Revised.insert (fun _ => .inl rfl) hrow (.inr ⟨hwaiting, _, hended, hf⟩)).image
    (R := fun w w' : WaitRow => w.toWaitCondition.Fades (· ≠ .waiting) w'.toWaitCondition)
    fun _ _ h => h

/-- What a new condition is made of. -/
def Awaiting (m : Move) : Prop := m = .waited ∨ m = .closed

/-- WAIT: nothing, or a new condition on an open task, and the superseded one ends. -/
theorem createWaitCondition_works {parsed : WaitConditionInsert} {extension : Option String}
    {w : WaitRow}
    (h : s.createWaitCondition rt parsed extension ctx freshId = .ok (s', id, w)) :
    Works Awaiting s s' := by
  simp only [createWaitCondition, bind_eq_ok] at h
  obtain ⟨-, -, -, -, -, -, -, -, -, -, _, -, h⟩ := h
  refine idempotent_works h fun retries s₁ outcome hrun => ?_
  simp only [performCreateWait, bind_eq_ok, pure_eq_ok, Prod.mk.injEq] at hrun
  obtain ⟨_, -, _, -, superseded, hsuperseded, s₂, hinsert, s₃, hcancel, s₄, hevent, rfl, -⟩ := hrun
  simp only [insertWait, bind_eq_ok, refuse_eq_ok, not_or, not_not, pure_eq_ok] at hinsert
  obtain ⟨-, ⟨⟨row, hrow, hopen⟩, -⟩, -, -, -, ⟨hfresh, -⟩, -, -, rfl⟩ := hinsert
  have hwaited : Works Awaiting { s with retries := retries }
      { s with
        retries := retries
        waits := s.waits.insert (parsed.id.getD freshId) (parsed.row ctx.now) } := by
    refine Works.move (m := .waited) (.inl rfl) rfl
      ⟨parsed.id.getD freshId, (parsed.row ctx.now).toWaitCondition, row, ?_, hrow, hopen, ?_⟩
    · simpa [rows, ledger, Ledger.rows] using hfresh
    · simp [rows, ledger, Ledger.rows, Table.map_insert]
  refine hwaited.trans (Works.trans ?_ (.of_rows (recordEvent_rows hevent)))
  cases superseded with
  | none =>
    obtain rfl := (pure_eq_ok _ _).1 hcancel
    exact .refl _
  | some superseded =>
    obtain ⟨old, prior⟩ := superseded
    simp only [cancelSuperseded, bind_eq_ok, Prod.exists] at hcancel
    obtain ⟨s₅, _, hupdate, hlast⟩ := hcancel
    refine (Works.mono (fun _ h => .inr h) (updateWait_works ?_ rfl hupdate)).trans
      (.of_rows (recordEvent_rows hlast))
    obtain ⟨hprior, hne⟩ : s.waits[old]? = some prior ∧ old ∈ s.waits := by
      unfold requireSuperseded at hsuperseded
      split at hsuperseded
      · cases (pure_eq_ok _ _).1 hsuperseded
      · simp only [bind_eq_ok, demand_eq_ok, pure_eq_ok, Option.some.injEq,
          Prod.mk.injEq] at hsuperseded
        obtain ⟨_, hfound, -, -, -, -, rfl, rfl⟩ := hsuperseded
        exact ⟨hfound, Table.mem_of_getElem? hfound⟩
    have hold : parsed.id.getD freshId ≠ old := fun heq => hfresh (heq ▸ hne)
    exact (Table.getElem?_insert' s.waits _ old _).trans ((if_neg hold).trans hprior)

/-- CANCEL: nothing, or a waiting condition ends. -/
theorem cancelWaitCondition_works {reason : String} {w : WaitRow}
    (h : s.cancelWaitCondition rt id reason ctx = .ok (s', w)) : Works (· = .closed) s s' := by
  simp only [cancelWaitCondition, bind_eq_ok, demand_eq_ok] at h
  obtain ⟨-, -, -, -, before, hbefore, h⟩ := h
  split at h
  · simp only [bind_eq_ok, pure_eq_ok, Prod.mk.injEq] at h
    obtain ⟨-, -, rfl, -⟩ := h
    exact .refl s
  · simp only [bind_eq_ok, Prod.exists, pure_eq_ok, Prod.mk.injEq] at h
    obtain ⟨-, -, -, -, s₁, after, hupdate, s₂, hevent, rfl, -⟩ := h
    exact (updateWait_works hbefore rfl hupdate).trans (.of_rows (recordEvent_rows hevent))

/-! ### Deadlines -/

/-- What the fallback of a condition and its expiry are made of. -/
def Expiring (m : Move) : Prop := m = .revised ∨ m = .created ∨ m = .closed

/-- ACTIVATE: a blocked task opens, and the others keep their status. -/
theorem activateTaskInTransaction_works {actor : String} {now : UnixMs}
    (h : s.activateTaskInTransaction rt id actor now = .ok s') : Works (· = .revised) s s' := by
  simp only [activateTaskInTransaction, bind_eq_ok, getTask, Ledger.getTask_eq_ok, demand_eq_ok,
    refuse_eq_ok] at h
  obtain ⟨_, ⟨hrow, -⟩, before, rfl, -, -, -, hopen, -, -, hevent⟩ := h
  refine Works.trans ?_ (.of_rows (recordEvent_rows hevent))
  split
  · refine Works.move (m := .revised) rfl rfl ⟨id, before, activated before now, hrow, rfl, rfl, ?_,
      .inl rfl, rfl⟩
    by_cases hblocked : before.status = .blocked
    · exact .inr ⟨hopen, by simp [activated, hblocked, Ledger.Terminal]⟩
    · exact .inl (by simp [activated, hblocked])
  · exact .refl s

/-- FALLBACK: a task is activated or created, or the earlier result is found. -/
theorem materializeFallback_works {w : WaitRow} {actor : String} {now : UnixMs}
    {resultId : Option UuidV7}
    (h : s.materializeFallback rt id w actor now freshId = .ok (s', resultId)) :
    Works Expiring s s' := by
  unfold materializeFallback at h
  split at h
  · obtain ⟨rfl, -⟩ := Prod.mk.inj ((pure_eq_ok _ _).1 h)
    exact .refl s
  simp only [bind_eq_ok, pure_eq_ok, Prod.exists, Prod.mk.injEq] at h
  obtain ⟨_, -, s₁, _, hrun, rfl, -⟩ := h
  refine idempotent_works hrun fun retries s₂ outcome hperform => ?_
  unfold performFallback at hperform
  split at hperform
  · cases hperform
  · simp only [bind_eq_ok, pure_eq_ok, Prod.mk.injEq] at hperform
    obtain ⟨_, hactivate, rfl, -⟩ := hperform
    exact (activateTaskInTransaction_works hactivate).mono fun m hm => .inl hm
  · simp only [bind_eq_ok, Prod.exists, pure_eq_ok, Prod.mk.injEq] at hperform
    obtain ⟨_, -, _, -, l, _, hcreate, rfl, -⟩ := hperform
    exact (absorb_works (Ledger.createTaskInTransaction_goes hcreate)).mono fun m hm => .inr (.inl hm)

/-- EXPIRE: a waiting condition ends. -/
theorem expireWait_works {resultId : Option UuidV7} {now : UnixMs}
    (h : s.expireWait id resultId now = .ok s') : Works (· = .closed) s s' := by
  unfold expireWait at h
  split at h
  · obtain rfl := (pure_eq_ok _ _).1 h
    exact .refl s
  · rename_i w hw
    simp only [bind_eq_ok, Prod.exists, pure_eq_ok] at h
    obtain ⟨-, -, s₁, _, hupdate, rfl⟩ := h
    exact updateWait_works (Option.filter_eq_some_iff.1 hw).1 rfl hupdate

end WorkStore

namespace WaitStore

open WorkStore

variable {s s' : WaitStore} {rt : WorkRuntime} {k o i : UuidV7} {fresh : FreshIds} {version : ℕ}
  {ctx : PrincipalContext}

theorem ingestObservation_work {parsed : ObservationInsert} {extension actor : Option String}
    {now : UnixMs} {freshId : UuidV7} {row : ObservationRow}
    (h : s.ingestObservation rt parsed extension actor now freshId = .ok (s', o, row)) :
    s'.work = s.work := by
  simp only [ingestObservation, bind_eq_ok] at h
  obtain ⟨-, -, -, -, -, -, -, -, -, -, -, -, -, -, h⟩ := h
  split at h
  · simp only [bind_eq_ok, pure_eq_ok, Prod.mk.injEq] at h
    obtain ⟨-, -, rfl, -⟩ := h
    rfl
  · simp only [insertObservation, bind_eq_ok, pure_eq_ok, Prod.mk.injEq] at h
    obtain ⟨_, ⟨-, -, -, -, rfl⟩, rfl, -⟩ := h
    rfl

/-- RECONCILE: nothing, or the condition ends. -/
theorem reconcileInTransaction_works {r : ReconciliationRow}
    (h : s.reconcileInTransaction rt k o version ctx fresh = .ok (s', i, r)) :
    Works (· = .closed) s.work s'.work := by
  unfold reconcileInTransaction at h
  split at h
  · obtain ⟨rfl, -⟩ := Prod.mk.inj ((pure_eq_ok _ _).1 h)
    exact .refl _
  simp only [bind_eq_ok, demand_eq_ok, pure_eq_ok, Prod.mk.injEq] at h
  obtain ⟨w, hw, _, -, -, -, _, -, s₁, happly, s₂, hinsert, s₃, hrecord, rfl, -⟩ := h
  obtain ⟨principals, rfl⟩ := recordReconciled_eq_ok hrecord
  obtain ⟨-, rfl⟩ := insertReconciliation_eq_ok hinsert
  refine Works.trans ?_ (.of_rows (s := s₁.work) rfl)
  unfold applyEffect at happly
  split at happly
  · simp only [bind_eq_ok, Prod.exists, pure_eq_ok] at happly
    obtain ⟨w₁, _, hcaller, w₂, _, hupdate, w₃, hevidence, rfl⟩ := happly
    have hw₁ : w₁.waits[k]? = some w := by
      rw [resolveCallerPrincipal_eq hcaller]
      exact hw
    exact (updateWait_works hw₁ rfl hupdate).between (resolveCallerPrincipal_rows hcaller)
      (by rw [(insertEvidence_eq_ok hevidence).2])
  · obtain rfl := (pure_eq_ok _ _).1 happly
    exact .refl _

/-- LOOP: and so for the candidates of a sweep. -/
theorem reconcileCandidates_works {candidates : List UuidV7} {satisfied : Bool}
    (h : reconcileCandidates rt k version ctx fresh candidates s = .ok (s', satisfied)) :
    Works (· = .closed) s.work s'.work := by
  induction candidates generalizing s with
  | nil =>
    obtain ⟨rfl, -⟩ := Prod.mk.inj ((pure_eq_ok _ _).1 h)
    exact .refl _
  | cons o rest ih =>
    simp only [reconcileCandidates, bind_eq_ok, Prod.exists] at h
    obtain ⟨s₁, i, r, hreconcile, h⟩ := h
    have hone := reconcileInTransaction_works hreconcile
    split at h
    · obtain ⟨rfl, -⟩ := Prod.mk.inj ((pure_eq_ok _ _).1 h)
      exact hone
    · exact hone.trans (ih h)

/-- DEADLINE: a fact ends the condition, or its fallback is taken and it expires. -/
theorem evaluateWaitConditionDeadline_works {options : EvaluateDeadlineOptions}
    {outcome : DeadlineEvaluationOutcome}
    (h : s.evaluateWaitConditionDeadline rt k options fresh = .ok (s', outcome)) :
    Works Expiring s.work s'.work := by
  simp only [evaluateWaitConditionDeadline, bind_eq_ok, demand_eq_ok] at h
  obtain ⟨-, -, -, -, -, -, w, -, h⟩ := h
  have hclosing : ∀ {a b : WorkStore}, Works (· = .closed) a b → Works Expiring a b := fun h =>
    h.mono fun m hm => .inr (.inr hm)
  split at h
  · simp only [bind_eq_ok, Prod.exists] at h
    obtain ⟨-, -, s₁, satisfied, hcandidates, h⟩ := h
    have hone := hclosing (reconcileCandidates_works hcandidates)
    split at h
    · obtain ⟨rfl, -⟩ := Prod.mk.inj ((pure_eq_ok _ _).1 h)
      exact hone
    · simp only [bind_eq_ok, Prod.exists, pure_eq_ok, Prod.mk.injEq] at h
      obtain ⟨w₁, resultId, hfallback, w₂, hexpire, w₃, hevent, rfl, -⟩ := h
      exact hone.trans ((materializeFallback_works hfallback).trans
        ((hclosing (expireWait_works hexpire)).trans (.of_rows (recordEvent_rows hevent))))
  · obtain ⟨rfl, -⟩ := Prod.mk.inj ((pure_eq_ok _ _).1 h)
    exact .refl _
  · obtain ⟨rfl, -⟩ := Prod.mk.inj ((pure_eq_ok _ _).1 h)
    exact .refl _

/-- SWEEP: and so for every condition that is due. -/
theorem sweepWaitConditionDeadlines_works {limit : Option ℕ} {options : EvaluateDeadlineOptions}
    {freshIds : UuidV7 → FreshIds}
    (h : s.sweepWaitConditionDeadlines rt limit options freshIds = .ok s') :
    Works Expiring s.work s'.work := by
  simp only [sweepWaitConditionDeadlines, bind_eq_ok, pure_eq_ok] at h
  obtain ⟨-, -, -, -, rfl⟩ := h
  generalize s.dueConditions options.sweepNow (limit.getD 100) = due
  induction due generalizing s with
  | nil => exact .refl _
  | cons k rest ih =>
    refine Works.trans ?_ ih
    exact settle_fst_rule (I := fun t : WaitStore => Works Expiring s.work t.work) (.refl _)
      fun s' outcome h => evaluateWaitConditionDeadline_works h

end WaitStore

end Tasq
