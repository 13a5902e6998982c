import Mathlib.Tactic
import Tasq.Ideal
import Tasq.Resources.Lease

/-! Resource fencing: every call turns the table of leases (`step_turns`), so the invariant of fenced
    leases holds along every run, whatever the clocks of the callers read.

    A lease looks live or expired depending on the reading, but it is released once and for all, and
    a fence verifies only for the unreleased lease, which has the highest fence. -/

namespace Tasq

open Text Outcome Run

/-- One call, or work of the other services on the rows that resource coordination reads. -/
inductive ResourceAction where
  | acquire (newId : UuidV7) (resourceKey : String) (ctx : ResourceMutationContext)
      (leaseMs : Option ℕ) (metadata : Option Metadata)
  | renew (resourceKey : String) (ctx : ResourceMutationContext) (leaseId : UuidV7)
      (fence expectedRevision : ℕ) (leaseMs : Option ℕ)
  | release (resourceKey : String) (ctx : ResourceMutationContext) (leaseId : UuidV7)
      (fence expectedRevision : ℕ) (reason : Option String)
  | sweep (ctx : ResourceContext) (limit : Option ℕ)
  | verify (resourceKey : String) (ctx : ResourceContext) (leaseId : UuidV7) (fence : ℕ)
  | elsewhere (space : Bool) (principals : List Principal) (lastSequence : ℕ)
      (retries : List (Retry.IdempotencyRecord ResourceOperation ResourceDisposition))
      (otherLeaseIds : List UuidV7)

namespace ResourceStore

variable (rt : ResourceRuntime)

/-- A workspace without leases. -/
def opening (workspaceId : String) (space : Bool) (principals : List Principal) :
    ResourceStore where
  workspaceId := workspaceId
  space := space
  principals := principals
  leases := ∅
  events := []
  lastSequence := 0
  retries := []
  otherLeaseIds := []

/-- What an action leaves. -/
def step (s : ResourceStore) : ResourceAction → ResourceStore
  | .acquire newId resourceKey ctx leaseMs metadata =>
    settle s (Prod.fst <$> s.acquireResourceLease rt newId resourceKey ctx leaseMs metadata)
  | .renew resourceKey ctx leaseId fence expectedRevision leaseMs =>
    settle s (Prod.fst <$> s.renewResourceLease rt resourceKey ctx leaseId fence expectedRevision
      leaseMs)
  | .release resourceKey ctx leaseId fence expectedRevision reason =>
    settle s (Prod.fst <$> s.releaseResourceLease rt resourceKey ctx leaseId fence
      expectedRevision reason)
  | .sweep ctx limit => settle s (Prod.fst <$> s.sweepExpiredResources rt ctx limit)
  | .verify _ _ _ _ => s
  | .elsewhere space principals lastSequence retries otherLeaseIds =>
    { s with
      space := space
      principals := principals
      lastSequence := lastSequence
      retries := retries
      otherLeaseIds := otherLeaseIds }

/-- The fences that an action issues for a resource. -/
def issues (resourceKey : String) (s : ResourceStore) (a : ResourceAction) : List ℕ :=
  resourceLease.issued resourceKey s.leases (s.step rt a).leases

variable {rt} {s s' : ResourceStore}

/-! ### What the parts of a call leave alone -/

theorem parseLease_eq_ok {r r' : ResourceLease} : parseLease r = .ok r' ↔ r.Refined ∧ r = r' := by
  simp only [parseLease, bind_eq_ok, refuse_eq_ok, not_not, exists_const, pure_eq_ok]

theorem resolvePrincipal_leases {ctx : ResourceContext} {p : Principal}
    (h : s.resolvePrincipal rt ctx = .ok (s', p)) : s'.leases = s.leases := by
  unfold resolvePrincipal at h
  split at h
  · simp only [bind_eq_ok, pure_eq_ok, Prod.mk.injEq] at h
    obtain ⟨_, -, _, -, rfl, -⟩ := h
    rfl
  · simp only [bind_eq_ok, pure_eq_ok, Prod.mk.injEq] at h
    obtain ⟨_, -, _, -, rfl, -⟩ := h
    rfl

theorem replayOperation_leases {identity : Option (Retry.Identity ResourceOperation)}
    {observedAt : UnixMs} {answer : Option ResourceLeaseOperation}
    (h : s.replayOperation identity observedAt = .ok (s', answer)) : s'.leases = s.leases := by
  simp only [replayOperation, bind_eq_ok, Prod.exists] at h
  obtain ⟨retries, prior, -, h⟩ := h
  split at h
  · simp only [pure_eq_ok, Prod.mk.injEq] at h
    rw [← h.1]
  · simp only [bind_eq_ok, pure_eq_ok, Prod.mk.injEq] at h
    obtain ⟨_, -, _, -, _, -, rfl, -⟩ := h
    rfl

theorem saveOperation_leases {identity : Option (Retry.Identity ResourceOperation)}
    {disposition : ResourceDisposition} {id : UuidV7} {lease : ResourceLease} {sequence : ℕ}
    (h : s.saveOperation identity disposition id lease sequence = .ok s') :
    s'.leases = s.leases := by
  simp only [saveOperation, bind_eq_ok, pure_eq_ok] at h
  obtain ⟨_, -, rfl⟩ := h
  rfl

@[simp] theorem appendResourceEvent_leases (id : UuidV7) (lease : ResourceLease)
    (actor principalId : String) (eventType : ResourceEventType) (now : UnixMs) :
    (s.appendResourceEvent id lease actor principalId eventType now).1.leases = s.leases := rfl

/-! ### Reading the table -/

theorem mem_leasesOf {resourceKey : String} {row : UuidV7 × ResourceLease} :
    row ∈ s.leasesOf resourceKey ↔ resourceLease.Leases s.leases resourceKey row.1 row.2 := by
  simp [leasesOf, Table.mem_rows, Lease.Leases, resourceLease]

/-- READ: the live lease is an unreleased one. -/
theorem liveLease_some {resourceKey : String} {id : UuidV7} {r : ResourceLease}
    (h : s.liveLease resourceKey = .ok (some (id, r))) :
    resourceLease.Unreleased s.leases resourceKey id r := by
  unfold liveLease at h
  split at h
  · simp at h
  · rename_i row hrow
    simp only [map_eq_ok, parseLease_eq_ok, Option.some.injEq, Prod.mk.injEq] at h
    obtain ⟨r, ⟨-, rfl⟩, rfl, rfl⟩ := h
    have hmem := List.mem_of_mem_head? hrow
    rw [List.mem_filter, mem_leasesOf, Option.isNone_iff_eq_none] at hmem
    exact ⟨hmem.1, by simp [resourceLease, hmem.2]⟩

/-- READ: without a live lease, every lease of the resource is released. -/
theorem liveLease_none {resourceKey : String} (h : s.liveLease resourceKey = .ok none)
    (id : UuidV7) (r : ResourceLease) : ¬ resourceLease.Unreleased s.leases resourceKey id r := by
  unfold liveLease at h
  split at h
  · rename_i hnone
    rw [List.head?_eq_none_iff, List.filter_eq_nil_iff] at hnone
    rintro ⟨hr, hu⟩
    have := hnone (id, r) (mem_leasesOf.2 hr)
    simp_all [resourceLease]
  · simp [map_eq_ok] at h

/-- READ: the latest lease has the highest fence. -/
theorem latestLease_highest {resourceKey : String} {latest : Option (UuidV7 × ResourceLease)}
    (h : s.latestLease resourceKey = .ok latest) :
    resourceLease.Highest s.leases resourceKey
      ((latest.map fun row => row.2.fence).getD 0) := by
  unfold latestLease at h
  split at h
  · rename_i hnone
    obtain rfl : none = latest := by simpa using h
    rw [List.argmax_eq_none] at hnone
    refine ⟨fun id r hr => ?_, .inl rfl⟩
    have : (id, r) ∈ s.leasesOf resourceKey := mem_leasesOf.2 hr
    simp [hnone] at this
  · rename_i row hrow
    simp only [map_eq_ok, parseLease_eq_ok] at h
    obtain ⟨r, ⟨-, rfl⟩, rfl⟩ := h
    have hmem : row ∈ s.leasesOf resourceKey := List.argmax_mem (Option.mem_def.2 hrow)
    refine ⟨fun id r hr => ?_, .inr ⟨row.1, row.2, mem_leasesOf.1 hmem, rfl⟩⟩
    have hr' : (id, r) ∈ s.leasesOf resourceKey := mem_leasesOf.2 hr
    exact List.le_of_mem_argmax (f := fun row : UuidV7 × ResourceLease => row.2.fence) hr' hrow

/-! ### Writing the table -/

/-- UPDATE: an unreleased row is revised; its identity is what it was. -/
theorem updateLease_spec {id : UuidV7} {expectedRevision : Option ℕ} {stale : ResourceFailure}
    {f : ResourceLease → ResourceLease} {new : ResourceLease}
    (h : s.updateLease id expectedRevision stale f = .ok (s', new)) :
    resourceLease.Revises s.leases s'.leases ∧ s'.leases[id]? = some new ∧
      ∃ old, new = { f old with revision := old.revision + 1 } := by
  simp only [updateLease, bind_eq_ok, demand_eq_ok, refuse_eq_ok, parseLease_eq_ok, pure_eq_ok,
    Prod.mk.injEq, not_not, Option.filter_eq_some_iff, Bool.and_eq_true,
    Option.isNone_iff_eq_none] at h
  obtain ⟨old, ⟨hold, hlive, -⟩, -, hsame, -, -, -, -, _, ⟨-, rfl⟩, rfl, rfl⟩ := h
  refine ⟨.insert hold hsame.1 hsame.2.2.2.1 ?_, by rw [Table.getElem?_insert', if_pos rfl], old, rfl⟩
  simp [resourceLease, hlive]

/-- EXPIRE: the lease is released. -/
theorem expireLease_spec {id : UuidV7} {lease expired : ResourceLease} {actor principalId : String}
    {now : UnixMs} {expectedRevision : Option ℕ} {sequence : ℕ}
    (h : s.expireLease id lease actor principalId now expectedRevision =
      .ok (s', expired, sequence)) :
    resourceLease.Revises s.leases s'.leases ∧
      ∃ r, s'.leases[id]? = some r ∧ resourceLease.released r = true := by
  simp only [expireLease, bind_eq_ok, Prod.exists, pure_eq_ok, Prod.mk.injEq] at h
  obtain ⟨-, -, s₁, new, hupdate, rfl, -, -⟩ := h
  obtain ⟨hrevises, hrow, old, hnew⟩ := updateLease_spec hupdate
  exact ⟨hrevises, new, hrow, by rw [hnew]; rfl⟩

/-- INSERT: an acquired lease is issued under the fence after the prior one. -/
theorem insertAcquired_issues {newId : UuidV7}
    {identity : Option (Retry.Identity ResourceOperation)} {resourceKey actor : String}
    {principal : Principal} {metadata : Metadata} {disposition : ResourceDisposition}
    {priorFence : ℕ} {now expiresAt : UnixMs} {answer : ResourceLeaseOperation}
    (h : s.insertAcquired newId identity resourceKey actor principal metadata disposition priorFence
      now expiresAt = .ok (s', answer))
    (hidle : ∀ id r, ¬ resourceLease.Unreleased s.leases resourceKey id r)
    (hprior : resourceLease.Highest s.leases resourceKey priorFence) :
    ∃ r, resourceLease.Issues s.leases s'.leases newId r := by
  simp only [insertAcquired, bind_eq_ok, pure_eq_ok, Prod.mk.injEq] at h
  obtain ⟨-, -, s₁, hinsert, _, -, s₂, hsave, rfl, -⟩ := h
  simp only [insertLease, bind_eq_ok, refuse_eq_ok, pure_eq_ok, not_or] at hinsert
  obtain ⟨-, -, -, ⟨hfresh, -⟩, -, -, -, -, rfl⟩ := hinsert
  have hleases := saveOperation_leases hsave
  rw [appendResourceEvent_leases] at hleases
  exact ⟨_, ⟨hfresh, hleases, hidle, priorFence, hprior, rfl⟩⟩

/-! ### Calls -/

/-- ACQUIRE: renews nothing, revises at most an expired lease, and issues the next fence. -/
theorem acquireResourceLease_turns {newId : UuidV7} {resourceKeyInput : String}
    {ctx : ResourceMutationContext} {leaseMs : Option ℕ} {metadata : Option Metadata}
    {answer : ResourceLeaseOperation} (hs : resourceLease.Fenced s.leases)
    (h : s.acquireResourceLease rt newId resourceKeyInput ctx leaseMs metadata = .ok (s', answer)) :
    resourceLease.Turns s.leases s'.leases := by
  simp only [acquireResourceLease, bind_eq_ok, Prod.exists] at h
  obtain ⟨actor, -, resourceKey, -, duration, -, metadata, -, -, -, now, -, expiresAt, -, identity,
    -, s₁, replay, hreplay, h⟩ := h
  have h₁ := replayOperation_leases hreplay
  split at h
  · simp only [pure_eq_ok, Prod.mk.injEq] at h
    rw [← h.1, h₁]
    exact .refl _
  simp only [bind_eq_ok, Prod.exists] at h
  obtain ⟨-, -, s₂, principal, hprincipal, current, hcurrent, h⟩ := h
  have h₂ := (resolvePrincipal_leases hprincipal).trans h₁
  split at h
  · simp only [bind_eq_ok] at h
    obtain ⟨latest, hlatest, h⟩ := h
    obtain ⟨r, hissues⟩ := insertAcquired_issues h (liveLease_none hcurrent)
      (latestLease_highest hlatest)
    exact .issue s.leases newId r (.refl _) (h₂ ▸ hissues)
  · rename_i id current
    have hlive := liveLease_some hcurrent
    simp only [bind_eq_ok] at h
    obtain ⟨-, -, h⟩ := h
    split at h
    · simp only [bind_eq_ok, pure_eq_ok, Prod.mk.injEq] at h
      obtain ⟨-, -, s₃, hsave, rfl, -⟩ := h
      rw [saveOperation_leases hsave, h₂]
      exact .refl _
    · simp only [bind_eq_ok, Prod.exists] at h
      obtain ⟨s₃, expired, sequence, hexpire, h⟩ := h
      obtain ⟨hrevises, r, hrow, hreleased⟩ := expireLease_spec hexpire
      rw [h₂] at hlive hrevises
      -- The expired lease was the one unreleased lease, and it had the highest fence.
      have hidle : ∀ id' r', ¬ resourceLease.Unreleased s₃.leases resourceKey id' r' := by
        intro id' r' hr'
        obtain ⟨r₀, hr₀, -⟩ := hrevises.unreleased_back hr'
        obtain rfl := hs.one_unreleased hlive hr₀
        obtain rfl : r = r' := by simpa [hrow] using hr'.1.1
        exact absurd hr'.2 (by simp [hreleased])
      obtain ⟨r', hissues⟩ := insertAcquired_issues h hidle
        ((hs.highest_of_unreleased hlive).revise hrevises)
      exact .issue s₃.leases newId r' hrevises hissues

theorem noLiveLease_ne_ok {α : Type} {resourceKey : String} {now : UnixMs} {a : α} :
    s.noLiveLease resourceKey now ≠ .ok a := by
  simp [noLiveLease, bind_eq_ok]

/-- RENEW: revises one lease. -/
theorem renewResourceLease_revises {resourceKeyInput : String} {ctx : ResourceMutationContext}
    {leaseId : UuidV7} {fence expectedRevision : ℕ} {leaseMs : Option ℕ}
    {answer : ResourceLeaseOperation}
    (h : s.renewResourceLease rt resourceKeyInput ctx leaseId fence expectedRevision leaseMs =
      .ok (s', answer)) : resourceLease.Revises s.leases s'.leases := by
  simp only [renewResourceLease, bind_eq_ok, Prod.exists] at h
  obtain ⟨actor, -, resourceKey, -, duration, -, fence, -, expectedRevision, -, -, -, now, -,
    expiresAt, -, identity, -, s₁, replay, hreplay, h⟩ := h
  have h₁ := replayOperation_leases hreplay
  split at h
  · simp only [pure_eq_ok, Prod.mk.injEq] at h
    rw [← h.1, h₁]
    exact .refl _
  simp only [bind_eq_ok, Prod.exists] at h
  obtain ⟨-, -, s₂, principal, hprincipal, current, hcurrent, h⟩ := h
  have h₂ := (resolvePrincipal_leases hprincipal).trans h₁
  split at h
  · exact absurd h noLiveLease_ne_ok
  · simp only [bind_eq_ok, Prod.exists, pure_eq_ok, Prod.mk.injEq] at h
    obtain ⟨-, -, s₃, lease, hupdate, s₄, hsave, rfl, -⟩ := h
    have hrevises := (updateLease_spec hupdate).1
    rw [saveOperation_leases hsave, appendResourceEvent_leases, ← h₂]
    exact hrevises

/-- RELEASE: revises one lease, expired or not. -/
theorem releaseResourceLease_revises {resourceKeyInput : String} {ctx : ResourceMutationContext}
    {leaseId : UuidV7} {fence expectedRevision : ℕ} {reason : Option String}
    {answer : ResourceLeaseOperation}
    (h : s.releaseResourceLease rt resourceKeyInput ctx leaseId fence expectedRevision reason =
      .ok (s', answer)) : resourceLease.Revises s.leases s'.leases := by
  simp only [releaseResourceLease, bind_eq_ok, Prod.exists] at h
  obtain ⟨actor, -, resourceKey, -, fence, -, expectedRevision, -, -, -, -, -, now, -, identity, -,
    s₁, replay, hreplay, h⟩ := h
  have h₁ := replayOperation_leases hreplay
  split at h
  · simp only [pure_eq_ok, Prod.mk.injEq] at h
    rw [← h.1, h₁]
    exact .refl _
  simp only [bind_eq_ok, Prod.exists] at h
  obtain ⟨-, -, s₂, principal, hprincipal, current, hcurrent, h⟩ := h
  have h₂ := (resolvePrincipal_leases hprincipal).trans h₁
  split at h
  · exact absurd h noLiveLease_ne_ok
  simp only [bind_eq_ok] at h
  obtain ⟨-, -, h⟩ := h
  split at h
  · simp only [bind_eq_ok, Prod.exists, pure_eq_ok, Prod.mk.injEq] at h
    obtain ⟨-, -, -, -, s₃, expired, sequence, hexpire, s₄, hsave, rfl, -⟩ := h
    rw [saveOperation_leases hsave, ← h₂]
    exact (expireLease_spec hexpire).1
  · simp only [bind_eq_ok, Prod.exists, pure_eq_ok, Prod.mk.injEq] at h
    obtain ⟨-, -, s₃, lease, hupdate, s₄, hsave, rfl, -⟩ := h
    have hrevises := (updateLease_spec hupdate).1
    rw [saveOperation_leases hsave, appendResourceEvent_leases, ← h₂]
    exact hrevises

/-- SWEEP: revises leases. -/
theorem sweepExpiredResources_revises {ctx : ResourceContext} {limit : Option ℕ}
    {answer : ResourceSweep} (h : s.sweepExpiredResources rt ctx limit = .ok (s', answer)) :
    resourceLease.Revises s.leases s'.leases := by
  simp only [sweepExpiredResources, bind_eq_ok, Prod.exists, pure_eq_ok, Prod.mk.injEq] at h
  obtain ⟨actor, -, limit, -, now, -, -, -, s₁, principal, hprincipal, s₂, expired, cursor, hloop,
    rfl, -⟩ := h
  rw [← resolvePrincipal_leases hprincipal]
  refine foldlM_invariant (sweepLease actor principal.id now)
    (fun state => resourceLease.Revises s₁.leases state.1.leases) _ ?_ (.refl _) hloop
  rintro state row state' - hstate hround
  simp only [sweepLease, bind_eq_ok, Prod.exists, pure_eq_ok] at hround
  obtain ⟨lease, -, s₃, expired, sequence, hexpire, rfl⟩ := hround
  exact hstate.trans (expireLease_spec hexpire).1

/-- VERIFY: succeeds for the unreleased and unexpired lease under the fence. -/
theorem verifyResourceFence_unreleased {resourceKey : String} {ctx : ResourceContext}
    {leaseId : UuidV7} {fence : ℕ} {answer : ResourceFenceVerification}
    (h : s.verifyResourceFence rt resourceKey ctx leaseId fence = .ok answer) :
    ∃ r, resourceLease.Unreleased s.leases resourceKey leaseId r ∧ ctx.clock < r.expiresAt ∧
      r.fence = fence := by
  simp only [verifyResourceFence, bind_eq_ok] at h
  obtain ⟨_, -, key, hkey, fence', hfence, -, -, principal, -, current, hcurrent, now, hnow, h⟩ := h
  simp only [parseResourceKey, safePositive, nowFrom, bind_eq_ok, refuse_eq_ok, pure_eq_ok,
    exists_and_left, exists_const] at hkey hfence hnow
  obtain ⟨-, rfl⟩ := hkey
  obtain ⟨-, rfl⟩ := hfence
  obtain ⟨-, rfl⟩ := hnow
  split at h
  · exact absurd h noLiveLease_ne_ok
  · rename_i id current
    simp only [assertOwned, bind_eq_ok, refuse_eq_ok, not_or, not_not, not_le, exists_and_left] at h
    obtain ⟨⟨-, -, -, hlive, ⟨rfl, hfence⟩, -⟩, -⟩ := h
    exact ⟨current, liveLease_some hcurrent, hlive, hfence⟩

/-! ### Runs -/

/-- STEP: whatever a call does is a turn of the table of leases. -/
theorem step_turns (s : ResourceStore) (a : ResourceAction)
    (hs : resourceLease.Fenced s.leases) : resourceLease.Turns s.leases (s.step rt a).leases := by
  cases a with
  | acquire newId resourceKey ctx leaseMs metadata =>
    exact settle_fst_rule (I := fun t => resourceLease.Turns s.leases t.leases) (.refl _)
      fun s' b h => acquireResourceLease_turns hs h
  | renew resourceKey ctx leaseId fence expectedRevision leaseMs =>
    exact settle_fst_rule (I := fun t => resourceLease.Turns s.leases t.leases) (.refl _)
      fun s' b h => .revise (renewResourceLease_revises h)
  | release resourceKey ctx leaseId fence expectedRevision reason =>
    exact settle_fst_rule (I := fun t => resourceLease.Turns s.leases t.leases) (.refl _)
      fun s' b h => .revise (releaseResourceLease_revises h)
  | sweep ctx limit =>
    exact settle_fst_rule (I := fun t => resourceLease.Turns s.leases t.leases) (.refl _)
      fun s' b h => .revise (sweepExpiredResources_revises h)
  | verify resourceKey ctx leaseId fence => exact .refl _
  | elsewhere space principals lastSequence retries otherLeaseIds => exact .refl _

/-- A fence that verifies after a run is at least every fence issued before the run. -/
theorem issued_le_verified {resourceKey : String} {id leaseId : UuidV7} {r : ResourceLease}
    {ctx : ResourceContext} {fence : ℕ} {answer : ResourceFenceVerification}
    (hs : resourceLease.Fenced s.leases) (hr : resourceLease.Leases s.leases resourceKey id r)
    (actions : List ResourceAction)
    (h : (run (ResourceStore.step rt) s actions).verifyResourceFence rt resourceKey ctx leaseId
      fence = .ok answer) : r.fence ≤ fence := by
  obtain ⟨v, hv, -, rfl⟩ := verifyResourceFence_unreleased h
  obtain ⟨r', hr', hfence⟩ := Lease.leases_run step_turns hs actions hr
  have hle := (Lease.fenced_run step_turns hs actions).last resourceKey leaseId v id r' hv hr'
  exact hfence.ge.trans hle

/-- CORRECT: along every run, whatever the clocks read, a resource has at most one unreleased lease,
    its fences are issued as 1, 2, 3 and so on, a fence verifies only for the unreleased and
    unexpired lease, and no fence verifies after a larger one was issued or has verified. -/
theorem resource_fencing (rt : ResourceRuntime) (workspaceId : String) (space : Bool)
    (principals : List Principal) (actions later : List ResourceAction) (resourceKey : String) :
    let s := run (ResourceStore.step rt) (opening workspaceId space principals) actions
    let s' := run (ResourceStore.step rt) s later
    (∀ id r id' r', resourceLease.Unreleased s.leases resourceKey id r →
      resourceLease.Unreleased s.leases resourceKey id' r' → id = id') ∧
    (∃ count, trace (ResourceStore.step rt) (issues rt resourceKey)
      (opening workspaceId space principals) actions = List.range' 1 count) ∧
    (∀ ctx leaseId fence answer,
      s.verifyResourceFence rt resourceKey ctx leaseId fence = .ok answer →
        ∃ r, resourceLease.Unreleased s.leases resourceKey leaseId r ∧ ctx.clock < r.expiresAt ∧
          r.fence = fence) ∧
    (∀ ctx leaseId fence answer ctx' leaseId' fence' answer',
      s.verifyResourceFence rt resourceKey ctx leaseId fence = .ok answer →
        s'.verifyResourceFence rt resourceKey ctx' leaseId' fence' = .ok answer' →
          fence ≤ fence') ∧
    ∀ id r ctx leaseId fence answer, resourceLease.Leases s.leases resourceKey id r →
      s'.verifyResourceFence rt resourceKey ctx leaseId fence = .ok answer → r.fence ≤ fence := by
  intro s s'
  have hopening : resourceLease.Fenced (opening workspaceId space principals).leases :=
    Lease.fenced_empty
  have hs : resourceLease.Fenced s.leases := Lease.fenced_run step_turns hopening actions
  refine ⟨fun id r id' r' h h' => hs.one_unreleased h h', ?_, ?_, ?_, ?_⟩
  · exact Lease.trace_issued step_turns hopening actions (Lease.highest_empty resourceKey)
  · intro ctx leaseId fence answer h
    exact verifyResourceFence_unreleased h
  · intro ctx leaseId fence answer ctx' leaseId' fence' answer' h h'
    obtain ⟨r, hr, -, rfl⟩ := verifyResourceFence_unreleased h
    exact issued_le_verified hs hr.1 later h'
  · intro id r ctx leaseId fence answer hr h
    exact issued_le_verified hs hr later h

end ResourceStore

/-! ### A lease that is reclaimed -/

/-- An ideal platform, for calls under different keys. -/
def plainResourceRuntime : ResourceRuntime where
  toRuntime := idealRuntime
  normalized _ := true
  metadataBytes _ := 2
  retryDigest _ := ⟨.null⟩

/-- A caller at a time, under a retry key. -/
def plainCaller (name key : String) (clock : UnixMs) : ResourceMutationContext where
  actor := name
  principalId := some name
  clock := clock
  idempotencyKey := key

/-- `p` holds the resource, under the first fence. -/
def plainHeld : ResourceStore :=
  run (ResourceStore.step plainResourceRuntime)
    (.opening "w" true [⟨"p", none, true⟩, ⟨"q", none, true⟩])
    [.acquire 7 "k" (plainCaller "p" "a" 5) (some 1000) none]

/-- `q` reclaims it after the lease of `p` has expired, and the clock of `p` steps back. -/
def plainReclaims : List ResourceAction :=
  [.acquire 8 "k" (plainCaller "q" "b" 2000) none none, .sweep (plainCaller "p" "c" 3).1 none]

theorem resource_fencing_plain :
    Ends (plainHeld.verifyResourceFence plainResourceRuntime "k" (plainCaller "p" "" 6).1 7 1)
      (fun v => v.fence = 1) ∧
    Ends ((run (ResourceStore.step plainResourceRuntime) plainHeld plainReclaims).verifyResourceFence
      plainResourceRuntime "k" (plainCaller "q" "" 2001).1 8 2) (fun v => v.fence = 2) ∧
    ∀ ctx leaseId answer,
      (run (ResourceStore.step plainResourceRuntime) plainHeld plainReclaims).verifyResourceFence
        plainResourceRuntime "k" ctx leaseId 1 ≠ .ok answer := by
  have hreclaimed : Ends ((run (ResourceStore.step plainResourceRuntime) plainHeld
      plainReclaims).verifyResourceFence plainResourceRuntime "k" (plainCaller "q" "" 2001).1 8 2)
      (fun v => v.fence = 2) := by decide +kernel
  refine ⟨by decide +kernel, hreclaimed, fun ctx leaseId answer h => ?_⟩
  obtain ⟨answer', hverify, -⟩ := hreclaimed
  have hrun := ResourceStore.resource_fencing plainResourceRuntime "w" true
    [⟨"p", none, true⟩, ⟨"q", none, true⟩]
    (.acquire 7 "k" (plainCaller "p" "a" 5) (some 1000) none :: plainReclaims) [] "k"
  obtain ⟨-, -, -, hmonotone, -⟩ := hrun
  have hle := hmonotone _ _ _ _ _ _ _ _ hverify h
  exact absurd hle (by decide)

end Tasq
