import Mathlib.Tactic
import Tasq.Lib.Answer
import Tasq.Resources.Fences

/-! What the holder of a lease gets from `renewResourceLease`. The service checks that the clock is
    not before the last heartbeat; the trigger wants a later heartbeat and a later expiry. So at
    the very millisecond of the last heartbeat, and with a time that is shorter than what is left,
    the holder runs into the trigger (`renewal_aborts`). -/

namespace Tasq

open Text Outcome Run

/-- A `ResourceLeaseError`. -/
def ResourceFailure.IsLease : ResourceFailure → Prop
  | .lease _ _ _ => True
  | .call _ => False

/-- The lease after a renewal. -/
def ResourceLease.renewedAt (r : ResourceLease) (now expiresAt : UnixMs) : ResourceLease :=
  { r with
    heartbeatAt := now
    expiresAt := expiresAt
    updatedAt := now
    revision := r.revision + 1 }

namespace ResourceStore

variable {rt : ResourceRuntime} {s s' : ResourceStore} {id : UuidV7} {r new : ResourceLease}

/-! ### What every row satisfies -/

/-- Every stored lease satisfies its checks and has a key that the schema accepts, and until its
    release it was last updated at its heartbeat. -/
structure Sound (rt : ResourceRuntime) (s : ResourceStore) : Prop where
  refined : ∀ (id : UuidV7) (r : ResourceLease), s.leases[id]? = some r → r.Refined
  keyed : ∀ (id : UuidV7) (r : ResourceLease), s.leases[id]? = some r →
    parseResourceKey rt r.resourceKey = .ok r.resourceKey
  timed : ∀ (id : UuidV7) (r : ResourceLease), s.leases[id]? = some r → r.releasedAt = none →
    r.updatedAt = r.heartbeatAt

theorem Sound.of_leases (hs : Sound rt s) (h : s'.leases = s.leases) : Sound rt s' := by
  constructor
  · rw [h]
    exact hs.refined
  · rw [h]
    exact hs.keyed
  · rw [h]
    exact hs.timed

/-- A row that satisfies the conditions may be written. -/
theorem Sound.insert (hs : Sound rt s) (hrefined : new.Refined)
    (hkeyed : parseResourceKey rt new.resourceKey = .ok new.resourceKey)
    (htimed : new.releasedAt = none → new.updatedAt = new.heartbeatAt) :
    Sound rt { s with leases := s.leases.insert id new } := by
  have hrow : ∀ (k : UuidV7) (row : ResourceLease), (s.leases.insert id new)[k]? = some row →
      row = new ∨ s.leases[k]? = some row := by
    intro k row hk
    rw [Table.getElem?_insert'] at hk
    split at hk
    · exact .inl (Option.some.inj hk).symm
    · exact .inr hk
  constructor
  · intro k row hk
    rcases hrow k row hk with rfl | hold
    · exact hrefined
    · exact hs.refined k row hold
  · intro k row hk
    rcases hrow k row hk with rfl | hold
    · exact hkeyed
    · exact hs.keyed k row hold
  · intro k row hk hlive
    rcases hrow k row hk with rfl | hold
    · exact htimed hlive
    · exact hs.timed k row hold hlive

/-- UPDATE: keeps the conditions when it writes the heartbeat and the update at one time, or
    releases. -/
theorem updateLease_sound {expectedRevision : Option ℕ} {stale : ResourceFailure}
    {f : ResourceLease → ResourceLease} (hs : Sound rt s)
    (hf : ∀ old, (f old).releasedAt = none → (f old).updatedAt = (f old).heartbeatAt)
    (h : s.updateLease id expectedRevision stale f = .ok (s', new)) : Sound rt s' := by
  simp only [updateLease, bind_eq_ok, demand_eq_ok, refuse_eq_ok, parseLease_eq_ok, pure_eq_ok,
    Prod.mk.injEq, not_not, Option.filter_eq_some_iff] at h
  obtain ⟨old, ⟨hold, -⟩, -, hsame, -, -, -, hrefined, _, -, rfl, -⟩ := h
  refine hs.insert hrefined ?_ (hf old)
  have hkey : (f old).resourceKey = old.resourceKey := hsame.1
  exact hkey ▸ hs.keyed id old hold

theorem expireLease_sound {lease expired : ResourceLease} {actor principalId : String}
    {now : UnixMs} {expectedRevision : Option ℕ} {sequence : ℕ} (hs : Sound rt s)
    (h : s.expireLease id lease actor principalId now expectedRevision =
      .ok (s', expired, sequence)) : Sound rt s' := by
  simp only [expireLease, bind_eq_ok, Prod.exists, pure_eq_ok, Prod.mk.injEq] at h
  obtain ⟨-, -, s₁, row, hupdate, rfl, -, -⟩ := h
  exact (updateLease_sound hs (fun old hnone => by cases hnone) hupdate).of_leases rfl

theorem insertAcquired_sound {newId : UuidV7} {identity : Option (Retry.Identity ResourceOperation)}
    {resourceKey actor : String} {principal : Principal} {metadata : Metadata}
    {disposition : ResourceDisposition} {priorFence : ℕ} {now expiresAt : UnixMs}
    {answer : ResourceLeaseOperation} (hs : Sound rt s)
    (hkey : parseResourceKey rt resourceKey = .ok resourceKey)
    (h : s.insertAcquired newId identity resourceKey actor principal metadata disposition priorFence
      now expiresAt = .ok (s', answer)) : Sound rt s' := by
  simp only [insertAcquired, bind_eq_ok, pure_eq_ok, Prod.mk.injEq] at h
  obtain ⟨-, -, s₁, hinsert, _, -, s₂, hsave, rfl, -⟩ := h
  simp only [insertLease, bind_eq_ok, refuse_eq_ok, pure_eq_ok, not_not] at hinsert
  obtain ⟨-, hrefined, -, -, -, -, -, -, rfl⟩ := hinsert
  have hs₁ : Sound rt { s with leases := s.leases.insert newId _ } :=
    hs.insert hrefined hkey fun _ => rfl
  refine hs₁.of_leases ?_
  rw [saveOperation_leases hsave, appendResourceEvent_leases]

theorem parseResourceKey_eq_ok {key key' : String} (h : parseResourceKey rt key = .ok key') :
    parseResourceKey rt key' = .ok key' := by
  have hkey : key = key' := by
    simp only [parseResourceKey, bind_eq_ok, pure_eq_ok] at h
    exact h.choose_spec.2
  rwa [hkey] at h

/-! ### Every call keeps them -/

theorem acquireResourceLease_sound {newId : UuidV7} {resourceKeyInput : String}
    {ctx : ResourceMutationContext} {leaseMs : Option ℕ} {metadata : Option Metadata}
    {answer : ResourceLeaseOperation} (hs : Sound rt s)
    (h : s.acquireResourceLease rt newId resourceKeyInput ctx leaseMs metadata = .ok (s', answer)) :
    Sound rt s' := by
  simp only [acquireResourceLease, bind_eq_ok, Prod.exists] at h
  obtain ⟨actor, -, resourceKey, hkey, duration, -, metadata, -, -, -, now, -, expiresAt, -,
    identity, -, s₁, replay, hreplay, h⟩ := h
  have hs₁ := hs.of_leases (replayOperation_leases hreplay)
  split at h
  · simp only [pure_eq_ok, Prod.mk.injEq] at h
    exact h.1 ▸ hs₁
  simp only [bind_eq_ok, Prod.exists] at h
  obtain ⟨-, -, s₂, principal, hprincipal, current, hcurrent, h⟩ := h
  have hs₂ := hs₁.of_leases (resolvePrincipal_leases hprincipal)
  split at h
  · simp only [bind_eq_ok] at h
    obtain ⟨latest, -, h⟩ := h
    exact insertAcquired_sound hs₂ (parseResourceKey_eq_ok hkey) h
  · simp only [bind_eq_ok] at h
    obtain ⟨-, -, h⟩ := h
    split at h
    · simp only [bind_eq_ok, pure_eq_ok, Prod.mk.injEq] at h
      obtain ⟨-, -, s₃, hsave, rfl, -⟩ := h
      exact hs₂.of_leases (saveOperation_leases hsave)
    · simp only [bind_eq_ok, Prod.exists] at h
      obtain ⟨s₃, expired, sequence, hexpire, h⟩ := h
      exact insertAcquired_sound (expireLease_sound hs₂ hexpire) (parseResourceKey_eq_ok hkey) h

theorem renewResourceLease_sound {resourceKeyInput : String} {ctx : ResourceMutationContext}
    {leaseId : UuidV7} {fence expectedRevision : ℕ} {leaseMs : Option ℕ}
    {answer : ResourceLeaseOperation} (hs : Sound rt s)
    (h : s.renewResourceLease rt resourceKeyInput ctx leaseId fence expectedRevision leaseMs =
      .ok (s', answer)) : Sound rt s' := by
  simp only [renewResourceLease, bind_eq_ok, Prod.exists] at h
  obtain ⟨actor, -, resourceKey, -, duration, -, fence, -, expectedRevision, -, -, -, now, -,
    expiresAt, -, identity, -, s₁, replay, hreplay, h⟩ := h
  have hs₁ := hs.of_leases (replayOperation_leases hreplay)
  split at h
  · simp only [pure_eq_ok, Prod.mk.injEq] at h
    exact h.1 ▸ hs₁
  simp only [bind_eq_ok, Prod.exists] at h
  obtain ⟨-, -, s₂, principal, hprincipal, current, hcurrent, h⟩ := h
  have hs₂ := hs₁.of_leases (resolvePrincipal_leases hprincipal)
  split at h
  · exact absurd h noLiveLease_ne_ok
  · simp only [bind_eq_ok, Prod.exists, pure_eq_ok, Prod.mk.injEq] at h
    obtain ⟨-, -, s₃, lease, hupdate, s₄, hsave, rfl, -⟩ := h
    refine (updateLease_sound hs₂ (fun old _ => rfl) hupdate).of_leases ?_
    rw [saveOperation_leases hsave, appendResourceEvent_leases]

theorem releaseResourceLease_sound {resourceKeyInput : String} {ctx : ResourceMutationContext}
    {leaseId : UuidV7} {fence expectedRevision : ℕ} {reason : Option String}
    {answer : ResourceLeaseOperation} (hs : Sound rt s)
    (h : s.releaseResourceLease rt resourceKeyInput ctx leaseId fence expectedRevision reason =
      .ok (s', answer)) : Sound rt s' := by
  simp only [releaseResourceLease, bind_eq_ok, Prod.exists] at h
  obtain ⟨actor, -, resourceKey, -, fence, -, expectedRevision, -, -, -, -, -, now, -, identity, -,
    s₁, replay, hreplay, h⟩ := h
  have hs₁ := hs.of_leases (replayOperation_leases hreplay)
  split at h
  · simp only [pure_eq_ok, Prod.mk.injEq] at h
    exact h.1 ▸ hs₁
  simp only [bind_eq_ok, Prod.exists] at h
  obtain ⟨-, -, s₂, principal, hprincipal, current, hcurrent, h⟩ := h
  have hs₂ := hs₁.of_leases (resolvePrincipal_leases hprincipal)
  split at h
  · exact absurd h noLiveLease_ne_ok
  simp only [bind_eq_ok] at h
  obtain ⟨-, -, h⟩ := h
  split at h
  · simp only [bind_eq_ok, Prod.exists, pure_eq_ok, Prod.mk.injEq] at h
    obtain ⟨-, -, -, -, s₃, expired, sequence, hexpire, s₄, hsave, rfl, -⟩ := h
    exact (expireLease_sound hs₂ hexpire).of_leases (saveOperation_leases hsave)
  · simp only [bind_eq_ok, Prod.exists, pure_eq_ok, Prod.mk.injEq] at h
    obtain ⟨-, -, s₃, lease, hupdate, s₄, hsave, rfl, -⟩ := h
    refine (updateLease_sound hs₂ (fun old hnone => by cases hnone) hupdate).of_leases ?_
    rw [saveOperation_leases hsave, appendResourceEvent_leases]

theorem sweepExpiredResources_sound {ctx : ResourceContext} {limit : Option ℕ}
    {answer : ResourceSweep} (hs : Sound rt s)
    (h : s.sweepExpiredResources rt ctx limit = .ok (s', answer)) : Sound rt s' := by
  simp only [sweepExpiredResources, bind_eq_ok, Prod.exists, pure_eq_ok, Prod.mk.injEq] at h
  obtain ⟨actor, -, limit, -, now, -, -, -, s₁, principal, hprincipal, s₂, expired, cursor, hloop,
    rfl, -⟩ := h
  refine foldlM_invariant (sweepLease actor principal.id now)
    (fun state => Sound rt state.1) _ ?_ (hs.of_leases (resolvePrincipal_leases hprincipal)) hloop
  rintro state row state' - hstate hround
  simp only [sweepLease, bind_eq_ok, Prod.exists, pure_eq_ok] at hround
  obtain ⟨lease, -, s₃, expired, sequence, hexpire, rfl⟩ := hround
  exact expireLease_sound hstate hexpire

/-- STEP: the rows stay sound, whatever is called. -/
theorem step_sound (s : ResourceStore) (a : ResourceAction) (hs : Sound rt s) :
    Sound rt (s.step rt a) := by
  cases a with
  | acquire newId resourceKey ctx leaseMs metadata =>
    exact settle_fst_rule hs fun s' b h => acquireResourceLease_sound hs h
  | renew resourceKey ctx leaseId fence expectedRevision leaseMs =>
    exact settle_fst_rule hs fun s' b h => renewResourceLease_sound hs h
  | release resourceKey ctx leaseId fence expectedRevision reason =>
    exact settle_fst_rule hs fun s' b h => releaseResourceLease_sound hs h
  | sweep ctx limit =>
    exact settle_fst_rule hs fun s' b h => sweepExpiredResources_sound hs h
  | verify resourceKey ctx leaseId fence => exact hs
  | elsewhere space principals lastSequence retries otherLeaseIds => exact hs.of_leases rfl

theorem sound_opening {workspaceId : String} {space : Bool} {principals : List Principal} :
    Sound rt (opening workspaceId space principals) := by
  constructor <;> intro id r h <;> simp [opening] at h

/-! ### The call of the holder -/

/-- The time that a call asks for. -/
def asked (leaseMs : Option ℕ) : ℕ := leaseMs.getD defaultResourceLeaseMs

/-- The principal of the call holds the unreleased lease `r`, and the time it asks for is
    accepted. -/
structure Owns (rt : ResourceRuntime) (s : ResourceStore) (id : UuidV7) (r : ResourceLease)
    (ctx : ResourceMutationContext) (leaseMs : Option ℕ) : Prop where
  row : s.leases[id]? = some r
  live : r.releasedAt = none
  holder : ∃ s₁ p, s.resolvePrincipal rt ctx.toResourceContext = .ok (s₁, p) ∧
    p.id = r.holderPrincipalId
  accepted : minResourceLeaseMs ≤ asked leaseMs ∧ asked leaseMs ≤ maxResourceLeaseMs

/-- The call with the fence and the revision of the lease. -/
def renewal (rt : ResourceRuntime) (s : ResourceStore) (id : UuidV7) (r : ResourceLease)
    (ctx : ResourceMutationContext) (leaseMs : Option ℕ) :
    ResourceCall (ResourceStore × ResourceLeaseOperation) :=
  s.renewResourceLease rt r.resourceKey ctx id r.fence r.revision leaseMs

/-- The lease is there, with a heartbeat and an expiry that are no earlier than in `r`. -/
def Advanced (id : UuidV7) (r : ResourceLease)
    (outcome : ResourceStore × ResourceLeaseOperation) : Prop :=
  ∃ r', outcome.1.leases[id]? = some r' ∧ r.heartbeatAt ≤ r'.heartbeatAt ∧
    r.expiresAt ≤ r'.expiresAt

/-- The numbers and the key pass the checks that throw a `ResourceLeaseError`. -/
structure Checked (r : ResourceLease) (ctx : ResourceMutationContext) (leaseMs : Option ℕ) :
    Prop where
  fence : r.fence ≤ Json.maxSafeInteger
  revision : r.revision ≤ Json.maxSafeInteger
  key : ¬ Blank ctx.idempotencyKey
  clock : ctx.clock ≤ Json.maxSafeInteger
  expiry : ctx.clock + asked leaseMs ≤ Json.maxSafeInteger

/-- The heartbeat and the expiry both move forward, and the counters have room. -/
structure Forward (lastSequence : ℕ) (r : ResourceLease) (ctx : ResourceMutationContext)
    (leaseMs : Option ℕ) : Prop where
  heartbeat : r.heartbeatAt < ctx.clock
  expiry : r.expiresAt < ctx.clock + asked leaseMs
  revision : r.revision < Json.maxSafeInteger
  sequence : lastSequence < Json.maxSafeInteger

/-- When the holder is answered: the actor and the retry key can be read and are not those of
    another request; and a call that is new, and comes between the last heartbeat and the expiry,
    moves both forward. -/
structure Renewable (rt : ResourceRuntime) (s : ResourceStore) (id : UuidV7) (r : ResourceLease)
    (ctx : ResourceMutationContext) (leaseMs : Option ℕ) : Prop where
  named : parseActor ctx.actor = .ok ctx.actor
  fresh : Checked r ctx leaseMs → ∃ identity retries prior,
    s.retryIdentity rt ctx .renew
      (.renew r.resourceKey ctx.principalId id r.fence r.revision (asked leaseMs)) ctx.clock =
        .ok identity ∧
    Retry.findIdempotencyResult s.retries identity = .ok (retries, prior) ∧
    (prior = none → s.space = true → r.heartbeatAt ≤ ctx.clock → ctx.clock < r.expiresAt →
      Forward s.lastSequence r ctx leaseMs)

/-- The live lease of a resource is its unreleased one. -/
theorem liveLease_of_unreleased (hs : Sound rt s) (hfenced : resourceLease.Fenced s.leases)
    (hrow : s.leases[id]? = some r) (hlive : r.releasedAt = none) :
    s.liveLease r.resourceKey = .ok (some (id, r)) := by
  have hunreleased : resourceLease.Unreleased s.leases r.resourceKey id r :=
    ⟨⟨hrow, rfl⟩, by simp [resourceLease, hlive]⟩
  have hmem : (id, r) ∈ (s.leasesOf r.resourceKey).filter fun row => row.2.releasedAt.isNone := by
    rw [List.mem_filter]
    exact ⟨mem_leasesOf.2 hunreleased.1, by simp [hlive]⟩
  unfold liveLease
  cases hhead : ((s.leasesOf r.resourceKey).filter fun row => row.2.releasedAt.isNone).head? with
  | none =>
    rw [List.head?_eq_none_iff] at hhead
    rw [hhead] at hmem
    cases hmem
  | some row =>
    have hfirst := List.mem_of_mem_head? (Option.mem_def.2 hhead)
    rw [List.mem_filter, mem_leasesOf, Option.isNone_iff_eq_none] at hfirst
    have hid : row.1 = id := hfenced.one_unreleased
      ⟨hfirst.1, by simp [resourceLease, hfirst.2]⟩ hunreleased
    have hr : row.2 = r := by
      have := hfirst.1.1
      rw [hid, hrow] at this
      exact (Option.some.inj this).symm
    simp only [map_eq_ok, parseLease_eq_ok, Option.some.injEq, Prod.mk.injEq]
    exact ⟨row.2, ⟨hr ▸ hs.refined id r hrow, rfl⟩, hid, hr⟩

/-- The principal of a call does not depend on the retry records. -/
theorem resolvePrincipal_retries {ctx : ResourceContext}
    (retries : List (Retry.IdempotencyRecord ResourceOperation ResourceDisposition)) :
    { s with retries := retries }.resolvePrincipal rt ctx =
      (fun outcome => ({ outcome.1 with retries := retries }, outcome.2)) <$>
        s.resolvePrincipal rt ctx := by
  unfold resolvePrincipal
  split
  · simp only [map_bind]
    rfl
  · simp only [map_bind]
    rfl

/-! ### What each part of the call answers -/

variable {ctx : ResourceMutationContext} {leaseMs : Option ℕ}

theorem answers_liftCall {α : Type} {Q : α → Prop} (x : Call α) :
    Answers ResourceFailure.IsLease (liftCall x) Q ↔ ∃ a, x = .ok a ∧ Q a := by
  cases x with
  | ok a => simp [liftCall, Except.mapError]
  | error e => simp [liftCall, Except.mapError, ResourceFailure.IsLease]

theorem answers_parseActor {Q : String → Prop} (actor : String) :
    Answers ResourceFailure.IsLease (parseActor actor) Q ↔
      parseActor actor = .ok actor ∧ Q actor := by
  simp only [parseActor, answers_bind, answers_refuse, answers_pure, bind_eq_ok, refuse_eq_ok,
    pure_eq_ok, and_true, exists_const, ResourceFailure.IsLease]
  tauto

theorem answers_safePositive {Q : ℕ → Prop} {value : ℕ} (label : String) (h : 0 < value) :
    Answers ResourceFailure.IsLease (safePositive value label) Q ↔
      (value ≤ Json.maxSafeInteger → Q value) := by
  simp only [safePositive, answers_bind, answers_refuse, answers_pure, ResourceFailure.IsLease,
    implies_true, true_and, not_or, not_lt]
  exact ⟨fun hq hle => hq ⟨h.ne', hle⟩, fun hq hle => hq hle.2⟩

theorem answers_retryIdentity {operation : ResourceOperation} {request : ResourceRequest}
    {now : UnixMs} {Q : Option (Retry.Identity ResourceOperation) → Prop} :
    Answers ResourceFailure.IsLease (s.retryIdentity rt ctx operation request now) Q ↔
      ∃ identity, s.retryIdentity rt ctx operation request now = .ok identity ∧ Q identity := by
  simp only [retryIdentity, answers_liftCall, liftCall_eq_ok]

/-- SAVE: room for the numbers, under an identity that has no record yet. -/
theorem saveOperation_completes {identity : Retry.Identity ResourceOperation}
    {disposition : ResourceDisposition} {lease : ResourceLease} {sequence : ℕ}
    (hunused : Retry.row s.retries identity.callerScope identity.operation identity.key = none)
    (hrevision : 0 < lease.revision) (hsequence : 0 < sequence) {Q : ResourceStore → Prop}
    (hQ : ∀ s' : ResourceStore, s'.leases = s.leases → Q s') :
    Answers ResourceFailure.IsLease
        (s.saveOperation (some identity) disposition id lease sequence) Q ↔
      lease.revision ≤ Json.maxSafeInteger ∧ sequence ≤ Json.maxSafeInteger := by
  simp only [saveOperation, answers_bind, answers_liftCall, answers_pure,
    Retry.saveIdempotencyResult, bind_eq_ok, refuse_eq_ok, pure_eq_ok, hunused,
    Option.mem_def, Option.some.injEq, exists_eq_left', hrevision, hsequence, if_true, true_and,
    Option.isSome_none, Bool.false_eq_true, not_false_eq_true, exists_const, not_le, not_lt]
  constructor
  · rintro ⟨rows, ⟨h, h', -⟩, -⟩
    exact ⟨h, h'⟩
  · rintro ⟨h, h'⟩
    exact ⟨_, ⟨h, h', rfl⟩, hQ _ rfl⟩

/-- OWNED: the holder passes exactly between the last heartbeat and the expiry. -/
theorem answers_assertOwned {principalId : String} {now : UnixMs} {Q : Unit → Prop}
    (htimed : r.updatedAt = r.heartbeatAt) (hlive : r.releasedAt = none)
    (hholder : principalId = r.holderPrincipalId) :
    Answers ResourceFailure.IsLease (assertOwned id r principalId id r.fence now) Q ↔
      (r.heartbeatAt ≤ now → now < r.expiresAt → Q ()) := by
  simp only [assertOwned, assertClockNotBefore, answers_bind, answers_refuse, htimed, or_self,
    not_lt, hlive, hholder, ne_eq, not_true_eq_false, not_false_eq_true, not_le,
    ResourceFailure.IsLease, implies_true, true_and, forall_const]

/-- UPDATE: the trigger passes exactly when both times move forward. -/
theorem answers_updateLease (hs : Sound rt s) (hrow : s.leases[id]? = some r)
    (hlive : r.releasedAt = none) {stale : ResourceFailure} {now duration : ℕ}
    (hbefore : r.heartbeatAt ≤ now) (hduration : 0 < duration)
    {Q : ResourceStore × ResourceLease → Prop} :
    Answers ResourceFailure.IsLease
        (s.updateLease id (some r.revision) stale fun row =>
          { row with heartbeatAt := now, expiresAt := now + duration, updatedAt := now }) Q ↔
      (r.heartbeatAt < now ∧ r.expiresAt < now + duration) ∧
        Q ({ s with leases := s.leases.insert id (r.renewedAt now (now + duration)) },
          r.renewedAt now (now + duration)) := by
  have hr := hs.refined id r hrow
  have hfilter : s.leases[id]?.filter (fun row => row.releasedAt.isNone &&
      (some r.revision).all (· = row.revision)) = some r := by
    simp [hrow, hlive]
  have hrefined : (r.renewedAt now (now + duration)).Refined := by
    constructor
    · exact Nat.succ_pos _
    · exact hr.fence_pos
    · exact hr.heartbeat.trans hbefore
    · exact Nat.lt_add_of_pos_right hduration
    · exact hr.reason
    · exact hr.release
    · exact hr.stated
  have hguarded : ResourceLease.Guarded r (r.renewedAt now (now + duration)) ↔
      r.heartbeatAt < now ∧ r.expiresAt < now + duration := by
    constructor
    · intro h
      obtain ⟨hne, hexpiry⟩ := h.renewal hlive
      exact ⟨lt_of_le_of_ne hbefore (Ne.symm hne), hexpiry⟩
    · rintro ⟨hheartbeat, hexpiry⟩
      constructor
      · exact hlive
      · rfl
      · exact hbefore
      · exact Nat.lt_add_of_pos_right hduration
      · exact (hs.timed id r hrow hlive).le.trans hbefore
      · exact fun _ => ⟨hheartbeat.ne', hexpiry⟩
      · intro t ht
        simp [ResourceLease.renewedAt, hlive] at ht
  simp only [updateLease, answers_bind, answers_demand, hfilter, answers_refuse, answers_pure,
    Option.some.injEq, forall_eq', reduceCtorEq, false_implies, true_and, ResourceFailure.IsLease,
    parseLease]
  rw [ResourceLease.renewedAt] at hguarded hrefined ⊢
  rw [hguarded]
  have hsame : ResourceLease.SameIdentity r (r.renewedAt now (now + duration)) :=
    ⟨rfl, rfl, rfl, rfl, rfl, rfl, rfl⟩
  rw [ResourceLease.renewedAt] at hsame
  simp only [hsame, hrefined, not_true_eq_false, not_false_eq_true, forall_const, true_and,
    imp_false, not_not]
  tauto

/-- FRESH: the call after the retry lookup, when no earlier answer was found. -/
theorem answers_fresh (hs : Sound rt s) (hfenced : resourceLease.Fenced s.leases)
    (h : Owns rt s id r ctx leaseMs) {identity : Retry.Identity ResourceOperation} {actor : String}
    (hunused : Retry.row s.retries identity.callerScope identity.operation identity.key = none) :
    Answers ResourceFailure.IsLease
        (do
          s.requireSpace
          let (s, principal) ← s.resolvePrincipal rt ctx.toResourceContext
          let current ← s.liveLease r.resourceKey
          match current with
          | none => s.noLiveLease r.resourceKey ctx.clock
          | some (other, current) => do
            assertOwned other current principal.id id r.fence ctx.clock
            let (s, lease) ← s.updateLease other (some r.revision)
              (.lease .staleFence s!"Stale revision for {r.resourceKey}"
                (some (current.view other ctx.clock)))
              fun row => { row with
                heartbeatAt := ctx.clock, expiresAt := ctx.clock + asked leaseMs
                updatedAt := ctx.clock }
            let (s, sequence) := s.appendResourceEvent other lease actor principal.id
              (.renewed lease.fence r.revision (ctx.clock + asked leaseMs)) ctx.clock
            let s ← s.saveOperation (some identity) .renewed other lease sequence
            pure (s, (⟨.renewed, ctx.clock, other, lease, sequence⟩ : ResourceLeaseOperation)))
        (Advanced id r) ↔
      (s.space = true → r.heartbeatAt ≤ ctx.clock → ctx.clock < r.expiresAt →
        Forward s.lastSequence r ctx leaseMs) := by
  obtain ⟨s₁, principal, hprincipal, hholder⟩ := h.holder
  have hleases := resolvePrincipal_leases hprincipal
  have hs₁ : Sound rt s₁ := hs.of_leases hleases
  have hrow : s₁.leases[id]? = some r := hleases ▸ h.row
  have hlive := liveLease_of_unreleased hs₁ (hleases ▸ hfenced) hrow h.live
  have hretries : s₁.retries = s.retries ∧ s₁.lastSequence = s.lastSequence := by
    unfold resolvePrincipal at hprincipal
    split at hprincipal
    · simp only [bind_eq_ok, pure_eq_ok, Prod.mk.injEq] at hprincipal
      obtain ⟨_, -, _, -, rfl, -⟩ := hprincipal
      exact ⟨rfl, rfl⟩
    · simp only [bind_eq_ok, pure_eq_ok, Prod.mk.injEq] at hprincipal
      obtain ⟨_, -, _, -, rfl, -⟩ := hprincipal
      exact ⟨rfl, rfl⟩
  simp only [requireSpace, answers_bind, answers_refuse, ResourceFailure.IsLease, implies_true,
    true_and, Bool.not_eq_false, hprincipal, answers_ok, hlive]
  refine imp_congr_right fun _ => ?_
  rw [answers_assertOwned (hs₁.timed id r hrow h.live) h.live hholder]
  refine imp_congr_right fun hbefore => imp_congr_right fun _ => ?_
  have hduration : 0 < asked leaseMs :=
    lt_of_lt_of_le (by decide : 0 < minResourceLeaseMs) h.accepted.1
  rw [answers_updateLease hs₁ hrow h.live hbefore hduration]
  have hforward : Forward s.lastSequence r ctx leaseMs ↔
      (r.heartbeatAt < ctx.clock ∧ r.expiresAt < ctx.clock + asked leaseMs) ∧
        r.revision < Json.maxSafeInteger ∧ s.lastSequence < Json.maxSafeInteger :=
    ⟨fun h => ⟨⟨h.heartbeat, h.expiry⟩, h.revision, h.sequence⟩,
      fun h => ⟨h.1.1, h.1.2, h.2.1, h.2.2⟩⟩
  rw [hforward]
  refine and_congr_right fun hlater => ?_
  refine (saveOperation_completes ?_ (Nat.succ_pos _) (Nat.succ_pos _) ?_).trans ?_
  · exact hretries.1 ▸ hunused
  · intro s' hs'
    refine ⟨r.renewedAt ctx.clock (ctx.clock + asked leaseMs), ?_, hbefore, hlater.2.le⟩
    rw [hs', appendResourceEvent_leases, Table.getElem?_insert', if_pos rfl]
  · rw [← hretries.2]
    rfl

/-- REPLAY: an earlier answer is given again, or the call goes on with the records that stay. -/
theorem answers_replayOperation (hs : Sound rt s)
    {identity : Option (Retry.Identity ResourceOperation)} {now : UnixMs}
    {Q : ResourceStore × Option ResourceLeaseOperation → Prop}
    (hQ : ∀ s' : ResourceStore, s'.leases = s.leases → ∀ answer, Q (s', some answer)) :
    Answers ResourceFailure.IsLease (s.replayOperation identity now) Q ↔
      ∃ retries prior, Retry.findIdempotencyResult s.retries identity = .ok (retries, prior) ∧
        (prior = none → Q ({ s with retries := retries }, none)) := by
  simp only [replayOperation, answers_bind, answers_liftCall, Prod.exists]
  refine exists_congr fun retries => exists_congr fun prior => and_congr_right fun _ => ?_
  cases prior with
  | none => simp [answers_pure]
  | some prior =>
    simp only [reduceCtorEq, false_implies, iff_true, answers_bind, answers_demand,
      ResourceFailure.IsLease, implies_true, true_and]
    intro row hrow
    simp only [parseLease, hs.refined _ row hrow, assertClockNotBefore, answers_bind,
      answers_refuse, answers_pure, not_true_eq_false, false_implies, not_false_eq_true,
      forall_const, true_and, ResourceFailure.IsLease, implies_true]
    exact fun _ => hQ { s with retries := retries } rfl _

/-- A lookup that finds nothing leaves no record under the identity. -/
theorem row_of_not_found {retries rows : List (Retry.IdempotencyRecord ResourceOperation
    ResourceDisposition)} {identity : Retry.Identity ResourceOperation}
    (h : Retry.findIdempotencyResult rows (some identity) = .ok (retries, none)) :
    Retry.row retries identity.callerScope identity.operation identity.key = none := by
  simp only [Retry.findIdempotencyResult, bind_eq_ok, pure_eq_ok, Prod.mk.injEq] at h
  obtain ⟨_, -, rfl, hnone⟩ := h
  cases hrow : Retry.row (Retry.dropExpired rows identity) identity.callerScope identity.operation
      identity.key with
  | none => rfl
  | some row =>
    rw [hrow] at hnone
    cases hnone

/-- A call with a retry key has an identity. -/
theorem retryIdentity_eq_ok {operation : ResourceOperation} {request : ResourceRequest}
    {now : UnixMs} {identity : Option (Retry.Identity ResourceOperation)}
    (h : s.retryIdentity rt ctx operation request now = .ok identity) :
    ∃ p, identity = some p := by
  simp only [retryIdentity, liftCall_eq_ok, Retry.prepareIdempotency, bind_eq_ok, pure_eq_ok] at h
  obtain ⟨_, -, _, -, _, -, _, -, rfl⟩ := h
  exact ⟨_, rfl⟩

/-- EXACT: the holder is answered exactly when the call is `Renewable`. -/
theorem answers_renewal (hs : Sound rt s) (hfenced : resourceLease.Fenced s.leases)
    (h : Owns rt s id r ctx leaseMs) :
    Answers ResourceFailure.IsLease (renewal rt s id r ctx leaseMs) (Advanced id r) ↔
      Renewable rt s id r ctx leaseMs := by
  have hduration : leaseDuration leaseMs = .ok (asked leaseMs) := by
    obtain ⟨hmin, hmax⟩ := h.accepted
    simp only [leaseDuration, bind_eq_ok, refuse_eq_ok, exists_const, pure_eq_ok, not_or, not_lt]
    exact ⟨⟨hmin, hmax⟩, rfl⟩
  have hr := hs.refined id r h.row
  -- The retry records are not read before the lookup, and stay out of who the caller is.
  have howns : ∀ retries, Owns rt { s with retries := retries } id r ctx leaseMs := by
    intro retries
    obtain ⟨s₁, p, hprincipal, hholder⟩ := h.holder
    refine ⟨h.row, h.live, ⟨{ s₁ with retries := retries }, p, ?_, hholder⟩, h.accepted⟩
    rw [resolvePrincipal_retries, hprincipal]
    rfl
  have hreplayed : ∀ s' : ResourceStore, s'.leases = s.leases →
      ∀ answer : ResourceLeaseOperation, Advanced id r (s', answer) := by
    intro s' hleases answer
    exact ⟨r, hleases ▸ h.row, le_rfl, le_rfl⟩
  simp only [renewal, renewResourceLease, answers_bind, answers_parseActor,
    hs.keyed id r h.row, hduration, answers_ok, answers_safePositive _ hr.fence_pos,
    answers_safePositive _ hr.revision_pos, requireIdempotencyKey, nowFrom, leaseExpiry,
    answers_refuse, answers_pure, ResourceFailure.IsLease, implies_true, true_and, not_lt,
    answers_retryIdentity]
  constructor
  · rintro ⟨hnamed, hrest⟩
    refine ⟨hnamed, fun hchecked => ?_⟩
    obtain ⟨identity, hidentity, hreplay⟩ := hrest hchecked.fence hchecked.revision hchecked.key
      hchecked.clock hchecked.expiry
    obtain ⟨p, rfl⟩ := retryIdentity_eq_ok hidentity
    rw [answers_replayOperation hs hreplayed] at hreplay
    obtain ⟨retries, prior, hfind, hfresh⟩ := hreplay
    refine ⟨some p, retries, prior, hidentity, hfind, ?_⟩
    rintro rfl
    exact (answers_fresh (s := { s with retries := retries }) (hs.of_leases rfl) hfenced
      (howns retries) (row_of_not_found hfind)).1 (hfresh rfl)
  · intro hrenew
    refine ⟨hrenew.named, fun hfence hrevision hkey hclock hexpiry => ?_⟩
    obtain ⟨identity, retries, prior, hidentity, hfind, hfresh⟩ :=
      hrenew.fresh ⟨hfence, hrevision, hkey, hclock, hexpiry⟩
    obtain ⟨p, rfl⟩ := retryIdentity_eq_ok hidentity
    refine ⟨some p, hidentity, ?_⟩
    rw [answers_replayOperation hs hreplayed]
    refine ⟨retries, prior, hfind, ?_⟩
    rintro rfl
    exact (answers_fresh (s := { s with retries := retries }) (hs.of_leases rfl) hfenced
      (howns retries) (row_of_not_found hfind)).2 (hfresh rfl)

/-- EXACT: in every reachable state and at every reading of the clock, the holder of a live lease
    who renews it gets a later heartbeat and expiry or a typed error exactly when the call is
    `Renewable`; whatever is refused, nothing changes. -/
theorem renewal_total (rt : ResourceRuntime) (workspaceId : String) (space : Bool)
    (principals : List Principal) (actions : List ResourceAction) (id : UuidV7) (r : ResourceLease)
    (ctx : ResourceMutationContext) (leaseMs : Option ℕ)
    (h : Owns rt (run (ResourceStore.step rt) (opening workspaceId space principals) actions) id r
      ctx leaseMs) :
    let s := run (ResourceStore.step rt) (opening workspaceId space principals) actions
    (Answers ResourceFailure.IsLease (renewal rt s id r ctx leaseMs) (Advanced id r) ↔
      Renewable rt s id r ctx leaseMs) ∧
    ∀ e, renewal rt s id r ctx leaseMs = .error e →
      s.step rt (.renew r.resourceKey ctx id r.fence r.revision leaseMs) = s := by
  intro s
  have hsound : Sound rt s := run_invariant' step_sound actions sound_opening
  have hfenced : resourceLease.Fenced s.leases :=
    Lease.fenced_run step_turns Lease.fenced_empty actions
  refine ⟨answers_renewal hsound hfenced h, fun e he => ?_⟩
  rw [renewal] at he
  rw [step, he]
  rfl

end ResourceStore

/-! ### The holder at the millisecond of the heartbeat -/

/-- The lease that `p` acquired at 5 for one second. -/
def plainLease : ResourceLease where
  resourceKey := "k"
  holderActor := "p"
  holderPrincipalId := "p"
  revision := 1
  fence := 1
  acquiredAt := 5
  heartbeatAt := 5
  expiresAt := 1005
  releasedAt := none
  releaseReason := none
  metadata := ⟨[]⟩
  createdAt := 5
  updatedAt := 5

theorem plainHeld_owns (clock : UnixMs) :
    ResourceStore.Owns plainResourceRuntime plainHeld 7 plainLease (plainCaller "p" "b" clock)
      (some 2000) where
  row := by decide +kernel
  live := rfl
  holder := by
    have hfound : plainHeld.principals.find? (·.id = "p") = some ⟨"p", none, true⟩ := by
      decide +kernel
    refine ⟨plainHeld, ⟨"p", none, true⟩, ?_, rfl⟩
    have hnamed : (plainCaller "p" "b" clock).principalId.filter (· ≠ "") = some "p" := rfl
    unfold ResourceStore.resolvePrincipal
    rw [hnamed]
    simp only [bind_eq_ok, demand_eq_ok, refuse_eq_ok, hfound, pure_eq_ok]
    exact ⟨_, rfl, (), by decide, rfl⟩
  accepted := by decide

theorem renewal_total_plain :
    ResourceStore.Owns plainResourceRuntime plainHeld 7 plainLease (plainCaller "p" "b" 6)
        (some 2000) ∧
      (Answers ResourceFailure.IsLease (ResourceStore.renewal plainResourceRuntime plainHeld 7
          plainLease (plainCaller "p" "b" 6) (some 2000)) (ResourceStore.Advanced 7 plainLease) ↔
        ResourceStore.Renewable plainResourceRuntime plainHeld 7 plainLease (plainCaller "p" "b" 6)
          (some 2000)) :=
  ⟨plainHeld_owns 6, (ResourceStore.renewal_total plainResourceRuntime "w" true
    [⟨"p", none, true⟩, ⟨"q", none, true⟩] [.acquire 7 "k" (plainCaller "p" "a" 5) (some 1000) none]
    7 plainLease (plainCaller "p" "b" 6) (some 2000) (plainHeld_owns 6)).1⟩

/-- NOT SO: at the millisecond of the heartbeat the holder runs into the trigger. -/
theorem renewal_aborts :
    ResourceStore.Owns plainResourceRuntime plainHeld 7 plainLease (plainCaller "p" "b" 5)
        (some 2000) ∧
      (ResourceStore.renewal plainResourceRuntime plainHeld 7 plainLease (plainCaller "p" "b" 5)
        (some 2000)).map (fun _ => ()) =
          .error (.call (.constraint "invalid resource_lease transition")) :=
  ⟨plainHeld_owns 5, by decide +kernel⟩

end Tasq
