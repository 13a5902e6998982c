import Mathlib.Tactic
import Tasq.EffectLedger.Claims
import Tasq.EffectLedger.Receipt

/-! What the parts of a service change: attribution and idempotency touch the principals and the
    records of calls alone, an update of an effect passes the triggers, and what a reader accepts
    is the stored row itself. -/

namespace Tasq

open Text Outcome

/-! ### Reading -/

namespace EffectRuntime

variable (rt : EffectRuntime)

/-- The request of the row has its digest and its dispatch key. -/
def Identified (id : UuidV7) (row : Effect) : Prop :=
  ∃ prepared, rt.prepareEffectRequest row.request = .ok prepared ∧
    prepared.canonicalRequest = row.request ∧ prepared.requestDigest = row.requestDigest ∧
    rt.deriveEffectDispatchKey id prepared = row.dispatchIdempotencyKey

/-- A reader accepts the row. -/
structure Readable (id : UuidV7) (row : Effect) : Prop where
  identified : rt.Identified id row
  refined : row.Refined

variable {rt} {id : UuidV7}

theorem prepareEffectRequest_eq_ok {input : EffectRequestEnvelope} {p : PreparedEffectRequest}
    (h : rt.prepareEffectRequest input = .ok p) :
    p.request = { input with secretBindings := sortBindings input.secretBindings } ∧
      p.canonicalRequest = canonical p.request ∧
      p.requestDigest = rt.effectRequestDigest p.canonicalRequest := by
  simp only [prepareEffectRequest, assertCanonical, bind_eq_ok, refuse_eq_ok, pure_eq_ok] at h
  obtain ⟨-, -, -, -, -, -, rfl⟩ := h
  exact ⟨rfl, rfl, rfl⟩

/-- A request that is its own canonical form is read back as it is. -/
theorem prepared_request_eq {input : EffectRequestEnvelope} {p : PreparedEffectRequest}
    (h : rt.prepareEffectRequest input = .ok p) (hsame : p.canonicalRequest = input) :
    p.request = input := by
  obtain ⟨hrequest, hcanonical, -⟩ := prepareEffectRequest_eq_ok h
  have hbindings : sortBindings input.secretBindings = input.secretBindings := by
    have hfield := congrArg EffectRequestEnvelope.secretBindings (hcanonical.symm.trans hsame)
    rw [hrequest] at hfield
    exact hfield
  rw [hrequest, hbindings]

/-- CORRECT: a reader answers the stored row, or refuses it. -/
theorem parseEffect_eq_ok {row e : Effect} :
    rt.parseEffect id row = .ok e ↔ rt.Readable id row ∧ row = e := by
  simp only [parseEffect, bind_eq_ok, refuse_eq_ok, pure_eq_ok, not_or, not_not]
  constructor
  · rintro ⟨p, hp, -, ⟨hcanonical, hdigest⟩, -, hkey, -, hrefined, rfl⟩
    refine ⟨⟨⟨p, hp, hcanonical, hdigest, hkey⟩, hrefined⟩, ?_⟩
    rw [prepared_request_eq hp hcanonical]
  · rintro ⟨⟨⟨p, hp, hcanonical, hdigest, hkey⟩, hrefined⟩, rfl⟩
    refine ⟨p, hp, (), ⟨hcanonical, hdigest⟩, (), hkey, (), hrefined, ?_⟩
    rw [prepared_request_eq hp hcanonical]

/-- An update keeps what identifies the request. -/
theorem Identified.of_sameIdentity {old new : Effect} (h : rt.Identified id old)
    (hsame : Effect.SameIdentity old new) : rt.Identified id new := by
  obtain ⟨p, hp, hcanonical, hdigest, hkey⟩ := h
  obtain ⟨-, -, hrequest, hrequestDigest, hdispatch, -⟩ := hsame
  rw [Identified, hrequest, hrequestDigest, hdispatch]
  exact ⟨p, hp, hcanonical, hdigest, hkey⟩

end EffectRuntime

/-- A reader accepts the row. -/
def EffectApproval.Readable (row : EffectApproval) : Prop :=
  canonical row.scope = row.scope ∧ canonical row.limits = row.limits ∧
    canonical row.verification = row.verification ∧ row.Refined

theorem parseApproval_eq_ok {id : UuidV7} {row a : EffectApproval} :
    parseApproval id row = .ok a ↔ row.Readable ∧ row = a := by
  simp only [parseApproval, EffectApproval.Readable, bind_eq_ok, refuse_eq_ok, pure_eq_ok, not_not, exists_const, and_assoc]

namespace EffectStore

variable {s s' : EffectStore} {rt : EffectRuntime} {id : UuidV7}

theorem getEffect_eq_some {e : Effect} :
    s.getEffect rt id = .ok (some e) ↔ s.effects[id]? = some e ∧ rt.Readable id e := by
  unfold getEffect
  cases hrow : s.effects[id]? with
  | none => simp
  | some row =>
    simp only [map_eq_ok, EffectRuntime.parseEffect_eq_ok, Option.some.injEq]
    constructor
    · rintro ⟨_, ⟨hreadable, rfl⟩, rfl⟩
      exact ⟨rfl, hreadable⟩
    · rintro ⟨rfl, hreadable⟩
      exact ⟨row, ⟨hreadable, rfl⟩, rfl⟩

theorem getEffectApproval_eq_some {a : EffectApproval}
    (h : s.getEffectApproval id = .ok (some a)) : s.approvals[id]? = some a ∧ a.Readable := by
  unfold getEffectApproval at h
  cases hrow : s.approvals[id]? with
  | none => simp [hrow] at h
  | some row =>
    simp only [hrow, map_eq_ok, parseApproval_eq_ok, Option.some.injEq] at h
    obtain ⟨_, ⟨hreadable, rfl⟩, rfl⟩ := h
    exact ⟨rfl, hreadable⟩

theorem priorEffect_eq_ok {record : IdempotencyRecord} {e : Effect}
    (h : s.priorEffect rt record = .ok e) :
    s.effects[record.resultId]? = some e ∧ rt.Readable record.resultId e := by
  simp only [priorEffect, bind_eq_ok, demand_eq_ok] at h
  obtain ⟨_, hget, rfl⟩ := h
  exact getEffect_eq_some.1 hget

/-! ### Bookkeeping -/

/-- Only the principals and the records of calls may differ, and no record of a dispatch is new. -/
structure Bookkept (s s' : EffectStore) : Prop where
  same : s' = { s with principals := s'.principals, retries := s'.retries }
  dispatches : ∀ r ∈ s'.retries, r.operation = .effectExecutionBegin → r ∈ s.retries

namespace Bookkept

theorem refl : Bookkept s s := ⟨rfl, fun _ hr _ => hr⟩

theorem trans {t : EffectStore} (h : Bookkept s t) (h' : Bookkept t s') : Bookkept s s' := by
  constructor
  · rw [h'.same, h.same]
  · intro r hr hop
    exact h.dispatches r (h'.dispatches r hr hop) hop

theorem effects (h : Bookkept s s') : s'.effects = s.effects := by rw [h.same]

theorem approvals (h : Bookkept s s') : s'.approvals = s.approvals := by rw [h.same]

theorem receipts (h : Bookkept s s') : s'.receipts = s.receipts := by rw [h.same]

theorem claims (h : Bookkept s s') : s'.claims = s.claims := by rw [h.same]

theorem attempts (h : Bookkept s s') : s'.attempts = s.attempts := by rw [h.same]

theorem workspaceId (h : Bookkept s s') : s'.workspaceId = s.workspaceId := by rw [h.same]

end Bookkept

theorem contextPrincipal_spec {ctx : PrincipalContext} {caller : Principal}
    (h : s.contextPrincipal rt ctx = .ok (s', caller)) : Bookkept s s' := by
  unfold contextPrincipal at h
  cases hid : ctx.principalId.filter (· ≠ "") with
  | some id =>
    simp only [hid, bind_eq_ok, pure_eq_ok, Prod.mk.injEq] at h
    obtain ⟨_, -, -, -, rfl, -⟩ := h
    exact .refl
  | none =>
    simp only [hid, bind_eq_ok, pure_eq_ok, Prod.mk.injEq] at h
    obtain ⟨_, -, _, -, rfl, -⟩ := h
    exact ⟨rfl, fun _ hr _ => hr⟩

theorem recordEvent_spec {label : String} {caller : Principal}
    (h : s.recordEvent rt label caller = .ok s') : Bookkept s s' := by
  simp only [recordEvent, bind_eq_ok, pure_eq_ok] at h
  obtain ⟨_, -, rfl⟩ := h
  exact ⟨rfl, fun _ hr _ => hr⟩

/-! ### Idempotency -/

theorem retryRow_spec {callerScope : CallerScope} {operation : IdempotentOperation} {key : String}
    {r : IdempotencyRecord} (h : s.retryRow callerScope operation key = some r) :
    r ∈ s.retries ∧ r.operation = operation := by
  have hp := List.find?_some h
  simp only [decide_eq_true_eq] at hp
  exact ⟨List.mem_of_find?_eq_some h, hp.2.1⟩

theorem dropExpired_spec (p : PreparedIdempotency) :
    Bookkept s (s.dropExpired p) ∧ ∀ r ∈ (s.dropExpired p).retries, r ∈ s.retries := by
  have hsub : ∀ r ∈ (s.dropExpired p).retries, r ∈ s.retries := by
    intro r hr
    exact (List.mem_filter.1 hr).1
  exact ⟨⟨rfl, fun r hr _ => hsub r hr⟩, hsub⟩

theorem findIdempotencyResult_spec {prepared : Option PreparedIdempotency}
    {prior : Option IdempotencyRecord}
    (h : s.findIdempotencyResult prepared = .ok (s', prior)) :
    Bookkept s s' ∧ ∀ r ∈ prior, r ∈ s.retries ∧ ∃ p ∈ prepared, r.operation = p.operation := by
  cases prepared with
  | none =>
    simp only [findIdempotencyResult, pure_eq_ok, Prod.mk.injEq] at h
    obtain ⟨rfl, rfl⟩ := h
    exact ⟨.refl, by simp⟩
  | some p =>
    simp only [findIdempotencyResult, bind_eq_ok, refuse_eq_ok, pure_eq_ok, Prod.mk.injEq] at h
    obtain ⟨-, -, rfl, rfl⟩ := h
    obtain ⟨hkept, hsub⟩ := dropExpired_spec (s := s) p
    refine ⟨hkept, ?_⟩
    intro r hr
    rcases hrow : (s.dropExpired p).retryRow p.callerScope p.operation p.key with _ | row
    · rw [hrow] at hr
      have hlegacy : (s.dropExpired p).retryRow .legacy p.operation p.key = some r := hr
      obtain ⟨hmem, hop⟩ := retryRow_spec hlegacy
      exact ⟨hsub r hmem, p, rfl, hop⟩
    · rw [hrow] at hr
      obtain rfl : row = r := by simpa using hr
      obtain ⟨hmem, hop⟩ := retryRow_spec hrow
      exact ⟨hsub row hmem, p, rfl, hop⟩

theorem prepareIdempotency_operation {workspaceId : String} {ctx : PrincipalContext}
    {operation : IdempotentOperation} {request : RetryRequest} {retentionMs : Option ℕ}
    {identity : Option PreparedIdempotency}
    (h : prepareIdempotency rt workspaceId ctx operation request retentionMs = .ok identity) :
    ∀ p ∈ identity, p.operation = operation := by
  unfold prepareIdempotency at h
  cases hkey : ctx.idempotencyKey with
  | none =>
    simp only [hkey, pure_eq_ok] at h
    subst h
    simp
  | some key =>
    simp only [hkey, bind_eq_ok, pure_eq_ok] at h
    obtain ⟨-, -, -, -, -, -, _, -, rfl⟩ := h
    intro p hp
    obtain rfl := Option.mem_some.1 hp
    rfl

/-- What looking up an earlier call finds. -/
theorem retryResult_spec {ctx : PrincipalContext} {operation : IdempotentOperation}
    {request : RetryRequest} {retentionMs : Option ℕ} {prior : Option IdempotencyRecord}
    {identity : Option PreparedIdempotency}
    (h : s.retryResult rt ctx operation request retentionMs = .ok (s', prior, identity)) :
    Bookkept s s' ∧ (∀ r ∈ prior, r ∈ s.retries ∧ r.operation = operation) ∧
      ∀ p ∈ identity, p.operation = operation := by
  simp only [retryResult, bind_eq_ok, Prod.exists, pure_eq_ok, Prod.mk.injEq] at h
  obtain ⟨_, hidentity, _, _, hfind, rfl, rfl, rfl⟩ := h
  have hop := prepareIdempotency_operation hidentity
  obtain ⟨hkept, hprior⟩ := findIdempotencyResult_spec hfind
  refine ⟨hkept, ?_, hop⟩
  intro r hr
  obtain ⟨hmem, p, hp, hrop⟩ := hprior r hr
  exact ⟨hmem, hrop.trans (hop p hp)⟩

/-- Looking up an earlier call touches the records of calls alone. -/
theorem retryResult_same {ctx : PrincipalContext} {operation : IdempotentOperation}
    {request : RetryRequest} {retentionMs : Option ℕ} {prior : Option IdempotencyRecord}
    {identity : Option PreparedIdempotency}
    (h : s.retryResult rt ctx operation request retentionMs = .ok (s', prior, identity)) :
    s' = { s with retries := s'.retries } := by
  simp only [retryResult, bind_eq_ok, Prod.exists, pure_eq_ok, Prod.mk.injEq] at h
  obtain ⟨prepared, -, _, _, hfind, rfl, -⟩ := h
  cases prepared with
  | none =>
    simp only [findIdempotencyResult, pure_eq_ok, Prod.mk.injEq] at hfind
    rw [← hfind.1]
  | some p =>
    simp only [findIdempotencyResult, bind_eq_ok, pure_eq_ok, Prod.mk.injEq] at hfind
    obtain ⟨-, -, rfl, -⟩ := hfind
    rfl

/-- What saving a call writes. -/
theorem saveIdempotencyResult_spec {identity : Option PreparedIdempotency}
    {operation : IdempotentOperation} (hop : ∀ p ∈ identity, p.operation = operation)
    {revision : Option ℕ} (h : s.saveIdempotencyResult identity id revision = .ok s') :
    s' = { s with retries := s'.retries } ∧ ∀ r ∈ s'.retries, r ∈ s.retries ∨
      r.operation = operation ∧ r.resultId = id ∧ r.resultRevision = revision := by
  cases identity with
  | none =>
    simp only [saveIdempotencyResult, pure_eq_ok] at h
    subst h
    exact ⟨rfl, fun _ hr => .inl hr⟩
  | some p =>
    simp only [saveIdempotencyResult, bind_eq_ok, refuse_eq_ok, pure_eq_ok] at h
    obtain ⟨-, -, -, -, rfl⟩ := h
    refine ⟨rfl, ?_⟩
    intro r hr
    rcases List.mem_append.1 hr with hold | hnew
    · exact .inl hold
    · obtain rfl := List.mem_singleton.1 hnew
      exact .inr ⟨hop p rfl, rfl, rfl⟩

/-- Saving a call that is no dispatch is bookkeeping. -/
theorem saveIdempotencyResult_bookkept {identity : Option PreparedIdempotency}
    {operation : IdempotentOperation} (hop : ∀ p ∈ identity, p.operation = operation)
    (hother : operation ≠ .effectExecutionBegin) {revision : Option ℕ}
    (h : s.saveIdempotencyResult identity id revision = .ok s') : Bookkept s s' := by
  obtain ⟨hsame, hnew⟩ := saveIdempotencyResult_spec hop h
  constructor
  · rw [hsame]
  · intro r hr hbegin
    rcases hnew r hr with hold | ⟨hrop, -⟩
    · exact hold
    · exact absurd (hrop.symm.trans hbegin) hother

/-! ### Updates -/

/-- What the triggers and constraints ask of an update. -/
structure Updates (s : EffectStore) (id : UuidV7) (old new : Effect) : Prop where
  revision : new.revision = old.revision + 1
  identity : Effect.SameIdentity old new
  next : new.status ∈ old.status.next
  authority : new.status = .authorized → s.HasAuthority id new new.authorizedAt
  dispatch : new.status = .executing → s.HasAuthority id new new.executionStartedAt
  live_claim : new.status = .executing → s.HasLiveClaim new
  live_task : new.status = .executing → ∃ t ∈ s.tasks[new.taskId]?,
    t.deletedAt = none ∧ t.status ≠ .done ∧ t.status ≠ .cancelled
  running_attempt : new.status = .executing → s.HasRunningAttempt new
  no_outcome : new.status ∈ [.proposed, .authorized, .executing, .cancelled] →
    new.outcomeReceiptId = none
  outcome : new.status ∈ [.indeterminate, .committed, .failed] → s.HasOutcomeReceipt id old new
  checked : new.Checked id

theorem updateEffect_eq_ok {old new : Effect} :
    s.updateEffect id old new = .ok s' ↔
      s.Updates id old new ∧ { s with effects := s.effects.insert id new } = s' := by
  simp only [updateEffect, bind_eq_ok, refuse_eq_ok, pure_eq_ok, exists_const, not_and, not_not,
    Bool.not_eq_true, Option.isSome_eq_false_iff, Option.isNone_iff_eq_none]
  constructor
  · rintro ⟨h1, h2, h3, h4, h5, h6, h7, h8, h9, h10, h11, h⟩
    exact ⟨⟨h1, h2, h3, h4, h5, h6, h7, h8, h9, h10, h11⟩, h⟩
  · rintro ⟨⟨h1, h2, h3, h4, h5, h6, h7, h8, h9, h10, h11⟩, h⟩
    exact ⟨h1, h2, h3, h4, h5, h6, h7, h8, h9, h10, h11, h⟩

theorem setEffect_eq_ok {expectedRevision : ℕ} {f : Effect → Effect} {new : Effect} :
    s.setEffect id expectedRevision f = .ok (s', new) ↔
      ∃ old, s.effects[id]? = some old ∧ old.revision = expectedRevision ∧
        { f old with revision := old.revision + 1 } = new ∧ s.Updates id old new ∧
        { s with effects := s.effects.insert id new } = s' := by
  simp only [setEffect, bind_eq_ok, demand_eq_ok, updateEffect_eq_ok, pure_eq_ok, Prod.mk.injEq,
    Option.filter_eq_some_iff, decide_eq_true_eq]
  constructor
  · rintro ⟨old, ⟨hrow, hrevision⟩, t, ⟨hupdates, ht⟩, rfl, rfl⟩
    exact ⟨old, hrow, hrevision, rfl, hupdates, ht⟩
  · rintro ⟨old, hrow, hrevision, rfl, hupdates, rfl⟩
    exact ⟨old, ⟨hrow, hrevision⟩, _, ⟨hupdates, rfl⟩, rfl, rfl⟩

end EffectStore

end Tasq
