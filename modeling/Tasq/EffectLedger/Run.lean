import Mathlib.Tactic
import Tasq.EffectLedger.Moves
import Tasq.Ideal
import Tasq.Lib.Run

/-! Runs of the effect ledger: calls of any callers at any times, between which the other services
    write any rows of theirs. A call that is refused changes nothing.

    `step_moves` is the step lemma: whatever a call does is one of `Moves`. -/

namespace Tasq

open Text Outcome Run

/-- One call, or work of the other services. -/
inductive EffectAction where
  | propose (input : EffectProposal) (ctx : PrincipalContext) (freshId : UuidV7)
  | decide (input : EffectApprovalDecision) (ctx : PrincipalContext)
      (supplied : Option AuthorityVerification) (freshId : UuidV7)
  | authorize (effectId approvalId : UuidV7) (expectedRevision : ℕ) (ctx : PrincipalContext)
  | begin (effectId : UuidV7) (options : EffectStore.BeginOptions) (ctx : PrincipalContext)
  | report (input : EffectReceiptInput) (expectedRevision : ℕ) (verifier : EffectReceiptVerifier)
      (ctx : PrincipalContext) (freshReceiptId freshEvidenceId : UuidV7)
  | cancel (effectId : UuidV7) (reason : String) (expectedRevision : ℕ) (ctx : PrincipalContext)
  | acquire (taskId : UuidV7) (options : AcquireClaimOptions) (ctx : PrincipalContext)
      (freshId : UuidV7)
  | release (taskId : UuidV7) (options : ReleaseClaimOptions) (ctx : PrincipalContext)
  | elsewhere (work : Coordination) (others : OtherIds)

namespace EffectStore

variable (rt : EffectRuntime)

/-- A ledger without effects, beside the work of the other services. -/
def opening (workspaceId : String) (work : Coordination) (others : OtherIds) : EffectStore where
  toCoordination := work
  workspaceId := workspaceId
  effects := ∅
  approvals := ∅
  receipts := ∅
  retries := []
  others := others

/-- What an action leaves. -/
def step (s : EffectStore) : EffectAction → EffectStore
  | .propose input ctx freshId => settle s (Prod.fst <$> s.proposeEffect rt input ctx freshId)
  | .decide input ctx supplied freshId =>
    settle s (Prod.fst <$> s.recordEffectApproval rt input ctx supplied freshId)
  | .authorize effectId approvalId expectedRevision ctx =>
    settle s (Prod.fst <$> s.authorizeEffect rt effectId approvalId expectedRevision ctx)
  | .begin effectId options ctx =>
    settle s (Prod.fst <$> s.beginEffectExecution rt effectId options ctx)
  | .report input expectedRevision verifier ctx freshReceiptId freshEvidenceId =>
    settle s (Prod.fst <$> s.recordEffectReceipt rt input expectedRevision verifier ctx
      freshReceiptId freshEvidenceId)
  | .cancel effectId reason expectedRevision ctx =>
    settle s (Prod.fst <$> s.cancelEffect rt effectId reason expectedRevision ctx)
  | .acquire taskId options ctx freshId =>
    settle s (Prod.fst <$> s.acquireTaskClaim rt taskId options ctx freshId)
  | .release taskId options ctx => settle s (Prod.fst <$> s.releaseTaskClaim rt taskId options ctx)
  | .elsewhere work others => { s with toCoordination := work, others := others }

/-- The state is reached from an empty ledger. -/
def Reachable (s : EffectStore) : Prop :=
  ∃ workspaceId work others actions, run (step rt) (opening workspaceId work others) actions = s

/-- The permit that a call answers. -/
def issued (s : EffectStore) : EffectAction → Option EffectDispatchPermitPayload
  | .begin effectId options ctx =>
    match s.beginEffectExecution rt effectId options ctx with
    | .ok answer => some answer.2.2.payload
    | .error _ => none
  | _ => none

variable {rt} {s : EffectStore}

theorem SameLedger.refl : SameLedger s s := ⟨rfl, rfl, rfl, fun _ hr _ => hr⟩

/-- CORRECT: whatever a call does is one of the moves. -/
theorem step_moves (a : EffectAction) : Moves rt s (s.step rt a) := by
  have hstays : Moves rt s s := .stays .refl
  cases a with
  | propose input ctx freshId =>
    refine settle_fst_rule hstays fun s' e h => ?_
    rcases proposeEffect_spec h with hsame | ⟨id, e, hproposes⟩
    · exact .stays hsame
    · exact .proposes id e hproposes
  | decide input ctx supplied freshId =>
    refine settle_fst_rule hstays fun s' a h => ?_
    rcases recordEffectApproval_spec h with hsame | ⟨id, a, hdecides⟩
    · exact .stays hsame
    · exact .decides id a hdecides
  | authorize effectId approvalId expectedRevision ctx =>
    refine settle_fst_rule hstays fun s' e h => ?_
    rcases authorizeEffect_spec h with hsame | ⟨old, new, hauthorizes⟩
    · exact .stays hsame
    · exact .authorizes effectId old new hauthorizes
  | begin effectId options ctx =>
    refine settle_fst_rule hstays fun s' answer h => ?_
    rcases beginEffectExecution_spec h with ⟨hkept, -⟩ | ⟨old, _, claim, _, hbegins, -⟩
    · exact .stays hkept.sameLedger
    · exact .begins effectId old answer.1 options.claimId claim hbegins
  | report input expectedRevision verifier ctx freshReceiptId freshEvidenceId =>
    refine settle_fst_rule hstays fun s' r h => ?_
    rcases recordEffectReceipt_spec h with hsame | ⟨id, old, new, receiptId, r, hresolves⟩
    · exact .stays hsame
    · exact .resolves id old new receiptId r hresolves
  | cancel effectId reason expectedRevision ctx =>
    refine settle_fst_rule hstays fun s' e h => ?_
    rcases cancelEffect_spec h with hsame | ⟨old, new, hcancels⟩
    · exact .stays hsame
    · exact .cancels effectId old new hcancels
  | acquire taskId options ctx freshId =>
    exact settle_fst_rule hstays fun _ _ h => .stays (acquireTaskClaim_sameLedger h)
  | release taskId options ctx =>
    exact settle_fst_rule hstays fun _ _ h => .stays (releaseTaskClaim_sameLedger h)
  | elsewhere work others => exact .stays ⟨rfl, rfl, rfl, fun _ hr _ => hr⟩

/-- INVARIANT RULE: what the moves preserve holds of every reachable ledger. -/
theorem reachable_invariant {I : EffectStore → Prop}
    (hopening : ∀ workspaceId work others, I (opening workspaceId work others))
    (hmoves : ∀ s s', Moves rt s s' → I s → I s') (hs : Reachable rt s) : I s := by
  obtain ⟨workspaceId, work, others, actions, rfl⟩ := hs
  exact run_invariant' (fun s a hI => hmoves s _ (step_moves a) hI) actions
    (hopening workspaceId work others)

theorem Reachable.step (hs : Reachable rt s) (a : EffectAction) : Reachable rt (s.step rt a) := by
  obtain ⟨workspaceId, work, others, actions, rfl⟩ := hs
  exact ⟨workspaceId, work, others, actions ++ [a], by rw [run_append]; rfl⟩

/-- INVARIANT RULE, from a reachable ledger on. -/
theorem reachable_run {I : EffectStore → Prop}
    (hmoves : ∀ s s', Reachable rt s → Moves rt s s' → I s → I s') (hs : Reachable rt s) (hI : I s)
    (actions : List EffectAction) : Reachable rt (run (EffectStore.step rt) s actions) ∧
      I (run (EffectStore.step rt) s actions) := by
  refine run_invariant' (I := fun s => Reachable rt s ∧ I s) ?_ actions ⟨hs, hI⟩
  rintro t a ⟨ht, hIt⟩
  exact ⟨ht.step a, hmoves t _ ht (step_moves a) hIt⟩

/-! ### Rows under the moves -/

/-- The row of an effect before a move that rewrites one effect. -/
theorem Rewrites.getElem? {s' : EffectStore} {id k : UuidV7} {old new : Effect}
    (h : Rewrites s s' id old new) :
    s'.effects[k]? = if id = k then some new else s.effects[k]? := by
  rw [h.effects, Table.getElem?_insert']

theorem Proposes.getElem? {s' : EffectStore} {id k : UuidV7} {e : Effect}
    (h : Proposes rt s s' id e) :
    s'.effects[k]? = if id = k then some e else s.effects[k]? := by
  rw [h.effects, Table.getElem?_insert']

end EffectStore

/-! ### A run that dispatches an effect -/

/-- An ideal platform, for one request. -/
def plainEffectRuntime : EffectRuntime where
  toRuntime := idealRuntime
  admits _ := true
  effectRequestDigest r := ⟨.str r.effectTypeUri⟩
  effectDispatchKey workspaceId effectId _ :=
    workspaceId ++ ":" ++ String.ofList (List.replicate effectId 'i')
  effectReceiptDigest r := ⟨.str r.externalReceiptId⟩
  retryDigest _ := ⟨.null⟩
  legacyRetryDigest _ := ⟨.null⟩

/-- A commitment in progress. -/
def plainTask : Task where
  toCommitmentFields := (plainCommitment 1 plainTitle ⟨[]⟩).toCommitmentFields
  status := .inProgress
  startedAt := some 1
  completedAt := none
  lastDoneAt := none
  streak := 0
  recurrenceParentId := none
  projectId := none
  goalId := none
  areaId := none
  parentTaskId := none
  validationRequired := false
  revision := 1
  createdAt := 1
  updatedAt := 1
  deletedAt := none

/-- A claim of principal `p` that lasts until 100. -/
def plainClaim : LeasedClaim where
  taskId := 1
  acquiredAt := 1
  createdAt := 1
  releasedAt := none
  actor := "p"
  principalId := some "p"
  revision := 1
  fence := 1
  heartbeatAt := 1
  expiresAt := 100
  releaseReason := none
  metadata := ⟨[]⟩
  updatedAt := 1

/-- The work of principal `p` on commitment 1: claim 2 and attempt 3. -/
def plainWork : Coordination where
  tasks := Std.ExtTreeMap.insert ∅ 1 plainTask
  claims := Std.ExtTreeMap.insert ∅ 2 plainClaim
  attempts := Std.ExtTreeMap.insert ∅ 3 ⟨⟨1, .running, 1⟩, some 2, some "p"⟩
  evidence := ∅
  principals := [⟨"p", some "p", true⟩]
  effectTypes := [("urn:mail", plainVersion)]

/-- A connector. -/
def plainConnector : EffectConnectorBinding :=
  ⟨"urn:send", plainVersion, ⟨.null⟩, "mailer", ⟨.null⟩⟩

/-- The loaded policy of the connector. -/
def plainPolicy : EffectConnectorPolicy where
  effectTypeUri := "urn:mail"
  effectSchemaVersion := plainVersion
  connector := plainConnector
  parseParameters := pure
  evaluateAuthority _ := pure ⟨true, "ok", "ok"⟩

/-- A permit issuer. -/
def plainIssuer : EffectPermitIssuer :=
  ⟨"none", "k", fun _ => pure "0123456789abcdef0123456789abcdef"⟩

/-- A proposal of effect 4. -/
def plainProposal : EffectProposal :=
  ⟨some 4, 1, some 3, ⟨"w", "urn:mail", plainVersion, plainConnector, ⟨[]⟩, []⟩, none, none, .inl rfl⟩

/-- The approval 5 of effect 4, until 90. -/
def plainDecision : EffectApprovalDecision where
  id := some 5
  effectId := 4
  decision := .approved
  scope := ⟨[]⟩
  limits := ⟨[]⟩
  validFrom := none
  expiresAt := some 90
  supersedesApprovalId := none
  revocation h := by cases h
  window _ _ _ h := by cases h

/-- A call of principal `p`. -/
def callAt (now : UnixMs) : PrincipalContext := ⟨none, some "p", none, now⟩

/-- Propose, approve, authorize and begin. -/
def plainActions : List EffectAction :=
  [.propose plainProposal (callAt 10) 0, .decide plainDecision (callAt 11) none 0,
    .authorize 4 5 1 (callAt 12),
    .begin 4 ⟨2, 2, 1, plainPolicy, plainIssuer⟩ (callAt 13)]

/-- The ledger after these calls. -/
def plainLedger : EffectStore :=
  run (EffectStore.step plainEffectRuntime) (.opening "w" plainWork ⟨[], [], [], [], []⟩)
    plainActions

theorem plainLedger_reachable : plainLedger.Reachable plainEffectRuntime :=
  ⟨"w", plainWork, ⟨[], [], [], [], []⟩, plainActions, rfl⟩

example : (plainLedger.effects[4]?.map fun e => (e.status, e.revision, e.fence)) =
    some (.executing, 3, some 1) := by decide +kernel

end Tasq
