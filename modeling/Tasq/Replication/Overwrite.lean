import Mathlib.Tactic
import Tasq.Ideal
import Tasq.Replication.Acceptance
import Tasq.Replication.Producer

/-! What an accepted operation may change.

    An operation changes a commitment only from the state that it names as its base; on any other
    state it is equivalent or leaves a conflict. It changes its own record alone, unless it deletes
    a record that has a live child: the deletion of the task service takes the subtree with it. -/

namespace Tasq

open Text Outcome Ledger

variable {rt : Runtime} {db db' db₁ : Database} {operation : ReplicationOperation}
  {ctx : AcceptContext} {result : ReplicationOperationResult}

/-! ### No silent overwrite -/

/-- The digest of the record of an operation, as the authority has it. -/
def CurrentDigest (rt : Runtime) (db : Database) (operation : ReplicationOperation)
    (digest : Option Digest) : Prop :=
  ∃ current, getProjection db.ledger (operationRecordId operation.command) = .ok current ∧
    current.map rt.stateOf = digest

/-- The record is in the state that the operation intends. -/
structure Equivalent (rt : Runtime) (operation : ReplicationOperation)
    (current : Option ReplicatedCommitmentSnapshot) (intended : ReplicationRecordState) : Prop where
  digest : current.map rt.stateOf = intended.stateDigest
  /-- A verified operation carries the digest of the state itself. -/
  state : rt.CollisionFree → verifyOperation rt operation = .ok () →
    current.map (fun s => canonical (semanticState s)) =
      intended.snapshot.map fun s => canonical (semanticState s)

/-- The conflict of an operation: in the answer with the three states as they are, in the store
    with their canonical forms. -/
def ConflictRecorded (db' : Database) (result : ReplicationOperationResult)
    (base authority incoming : Option ReplicatedCommitmentSnapshot) : Prop :=
  ∃ conflict, result.conflict = some conflict ∧ conflict.baseSnapshot = base ∧
    conflict.authoritySnapshot = authority ∧ conflict.incomingSnapshot = incoming ∧
    db'.conflicts[result.authoritySequence]? = some conflict.stored

/-- Equal state digests are equal states when the operation is verified. -/
theorem equivalent_of_digest {current : Option ReplicatedCommitmentSnapshot}
    {intended : ReplicationRecordState} (hout : operation.outcomes.head? = some intended)
    (h : current.map rt.stateOf = intended.stateDigest) :
    Equivalent rt operation current intended := by
  refine ⟨h, fun hcf hverify => ?_⟩
  obtain ⟨precondition, outcome, state, hv⟩ := (verifyOperation_eq_ok rt operation ()).1 hverify
  obtain rfl : outcome = intended := by simpa [hv.outcomes] using hout
  rw [hv.outcome_digest.2] at h
  cases current with
  | none =>
    have := Option.map_eq_none_iff.1 h.symm
    rw [this]
  | some s =>
    obtain ⟨t, ht, hst⟩ := Option.map_eq_some_iff.1 h.symm
    rw [ht]
    exact congrArg some (hcf.state_eq.1 hst.symm)

/-- OVERWRITE: an operation changes the ledger only on the state that it names as its base. A first
    acceptance on any other state leaves the ledger and is equivalent or conflicted; a retry leaves
    the ledger and answers what was recorded. -/
theorem accept_no_silent_overwrite
    (h : acceptOneOperation rt db operation ctx = .ok (db', result)) :
    (db'.ledger ≠ db.ledger → ∃ precondition, operation.preconditions.head? = some precondition ∧
      CurrentDigest rt db operation precondition.stateDigest) ∧
    (∀ prior, db.acceptedAt operation.origin = some prior →
      db'.ledger = db.ledger ∧ db'.conflicts = db.conflicts ∧ result = prior.result.trimmed) ∧
    (db.acceptedAt operation.origin = none → ∃ precondition intended current,
      operation.preconditions.head? = some precondition ∧
      operation.outcomes.head? = some intended ∧
      getProjection db.ledger (operationRecordId operation.command) = .ok current ∧
      (current.map rt.stateOf ≠ precondition.stateDigest →
        db'.ledger = db.ledger ∧
          (result.disposition = .equivalent ∧ Equivalent rt operation current intended ∨
            result.disposition = .conflicted ∧
              ConflictRecorded db' result precondition.snapshot current intended.snapshot))) := by
  obtain ⟨authority, registration, -, ⟨prior, hr⟩ | ⟨db₁, d, c, ha⟩⟩ := acceptOne_eq_ok.1 h
  · have hledger : db'.ledger = db.ledger := by rw [hr.after_eq]
    refine ⟨fun hne => absurd hledger hne, fun prior' hprior => ?_, fun hnone => ?_⟩
    · obtain rfl : prior = prior' := by simpa [hr.known] using hprior
      exact ⟨hledger, by rw [hr.after_eq], hr.result_eq⟩
    · rw [hr.known] at hnone
      cases hnone
  obtain ⟨precondition, intended, current, hpre, hout, hcurrent, -, hclass⟩ :=
    classify_eq_ok.1 ha.classified
  have hledger : db'.ledger = db₁.ledger := by rw [ha.after_eq]
  have hresult := ha.result_eq
  refine ⟨fun hne => ⟨precondition, hpre, current, hcurrent, ?_⟩, fun prior hprior => ?_, fun _ =>
    ⟨precondition, intended, current, hpre, hout, hcurrent, fun hstale => ?_⟩⟩
  · cases hclass with
    | equivalent => exact absurd hledger hne
    | conflicted _ _ _ _ inserted =>
      obtain ⟨-, -, -, rfl⟩ := Database.insertConflict_eq_ok.1 inserted
      exact absurd hledger hne
    | applied _ _ fresh => exact fresh
  · rw [ha.unknown] at hprior
    cases hprior
  · cases hclass with
    | equivalent same => exact ⟨hledger, .inl ⟨by rw [hresult]; rfl, equivalent_of_digest hout same⟩⟩
    | applied _ _ fresh => exact absurd fresh hstale
    | @conflicted conflict _ _ _ parsed _ inserted =>
      obtain ⟨-, -, -, rfl⟩ := Database.insertConflict_eq_ok.1 inserted
      obtain ⟨-, hconflict⟩ := (ReplicationConflict.parse_eq_ok _ _).1 parsed
      refine ⟨hledger, .inr ⟨by rw [hresult]; rfl, conflict, ?_, ?_, ?_, ?_, ?_⟩⟩
      · rw [hresult, ← hconflict]
        exact congrArg some (ReplicationConflict.trimmed_trimmed _)
      · rw [← hconflict]; rfl
      · rw [← hconflict]; rfl
      · rw [← hconflict]; rfl
      · rw [ha.after_eq, hresult, ← hconflict]
        exact Std.ExtTreeMap.getElem?_insert_self

/-- The creation of commitment 7 at the authority, with the store before and after. -/
def acceptedSeven :
    Call (Database × ReplicationOperation × Database × ReplicationOperationResult) := do
  let db ← plainAuthority
  let replica ← plainReplica
  let (_, queued) ← queueCommand idealRuntime replica createSeven (localAt 10)
  let (db', result) ← acceptOneOperation idealRuntime db queued.operation (servedAt 11)
  pure (db, queued.operation, db', result)

theorem accept_no_silent_overwrite_create :
    ∃ db operation db' result,
      acceptOneOperation idealRuntime db operation (servedAt 11) = .ok (db', result) ∧
      operation.command = createSeven ∧
      (db'.ledger ≠ db.ledger → ∃ precondition, operation.preconditions.head? = some precondition ∧
        CurrentDigest idealRuntime db operation precondition.stateDigest) := by
  obtain ⟨⟨db, operation, db', result⟩, h, hcommand⟩ : Ends acceptedSeven fun outcome =>
      outcome.2.1.command = createSeven := by decide +kernel
  simp only [acceptedSeven, bind_eq_ok, Prod.exists, pure_eq_ok, Prod.mk.injEq] at h
  obtain ⟨_, -, _, -, _, _, -, _, _, haccept, rfl, rfl, rfl, rfl⟩ := h
  exact ⟨_, _, _, _, haccept, hcommand, (accept_no_silent_overwrite haccept).1⟩

/-- A retry after the record has moved on: neither the base nor the outcome of the operation is the
    current state, and the answer is still that the operation was applied. -/
theorem retry_answers_applied :
    Ends (do
      let authority ← plainAuthority
      let replica ← plainReplica
      let (_, queued) ← queueCommand idealRuntime replica createSeven (localAt 10)
      let (authority, _) ← acceptOneOperation idealRuntime authority queued.operation (servedAt 11)
      let (ledger, _) ← applyCommandInTransaction idealRuntime authority.ledger
        (.updateCommitment 7 ⟨{ title := some ⟨"u", by decide⟩ }, by decide⟩) ⟨"p", some "p", 12⟩
      let authority := { authority with ledger := ledger }
      let (_, result) ← acceptOneOperation idealRuntime authority queued.operation (servedAt 13)
      let current ← getProjection authority.ledger 7
      pure (queued.operation, current, result))
      fun (operation, current, result) => result.disposition = .applied ∧
        ∀ s ∈ operation.preconditions ++ operation.outcomes,
          current.map idealRuntime.stateOf ≠ s.stateDigest := by
  decide +kernel

/-! ### Record locality -/

/-- The operation finds its base: the record is not retired and in the state that the operation
    names, which is not the one that it intends. -/
structure FindsBase (rt : Runtime) (db : Database) (operation : ReplicationOperation) : Prop where
  live : operationRecordId operation.command ∉ db.retired
  base : ∀ precondition, operation.preconditions.head? = some precondition →
    CurrentDigest rt db operation precondition.stateDigest
  intended : ∀ intended, operation.outcomes.head? = some intended →
    ¬ CurrentDigest rt db operation intended.stateDigest

/-- A first deletion of a live record that has a live child. -/
structure Cascades (rt : Runtime) (db : Database) (operation : ReplicationOperation) : Prop where
  deletion : operation.command.isDelete = true
  first : db.acceptedAt operation.origin = none
  found : FindsBase rt db operation
  live : ¬ NotLive (operationRecordId operation.command) db.ledger
  child : db.ledger.liveSubtaskIds (operationRecordId operation.command) ≠ []

/-- A deletion that completes changes another row exactly when it finds a live record with a live
    child. -/
theorem delete_record_local_iff {l l' : Ledger} {id : UuidV7} {c : TaskContext}
    {s : ReplicatedCommitmentSnapshot}
    (h : applyCommandInTransaction rt l (.deleteCommitment id) c = .ok (l', s)) :
    (∀ k, k ≠ id → l'.tasks[k]? = l.tasks[k]?) ↔ NotLive id l ∨ l.liveSubtaskIds id = [] := by
  obtain ⟨before, hb, hdelete, -⟩ := (apply_delete id).1 h
  constructor
  · intro hlocal
    by_contra hcascade
    rw [not_or] at hcascade
    obtain ⟨hlive, hchildren⟩ := hcascade
    obtain ⟨child, hchild⟩ := List.exists_mem_of_ne_nil _ hchildren
    obtain ⟨crow, hcrow, hparent, hclive⟩ := mem_liveSubtaskIds.1 hchild
    have hbefore : before.deletedAt = none := by
      simp only [NotLive, hb.found, Option.some.injEq, forall_eq', not_not] at hlive
      exact hlive
    obtain ⟨revision, hdead⟩ := softDelete_child hb.found hbefore hcrow hparent hclive hdelete
    have hne : child ≠ id := by
      rintro rfl
      rw [hb.found, Option.some.injEq] at hcrow
      rw [← hcrow, hb.projectable.flat.parent] at hparent
      cases hparent
    rw [hlocal child hne, hcrow, Option.some.injEq] at hdead
    have := congrArg Task.deletedAt hdead
    simp [hclive, tombstone] at this
  · rintro (hdead | hchildless) k hk
    · have hskip : l.softDeleteTaskTx rt id c.actor c.now = .ok l := softDelete_skip hdead
      rw [hskip, Except.ok.injEq] at hdelete
      rw [hdelete]
    · exact softDelete_childless hk hchildless hdelete

theorem CurrentDigest.iff {current : Option ReplicatedCommitmentSnapshot} {digest : Option Digest}
    (h : getProjection db.ledger (operationRecordId operation.command) = .ok current) :
    CurrentDigest rt db operation digest ↔ current.map rt.stateOf = digest := by
  simp [CurrentDigest, h]

/-- A command that is no deletion writes its record alone, and a deletion does unless it finds a
    live record with a live child. -/
theorem apply_record_local_iff {l l' : Ledger} {command : ReplicationCommand} {c : TaskContext}
    {s : ReplicatedCommitmentSnapshot}
    (h : applyCommandInTransaction rt l command c = .ok (l', s)) :
    (∀ k, k ≠ operationRecordId command → l'.tasks[k]? = l.tasks[k]?) ↔
      ¬ (command.isDelete = true ∧ ¬ NotLive (operationRecordId command) l ∧
        l.liveSubtaskIds (operationRecordId command) ≠ []) := by
  by_cases hdelete : command.isDelete = true
  · obtain ⟨id, rfl⟩ : ∃ id, command = .deleteCommitment id := by
      cases command <;> simp_all [ReplicationCommand.isDelete]
    simp only [operationRecordId, delete_record_local_iff h, ReplicationCommand.isDelete, true_and]
    tauto
  · exact iff_of_true (fun k => apply_frame h (by simpa using hdelete)) fun hc => hdelete hc.1

/-- LOCAL: acceptance leaves every other commitment as it is, unless it cascades. -/
theorem accept_record_local_iff (h : acceptOneOperation rt db operation ctx = .ok (db', result)) :
    (∀ k, k ≠ operationRecordId operation.command →
      db'.ledger.tasks[k]? = db.ledger.tasks[k]?) ↔ ¬ Cascades rt db operation := by
  obtain ⟨authority, registration, -, ⟨prior, hr⟩ | ⟨db₁, d, c, ha⟩⟩ := acceptOne_eq_ok.1 h
  · refine ⟨fun _ hcascade => ?_, fun _ k _ => by rw [hr.after_eq]⟩
    have := hcascade.first
    rw [hr.known] at this
    cases this
  obtain ⟨precondition, intended, current, hpre, hout, hcurrent, -, hclass⟩ :=
    classify_eq_ok.1 ha.classified
  have hledger : db'.ledger = db₁.ledger := by rw [ha.after_eq]
  rw [hledger]
  cases hclass with
  | equivalent same =>
    exact iff_of_true (fun _ _ => rfl) fun hcascade =>
      hcascade.found.intended intended hout ((CurrentDigest.iff hcurrent).2 same)
  | conflicted _ stale _ _ inserted =>
    obtain ⟨-, -, -, rfl⟩ := Database.insertConflict_eq_ok.1 inserted
    refine iff_of_true (fun _ _ => rfl) fun hcascade => ?_
    obtain hretired | hdigest := stale
    · exact hcascade.found.live hretired
    · exact hdigest ((CurrentDigest.iff hcurrent).1 (hcascade.found.base precondition hpre))
  | applied different live fresh effect =>
    rw [apply_record_local_iff effect]
    refine not_congr ⟨fun ⟨hdelete, hlive, hchild⟩ => ⟨hdelete, ha.unknown, ⟨live, ?_, ?_⟩, hlive,
      hchild⟩, fun hcascade => ⟨hcascade.deletion, hcascade.live, hcascade.child⟩⟩
    · intro p hp
      obtain rfl : precondition = p := by simpa [hpre] using hp
      exact (CurrentDigest.iff hcurrent).2 fresh
    · intro i hi hsame
      obtain rfl : intended = i := by simpa [hout] using hi
      refine different ⟨(CurrentDigest.iff hcurrent).1 hsame, ?_⟩
      rintro rfl
      simp only [NotLive, getProjection_eq_none.1 hcurrent] at hlive
      exact hlive (by simp)

theorem accept_record_local_iff_create :
    ∃ db operation db' result,
      acceptOneOperation idealRuntime db operation (servedAt 11) = .ok (db', result) ∧
      operation.command = createSeven ∧
      ((∀ k, k ≠ operationRecordId operation.command →
        db'.ledger.tasks[k]? = db.ledger.tasks[k]?) ↔ ¬ Cascades idealRuntime db operation) := by
  obtain ⟨⟨db, operation, db', result⟩, h, hcommand⟩ : Ends acceptedSeven fun outcome =>
      outcome.2.1.command = createSeven := by decide +kernel
  simp only [acceptedSeven, bind_eq_ok, Prod.exists, pure_eq_ok, Prod.mk.injEq] at h
  obtain ⟨_, -, _, -, _, _, -, _, _, haccept, rfl, rfl, rfl, rfl⟩ := h
  exact ⟨_, _, _, _, haccept, hcommand, accept_record_local_iff haccept⟩

/-- Accepting the deletion of commitment 7 deletes commitment 8, a local subtask of it. -/
theorem accepted_delete_takes_child :
    Ends (do
      let authority ← plainAuthority
      let replica ← plainReplica
      let (replica, created) ← queueCommand idealRuntime replica createSeven (localAt 10)
      let (_, deleted) ← queueCommand idealRuntime replica (.deleteCommitment 7) (localAt 11)
      let (authority, _) ← acceptOneOperation idealRuntime authority created.operation (servedAt 12)
      let (ledger, _) ← authority.ledger.createTaskInTransaction idealRuntime
        { TaskInsert.ofCreate (plainCommitment 8 ⟨"c", by decide⟩ ⟨[]⟩) with
          parentTaskId := some 7 } ⟨"p", some "p", 13⟩
      let authority := { authority with ledger := ledger }
      let (after, result) ← acceptOneOperation idealRuntime authority deleted.operation (servedAt 14)
      pure (authority, after, result))
      fun (before, after, result) => result.disposition = .applied ∧
        before.ledger.tasks[8]?.map Task.deletedAt = some none ∧
        after.ledger.tasks[8]?.map Task.deletedAt = some (some 14) := by
  decide +kernel

end Tasq
