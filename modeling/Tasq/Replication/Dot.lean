import Mathlib.Tactic
import Tasq.Replication.AuthorityRun

/-! A dot has at most one effect: whatever order, batching, retrying and pruning a run of the
    authority has, the first completed transaction on a dot consumes one authority sequence and
    every later one changes nothing and answers the same.

    A dot is a replica, a generation of it and a counter; a generation starts its counters afresh. -/

namespace Tasq

open Text Outcome Run

variable {rt : Runtime} {db db' : Database}

/-- The dot of an operation. -/
def ReplicationOperation.dot (operation : ReplicationOperation) : Generation × ℕ :=
  (operation.origin.generation, operation.origin.counter)

/-- The dot of an accepted row. -/
def AcceptedRow.dot (row : AcceptedRow) : Generation × ℕ := (row.generation, row.counter)

namespace Transaction

/-- The transaction changed neither the ledger nor the sequence. -/
structure Quiet (t : Transaction) : Prop where
  ledger : t.after.ledger = t.db.ledger
  sequence : t.after.sequence = t.db.sequence

/-- The transaction consumed the next sequence and answered it. -/
structure Consumes (t : Transaction) : Prop where
  sequence : t.after.sequence = t.db.sequence + 1
  answered : t.result.authoritySequence = t.db.sequence + 1

/-- The transaction took a sequence. -/
def took (t : Transaction) : Bool := t.after.sequence ≠ t.db.sequence

/-- The row of the log that answers the transaction. -/
structure RecordedAs (t : Transaction) (row : AcceptedRow) : Prop where
  dot : row.dot = t.operation.dot
  digest : row.operationDigest = t.operation.operationDigest
  disposition : row.disposition = t.result.disposition

/-- The log answers the transaction. -/
def Recorded (t : Transaction) (history : History) : Prop :=
  ∃ row, history t.result.authoritySequence = some row ∧ t.RecordedAs row

end Transaction

/-- The log has a row of the dot. -/
def History.Knows (history : History) (dot : Generation × ℕ) : Prop :=
  ∃ s row, history s = some row ∧ row.dot = dot

/-- Everything recorded stays recorded. -/
def History.Extends (history history' : History) : Prop :=
  ∀ s row, history s = some row → history' s = some row

/-! ### The retained row of a dot -/

/-- The retained row of an origin. -/
theorem acceptedAt_eq_some {origin : OperationOrigin} {prior : AcceptedRow}
    (h : db.acceptedAt origin = some prior) :
    ∃ s : ℕ, db.accepted[s]? = some prior ∧
      prior.dot = (origin.generation, origin.counter) := by
  obtain ⟨⟨s, row⟩, hhead, rfl⟩ := Option.map_eq_some_iff.1 h
  have hmem := Table.mem_rows.1 (List.mem_of_head? hhead)
  simp only [Bool.and_eq_true, decide_eq_true_eq] at hmem
  exact ⟨s, hmem.1, by
    simp [AcceptedRow.dot, AcceptedRow.generation, OperationOrigin.generation, hmem.2]⟩

/-- In a log that has a dot once, its retained row is the one that is found. -/
theorem Logged.acceptedAt {history : History} (hlog : Logged rt db history) {s : ℕ}
    {row : AcceptedRow} {origin : OperationOrigin} (hrow : db.accepted[s]? = some row)
    (hdot : row.dot = (origin.generation, origin.counter)) : db.acceptedAt origin = some row := by
  simp only [AcceptedRow.dot, Prod.mk.injEq] at hdot
  have hrows : ∃ e, (Table.rows db.accepted fun _ r => r.replicaId = origin.replicaId &&
      r.generationId = origin.generationId && r.counter = origin.counter).head? = some e := by
    rw [← Option.isSome_iff_exists, List.isSome_head?, Ne, Table.rows_eq_nil]
    intro h
    have hgeneration := hdot.1
    simp only [AcceptedRow.generation, OperationOrigin.generation, generation_inj] at hgeneration
    simpa [hgeneration, hdot.2] using h s row hrow
  obtain ⟨⟨s', row'⟩, hhead⟩ := hrows
  have hfound : db.acceptedAt origin = some row' := by
    simp [Database.acceptedAt, hhead]
  obtain ⟨s₁, hrow₁, hdot₁⟩ := acceptedAt_eq_some hfound
  simp only [AcceptedRow.dot, Prod.mk.injEq] at hdot₁
  have hs : s = s₁ := hlog.dot_unique (hlog.retained s row hrow) (hlog.retained s₁ row' hrow₁)
    (hdot.1.trans hdot₁.1.symm) (hdot.2.trans hdot₁.2.symm)
  subst hs
  rw [hfound, ← hrow₁, hrow]

/-! ### One transaction -/

theorem History.Knows.extend {history history' : History} {dot : Generation × ℕ}
    (h : history.Knows dot) (hext : history.Extends history') : history'.Knows dot := by
  obtain ⟨s, row, hs, hdot⟩ := h
  exact ⟨s, row, hext s row hs, hdot⟩

theorem Transaction.Recorded.extend {t : Transaction} {history history' : History}
    (h : t.Recorded history) (hext : history.Extends history') : t.Recorded history' := by
  obtain ⟨row, hs, hrow⟩ := h
  exact ⟨row, hext _ row hs, hrow⟩

theorem Transaction.Recorded.knows {t : Transaction} {history : History}
    (h : t.Recorded history) : history.Knows t.operation.dot := by
  obtain ⟨row, hs, hrow⟩ := h
  exact ⟨_, row, hs, hrow.dot⟩

/-- TRANSACTION: on a dot that the log knows nothing changes; on a new one a sequence is consumed
    and the log grows by the row of the dot. -/
theorem transact_cases {t : Transaction} {history : History} (hlog : Logged rt t.db history)
    (hadmissible : Admissible rt t.operation)
    (haccept : acceptOneOperation rt t.db t.operation t.ctx = .ok (t.after, t.result)) :
    (t.Quiet ∧ t.Recorded history ∧ Logged rt t.after history) ∨
      (t.Consumes ∧ ¬ history.Knows t.operation.dot ∧
        ∃ history', Logged rt t.after history' ∧ history.Extends history' ∧ t.Recorded history' ∧
          ∀ dot, history'.Knows dot → history.Knows dot ∨ dot = t.operation.dot) := by
  obtain ⟨authority, registration, hadmits, ⟨prior, hretry⟩ | ⟨db₁, d, c, haccepts⟩⟩ :=
    acceptOne_eq_ok.1 haccept
  · left
    obtain ⟨s, hrow, hdot⟩ := acceptedAt_eq_some hretry.known
    have hkept := hlog.retained s prior hrow
    have hfaithful := hlog.faithful s prior hkept
    have hsame : SameLog t.db t.after := by
      rw [hretry.after_eq]
      exact .insert hadmits.registered ⟨rfl, rfl, rfl⟩
    refine ⟨⟨?_, hsame.sequence⟩, ⟨prior, ?_, hdot, hretry.digest, ?_⟩, hlog.same hsame⟩
    · rw [hretry.after_eq]
    · rw [hretry.result_eq]
      change history prior.result.authoritySequence = some prior
      rw [hfaithful.result_sequence, hkept]
    · rw [hretry.result_eq]
      exact hfaithful.result_disposition.symm
  · right
    have hsequence : t.db.sequence = authority.currentSequence := by
      simp [Database.sequence, hadmits.authority_eq]
    have hanswered : t.result.authoritySequence = t.db.sequence + 1 := by
      rw [haccepts.result_eq, hsequence]
      rfl
    have hnew : ¬ history.Knows t.operation.dot := by
      rintro ⟨s, row, hs, hdot⟩
      simp only [AcceptedRow.dot, ReplicationOperation.dot, Prod.mk.injEq] at hdot
      obtain ⟨reg, hreg, hle⟩ := hlog.bounded s row hs
      rw [hdot.1, hadmits.registered, Option.some.injEq] at hreg
      have hcounter := haccepts.counter
      rw [← hreg, hdot.2] at hle
      omega
    refine ⟨⟨?_, hanswered⟩, hnew, _, hlog.accept hadmits haccepts hadmissible.digest, ?_, ?_, ?_⟩
    · rw [haccepts.after_eq, hsequence]
      rfl
    · intro s row hs
      have hne : s ≠ t.db.sequence + 1 := by
        have := ((hlog.filled s).1 ⟨row, hs⟩).2
        omega
      rw [Function.update_of_ne hne, hs]
    · refine ⟨_, by rw [hanswered, Function.update_self], rfl, rfl, rfl⟩
    · rintro dot ⟨s, row, hs, rfl⟩
      by_cases heq : s = t.db.sequence + 1
      · rw [heq, Function.update_self, Option.some.injEq] at hs
        exact .inr (hs ▸ rfl)
      · rw [Function.update_of_ne heq] at hs
        exact .inl ⟨s, row, hs, rfl⟩

/-! ### A path -/

/-- What the log says of the transactions of a path. -/
structure PathRecorded (rt : Runtime) (history : History) (ts : List Transaction) (db db' : Database)
    (history' : History) : Prop where
  logged : Logged rt db' history'
  extends' : history.Extends history'
  recorded : ∀ t ∈ ts, t.Recorded history'
  quiet : ∀ t ∈ ts, history.Knows t.operation.dot → t.Quiet
  consumed : ∀ t ∈ ts, history.Knows t.operation.dot ∨
    ∃ u ∈ ts, u.operation.dot = t.operation.dot ∧ u.Consumes
  repeated : ts.Pairwise fun t u => t.operation.dot = u.operation.dot → u.Quiet
  cases : ∀ t ∈ ts, t.Quiet ∨ t.Consumes
  consecutive : (ts.filter Transaction.took).map (·.result.authoritySequence) =
    List.range' (db.sequence + 1) (db'.sequence - db.sequence)
  grows : db.sequence ≤ db'.sequence

/-- PATH: by induction on the path; a transaction adds at most its own dot to the log, so the
    transactions after it on that dot are quiet. -/
theorem Path.recorded {ts : List Transaction} (h : Path rt db ts db') {history : History}
    (hlog : Logged rt db history) : ∃ history', PathRecorded rt history ts db db' history' := by
  induction h generalizing history with
  | done db =>
    refine ⟨history, hlog, fun _ _ hs => hs, ?_, ?_, ?_, .nil, ?_, ?_, le_rfl⟩ <;> simp
  | quiet same _ ih =>
    obtain ⟨history', hr⟩ := ih (hlog.same same)
    refine ⟨history', hr.logged, hr.extends', hr.recorded, hr.quiet, hr.consumed, hr.repeated,
      hr.cases, ?_, ?_⟩
    · rw [hr.consecutive, same.sequence]
    · rw [← same.sequence]
      exact hr.grows
  | @transact t db' ts admissible accepted _ ih =>
    obtain ⟨hquiet, hrecorded, hafter⟩ | ⟨hconsumes, hnew, history₁, hafter, hext, hrecorded, honly⟩ :=
      transact_cases hlog admissible accepted
    · obtain ⟨history', hr⟩ := ih hafter
      have hknown := hrecorded.knows
      refine ⟨history', hr.logged, hr.extends', ?_, ?_, ?_, ?_, ?_, ?_, ?_⟩
      · exact List.forall_mem_cons.2 ⟨hrecorded.extend hr.extends', hr.recorded⟩
      · exact List.forall_mem_cons.2 ⟨fun _ => hquiet, hr.quiet⟩
      · refine List.forall_mem_cons.2 ⟨.inl hknown, fun u hu => ?_⟩
        obtain hk | ⟨v, hv, hdot⟩ := hr.consumed u hu
        · exact .inl hk
        · exact .inr ⟨v, .tail _ hv, hdot⟩
      · exact List.pairwise_cons.2 ⟨fun u hu hdot => hr.quiet u hu (hdot ▸ hknown), hr.repeated⟩
      · exact List.forall_mem_cons.2 ⟨.inl hquiet, hr.cases⟩
      · rw [List.filter_cons_of_neg (by simp [Transaction.took, hquiet.sequence]), hr.consecutive,
          hquiet.sequence]
      · rw [← hquiet.sequence]
        exact hr.grows
    · obtain ⟨history', hr⟩ := ih hafter
      have hseq := hconsumes.sequence
      have hgrows := hr.grows
      refine ⟨history', hr.logged, fun s row hs => hr.extends' s row (hext s row hs), ?_, ?_, ?_, ?_,
        ?_, ?_, ?_⟩
      · exact List.forall_mem_cons.2 ⟨hrecorded.extend hr.extends', hr.recorded⟩
      · exact List.forall_mem_cons.2 ⟨fun hk => absurd hk hnew,
          fun u hu hk => hr.quiet u hu (hk.extend hext)⟩
      · refine List.forall_mem_cons.2 ⟨.inr ⟨t, .head _, rfl, hconsumes⟩, fun u hu => ?_⟩
        obtain hk | ⟨v, hv, hdot⟩ := hr.consumed u hu
        · obtain hk | hdot := honly _ hk
          · exact .inl hk
          · exact .inr ⟨t, .head _, hdot.symm, hconsumes⟩
        · exact .inr ⟨v, .tail _ hv, hdot⟩
      · exact List.pairwise_cons.2 ⟨fun u hu hdot => hr.quiet u hu (hdot ▸ hrecorded.knows),
          hr.repeated⟩
      · exact List.forall_mem_cons.2 ⟨.inr hconsumes, hr.cases⟩
      · rw [List.filter_cons_of_pos (by simp [Transaction.took, hseq]), List.map_cons,
          hr.consecutive, hconsumes.answered, hseq]
        obtain ⟨n, hn⟩ := Nat.exists_eq_add_of_le (hseq ▸ hgrows)
        rw [hn, show t.db.sequence + 1 + n - (t.db.sequence + 1) = n by omega,
          show t.db.sequence + 1 + n - t.db.sequence = n + 1 by omega, List.range'_succ]
      · omega

/-! ### A run -/

/-- What a run promises of the dots of its transactions. -/
structure ExactlyOnce (rt : Runtime) (ts : List Transaction) (db : Database) : Prop where
  /-- Of two transactions on one dot, the later changes nothing and answers the same. -/
  repeated : ts.Pairwise fun t u => t.operation.dot = u.operation.dot →
    u.Quiet ∧ u.result.disposition = t.result.disposition ∧
      u.result.authoritySequence = t.result.authoritySequence
  /-- Every accepted dot consumes a sequence; by `repeated`, only one. -/
  consumed : ∀ t ∈ ts, ∃ u ∈ ts, u.operation.dot = t.operation.dot ∧ u.Consumes
  /-- Without a sequence, nothing changes. -/
  cases : ∀ t ∈ ts, t.Quiet ∨ t.Consumes
  /-- The sequences are consecutive. -/
  consecutive : (ts.filter Transaction.took).map (·.result.authoritySequence) =
    List.range' 1 db.sequence
  /-- An operation presented again while its row is retained is answered exactly when it is
      admitted and its proof can be stored, with the same answer and no change. -/
  retried : ∀ t ∈ ts, t.result.authoritySequence ∈ db.accepted → ∀ ctx,
    (Completes (acceptOneOperation rt db t.operation ctx) ↔
      (∃ authority registration, Admits db t.operation ctx authority registration) ∧
        persistSignedOrigin ctx.signedOrigin = .ok ()) ∧
    ∀ after result, acceptOneOperation rt db t.operation ctx = .ok (after, result) →
      result.disposition = t.result.disposition ∧
        result.authoritySequence = t.result.authoritySequence ∧
        after.ledger = db.ledger ∧ after.sequence = db.sequence

/-- A recorded operation, presented again while its row is retained. -/
theorem Transaction.Recorded.retry {t : Transaction} {history : History} (h : t.Recorded history)
    (hlog : Logged rt db history) (hretained : t.result.authoritySequence ∈ db.accepted)
    (ctx : AcceptContext) :
    (Completes (acceptOneOperation rt db t.operation ctx) ↔
      (∃ authority registration, Admits db t.operation ctx authority registration) ∧
        persistSignedOrigin ctx.signedOrigin = .ok ()) ∧
    ∀ after result, acceptOneOperation rt db t.operation ctx = .ok (after, result) →
      result.disposition = t.result.disposition ∧
        result.authoritySequence = t.result.authoritySequence ∧
        after.ledger = db.ledger ∧ after.sequence = db.sequence := by
  obtain ⟨row, hs, hrow⟩ := h
  obtain ⟨row', hrow'⟩ : ∃ row', db.accepted[t.result.authoritySequence]? = some row' :=
    ⟨_, Std.ExtTreeMap.getElem?_eq_some_getElem hretained⟩
  obtain rfl : row = row' := by simpa [hs] using hlog.retained _ row' hrow'
  have hfaithful := hlog.faithful _ row hs
  have hknown : db.acceptedAt t.operation.origin = some row := hlog.acceptedAt hrow' hrow.dot
  constructor
  · constructor
    · rintro ⟨⟨after, result⟩, haccept⟩
      obtain ⟨authority, registration, hadmits, ⟨prior, hretry⟩ | ⟨db₁, d, c, haccepts⟩⟩ :=
        acceptOne_eq_ok.1 haccept
      · exact ⟨⟨authority, registration, hadmits⟩, hretry.persisted⟩
      · simp [haccepts.unknown] at hknown
    · rintro ⟨⟨authority, registration, hadmits⟩, hpersist⟩
      exact ⟨(_, _), acceptOne_eq_ok.2 ⟨authority, registration, hadmits, .inl ⟨row, hknown,
        hrow.digest, hpersist, hfaithful.result_wellFormed, rfl, rfl⟩⟩⟩
  · intro after result haccept
    obtain ⟨authority, registration, hadmits, ⟨prior, hretry⟩ | ⟨db₁, d, c, haccepts⟩⟩ :=
      acceptOne_eq_ok.1 haccept
    · obtain rfl : row = prior := by simpa [hknown] using hretry.known
      refine ⟨?_, ?_, ?_, ?_⟩
      · rw [hretry.result_eq]
        exact hfaithful.result_disposition.trans hrow.disposition
      · rw [hretry.result_eq]
        exact hfaithful.result_sequence
      · rw [hretry.after_eq]
      · rw [hretry.after_eq]
        rfl
    · simp [haccepts.unknown] at hknown

/-- ONCE: in every run from a store without replication, each dot changes the ledger and consumes a
    sequence at its first completed transaction only, the sequences are consecutive, and a retained
    operation is answered again without a change. -/
theorem dots_exactly_once (rt : Runtime) (db : Database) (fresh : db.Fresh)
    (actions : List AuthorityAction) :
    ExactlyOnce rt (trace (authorityStep rt) (authorityTransactions rt) db actions)
      (run (authorityStep rt) db actions) := by
  obtain ⟨history, hr⟩ := (authority_run_path rt db actions).recorded fresh.logged
  have hzero : db.sequence = 0 := by simp [Database.sequence, fresh.2.2.1]
  have hunknown (dot : Generation × ℕ) : ¬ History.Knows (fun _ => none) dot := by
    rintro ⟨s, row, hs, -⟩
    cases hs
  have hsame {t u : Transaction} (ht : t.Recorded history) (hu : u.Recorded history)
      (hdot : t.operation.dot = u.operation.dot) :
      u.result.disposition = t.result.disposition ∧
        u.result.authoritySequence = t.result.authoritySequence := by
    obtain ⟨row, hs, hrow⟩ := ht
    obtain ⟨row', hs', hrow'⟩ := hu
    have hdots : row.dot = row'.dot := hrow.dot.trans (hdot.trans hrow'.dot.symm)
    simp only [AcceptedRow.dot, Prod.mk.injEq] at hdots
    have heq := hr.logged.dot_unique hs hs' hdots.1 hdots.2
    rw [← heq, hs, Option.some.injEq] at hs'
    exact ⟨by rw [← hrow'.disposition, ← hs', hrow.disposition], heq.symm⟩
  constructor
  case repeated =>
    refine hr.repeated.imp_of_mem fun {t u} ht hu hquiet hdot => ⟨hquiet hdot, ?_⟩
    exact hsame (hr.recorded t ht) (hr.recorded u hu) hdot
  case consumed => exact fun t ht => (hr.consumed t ht).resolve_left (hunknown _)
  case cases => exact hr.cases
  case consecutive => rw [hr.consecutive, hzero]; rfl
  case retried => exact fun t ht hretained => (hr.recorded t ht).retry hr.logged hretained

/-- A push of one operation by principal `p`. -/
def pushOne (operation : ReplicationOperation) (now : UnixMs) : AuthorityAction :=
  .push ⟨operation.workspaceId, operation.origin.replicaId, operation.origin.generationId,
      [operation]⟩
    ⟨operation.origin.replicaId, "p", none, "p", none, fun _ => now, fun _ => now⟩

/-- One operation pushed twice. -/
def pushedTwice : Call (List AuthorityAction) := do
  let replica ← plainReplica
  let (_, queued) ← queueCommand idealRuntime replica createSeven (localAt 10)
  pure [.initializeAuthority "w" 2 3 5, .register "w" 1 1 "p" 6, pushOne queued.operation 11,
    pushOne queued.operation 12]

theorem dots_exactly_once_retry :
    ∃ actions, (trace (authorityStep idealRuntime) (authorityTransactions idealRuntime) .plain
        actions).map (·.result.authoritySequence) = [1, 1] ∧
      ExactlyOnce idealRuntime (trace (authorityStep idealRuntime)
        (authorityTransactions idealRuntime) .plain actions)
        (run (authorityStep idealRuntime) .plain actions) := by
  obtain ⟨actions, -, hsequences⟩ : Ends pushedTwice fun actions => (trace (authorityStep idealRuntime) (authorityTransactions idealRuntime) .plain
      actions).map (·.result.authoritySequence) = [1, 1] := by decide +kernel
  exact ⟨actions, hsequences, dots_exactly_once idealRuntime .plain (Database.fresh_fresh "w") actions⟩

/-- Two generations of one replica use counter 1 for two effects, and a retained operation that is
    presented again by a generation that has been silent for too long is refused. -/
theorem counter_of_two_generations :
    Ends (do
      let replica ← plainReplica
      let next ← initializeLocalReplica .plain "w" 1 2 2 3 0 none 5
      let (_, seven) ← queueCommand idealRuntime replica createSeven (localAt 10)
      let (_, eight) ← queueCommand idealRuntime next
        (.createCommitment (plainCommitment 8 ⟨"t", by decide⟩ ⟨[]⟩)) (localAt 10)
      let actions := [.initializeAuthority "w" 2 3 5, .register "w" 1 1 "p" 6,
        .register "w" 1 2 "p" 6, pushOne seven.operation 11, pushOne eight.operation 12]
      let db := run (authorityStep idealRuntime) .plain actions
      let late := 13 + replicationRetention.activeReplicaMs
      pure (seven.operation.origin, eight.operation.origin,
        trace (authorityStep idealRuntime) (authorityTransactions idealRuntime) .plain actions,
        db, acceptOneOperation idealRuntime db seven.operation (servedAt late)))
      fun (seven, eight, ts, db, retried) =>
        seven.replicaId = eight.replicaId ∧ seven.counter = eight.counter ∧
        ts.map (·.result.authoritySequence) = [1, 2] ∧
        ts.map (fun t => (t.db.ledger.tasks.size, t.after.ledger.tasks.size)) = [(0, 1), (1, 2)] ∧
        1 ∈ db.accepted ∧
        retried.toOption.map Prod.snd = none := by
  decide +kernel

end Tasq
