import Mathlib.Tactic
import Tasq.Lib.Run
import Tasq.Replication.Acceptance

/-! The accepted log of an authority, over whole runs.

    Pruning removes accepted rows, so the invariant speaks of the log as it would be had nothing
    been pruned: `history s` is the row accepted at sequence `s`. `Logged` ties the store to that
    log, `SameLog` is a step that accepts nothing, and `Logged.accept` is the step that accepts one
    operation. -/

namespace Tasq

open Text Outcome

variable {rt : Runtime} {db db' db₁ : Database} {operation : ReplicationOperation}
  {ctx : AcceptContext} {result : ReplicationOperationResult}

/-- The accepted rows by sequence, pruned or not. -/
abbrev History := ℕ → Option AcceptedRow

/-- The dot of an accepted row, without the counter. -/
def AcceptedRow.generation (row : AcceptedRow) : Generation :=
  Tasq.generation row.replicaId row.generationId

/-- The authority sequence of a store; zero before there is an authority. -/
def Database.sequence (db : Database) : ℕ := db.authority.elim 0 (·.currentSequence)

/-- An accepted row carries its own operation and result. -/
structure AcceptedRow.Faithful (rt : Runtime) (sequence : ℕ) (row : AcceptedRow) : Prop where
  counter_pos : 1 ≤ row.counter
  origin : row.operation.origin.generation = row.generation ∧
    row.operation.origin.counter = row.counter
  digest : rt.operationOf row.operation.toUnsignedOperation = row.operationDigest
  operationDigest : row.operation.operationDigest = row.operationDigest
  result_generation : row.result.replicaId = row.replicaId ∧
    row.result.generationId = row.generationId
  result_counter : row.result.counter = row.counter
  result_digest : row.result.operationDigest = row.operationDigest
  result_disposition : row.result.disposition = row.disposition
  result_sequence : row.result.authoritySequence = sequence
  result_wellFormed : row.result.WellFormed

/-- The store agrees with the log of everything it has accepted. -/
structure Logged (rt : Runtime) (db : Database) (history : History) : Prop where
  /-- What is retained is in the log. -/
  retained : ∀ (s : ℕ) row, db.accepted[s]? = some row → history s = some row
  /-- The log has one row for each sequence up to the current one. -/
  filled : ∀ s, (∃ row, history s = some row) ↔ 1 ≤ s ∧ s ≤ db.sequence
  faithful : ∀ s row, history s = some row → row.Faithful rt s
  /-- A generation has accepted the counters up to its frontier. -/
  bounded : ∀ s row, history s = some row → ∃ reg, db.replicas[row.generation]? = some reg ∧
    row.counter ≤ reg.acceptedCounter
  complete : ∀ (g : Generation) reg, db.replicas[g]? = some reg → ∀ c, 1 ≤ c →
    c ≤ reg.acceptedCounter → ∃ s row, history s = some row ∧ row.generation = g ∧ row.counter = c
  /-- Within a generation, counters grow with sequences. -/
  ordered : ∀ s s' row row', history s = some row → history s' = some row' →
    row.generation = row'.generation → s < s' → row.counter < row'.counter
  /-- The frontier digest is the digest at the frontier. -/
  frontier : ∀ (g : Generation) reg, db.replicas[g]? = some reg →
    (reg.acceptedCounter = 0 → reg.acceptedDigest = none) ∧
    ∀ s row, history s = some row → row.generation = g → row.counter = reg.acceptedCounter →
      reg.acceptedDigest = some row.operationDigest
  /-- Each row names the digest of the row before it in its generation. -/
  linked : ∀ s s' row row', history s = some row → history s' = some row' →
    row.generation = row'.generation → row'.counter = row.counter + 1 →
      row'.operation.origin.previousDigest = some row.operationDigest
  conflicts : ∀ (s : ℕ) c, db.conflicts[s]? = some c → s ≤ db.sequence
  principals : ∀ (g : Generation) reg, db.replicas[g]? = some reg → NonBlank reg.principalId

/-- The empty log of a fresh store. -/
theorem Database.Fresh.logged (h : db.Fresh) :
    Logged rt db fun _ => none := by
  obtain ⟨-, -, hauthority, hreplicas, haccepted, hconflicts, -⟩ := h
  constructor
  case filled => simp [Database.sequence, hauthority]; omega
  all_goals simp [haccepted, hreplicas, hconflicts]

/-! ### Steps that accept nothing -/

/-- The registration of a generation as the log sees it. -/
structure ReplicaRow.SameFrontier (row row' : ReplicaRow) : Prop where
  counter : row'.acceptedCounter = row.acceptedCounter
  digest : row'.acceptedDigest = row.acceptedDigest
  principal : row'.principalId = row.principalId

/-- A registration that has accepted nothing. -/
structure ReplicaRow.Blank (row : ReplicaRow) : Prop where
  counter : row.acceptedCounter = 0
  digest : row.acceptedDigest = none
  principal : NonBlank row.principalId

/-- A step that accepts nothing: rows and conflicts may go, registrations may come. -/
structure SameLog (db db' : Database) : Prop where
  accepted : ∀ (s : ℕ) row, db'.accepted[s]? = some row → db.accepted[s]? = some row
  sequence : db'.sequence = db.sequence
  conflicts : ∀ (s : ℕ) c, db'.conflicts[s]? = some c → db.conflicts[s]? = some c
  kept : ∀ (g : Generation) reg, db.replicas[g]? = some reg →
    ∃ reg', db'.replicas[g]? = some reg' ∧ reg.SameFrontier reg'
  new : ∀ (g : Generation) reg', db'.replicas[g]? = some reg' →
    (∃ reg, db.replicas[g]? = some reg) ∨ reg'.Blank

theorem ReplicaRow.SameFrontier.refl (row : ReplicaRow) : row.SameFrontier row := ⟨rfl, rfl, rfl⟩

theorem SameLog.refl (db : Database) : SameLog db db :=
  ⟨fun _ _ h => h, rfl, fun _ _ h => h, fun _ reg h => ⟨reg, h, .refl reg⟩, fun _ reg h => .inl ⟨reg, h⟩⟩

/-- The registration after a step that accepts nothing is the old one or a blank one. -/
theorem SameLog.origin (h : SameLog db db') {g : Generation} {reg' : ReplicaRow}
    (hreg' : db'.replicas[g]? = some reg') :
    (∃ reg, db.replicas[g]? = some reg ∧ reg.SameFrontier reg') ∨ reg'.Blank := by
  obtain ⟨reg, hreg⟩ | hblank := h.new g reg' hreg'
  · obtain ⟨reg'', hreg'', hsame⟩ := h.kept g reg hreg
    obtain rfl : reg' = reg'' := by simpa [hreg'] using hreg''
    exact .inl ⟨reg, hreg, hsame⟩
  · exact .inr hblank

/-- INVARIANT: a step that accepts nothing keeps the log. -/
theorem Logged.same {history : History} (h : Logged rt db history) (hs : SameLog db db') :
    Logged rt db' history where
  retained s row hrow := h.retained s row (hs.accepted s row hrow)
  filled s := by rw [hs.sequence]; exact h.filled s
  faithful := h.faithful
  bounded s row hrow := by
    obtain ⟨reg, hreg, hle⟩ := h.bounded s row hrow
    obtain ⟨reg', hreg', hsame⟩ := hs.kept _ reg hreg
    exact ⟨reg', hreg', by rw [hsame.counter]; exact hle⟩
  complete g reg' hreg' c hpos hle := by
    obtain ⟨reg, hreg, hsame⟩ | hblank := hs.origin hreg'
    · exact h.complete g reg hreg c hpos (by rw [← hsame.counter]; exact hle)
    · rw [hblank.counter] at hle
      omega
  ordered := h.ordered
  frontier g reg' hreg' := by
    obtain ⟨reg, hreg, hsame⟩ | hblank := hs.origin hreg'
    · rw [hsame.counter, hsame.digest]
      exact h.frontier g reg hreg
    · refine ⟨fun _ => hblank.digest, fun s row hrow _ hcounter => ?_⟩
      have := (h.faithful s row hrow).counter_pos
      rw [hcounter, hblank.counter] at this
      omega
  linked := h.linked
  conflicts s c hc := by rw [hs.sequence]; exact h.conflicts s c (hs.conflicts s c hc)
  principals g reg' hreg' := by
    obtain ⟨reg, hreg, hsame⟩ | hblank := hs.origin hreg'
    · rw [hsame.principal]
      exact h.principals g reg hreg
    · exact hblank.principal

/-! ### The step that accepts an operation -/

/-- A dot stands at one sequence of the log. -/
theorem Logged.dot_unique {history : History} (h : Logged rt db history) {s s' : ℕ}
    {row row' : AcceptedRow} (hs : history s = some row) (hs' : history s' = some row')
    (hg : row.generation = row'.generation) (hc : row.counter = row'.counter) : s = s' := by
  rcases Nat.lt_trichotomy s s' with hlt | heq | hgt
  · have := h.ordered s s' row row' hs hs' hg hlt
    omega
  · exact heq
  · have := h.ordered s' s row' row hs' hs hg.symm hgt
    omega

/-- The row that an accepted operation leaves is faithful. -/
theorem Accepts.faithful {authority : ReplicationAuthority} {registration : ReplicaRow}
    {d : ReplicationDisposition} {c : Option ReplicationConflict}
    (ha : Accepts rt db operation ctx authority registration db₁ d c db' result)
    (hdigest : rt.operationOf operation.toUnsignedOperation = operation.operationDigest) :
    (acceptedRowOf operation result ctx.now).Faithful rt (authority.currentSequence + 1) := by
  have hwf := ha.wellFormed
  have hresult := ha.result_eq
  constructor
  case counter_pos => exact hwf.1.1
  case origin => exact ⟨rfl, rfl⟩
  case digest =>
    exact (Runtime.operationOf_canonical rt operation.toUnsignedOperation).trans hdigest
  case operationDigest => rfl
  case result_wellFormed =>
    rw [acceptedRowOf, ReplicationOperationResult.wellFormed_canonical, hresult,
      ReplicationOperationResult.wellFormed_trimmed]
    exact hwf
  all_goals rw [hresult]
  · exact ⟨rfl, rfl⟩
  all_goals rfl

/-- INVARIANT: accepting an operation appends its row to the log. -/
theorem Logged.accept {history : History} (h : Logged rt db history)
    {authority : ReplicationAuthority} {registration : ReplicaRow} {d : ReplicationDisposition}
    {c : Option ReplicationConflict} (hadmits : Admits db operation ctx authority registration)
    (ha : Accepts rt db operation ctx authority registration db₁ d c db' result)
    (hdigest : rt.operationOf operation.toUnsignedOperation = operation.operationDigest) :
    Logged rt db' (Function.update history (db.sequence + 1)
      (some (acceptedRowOf operation result ctx.now))) := by
  obtain ⟨precondition, intended, current, -, -, -, -, hclass⟩ := classify_eq_ok.1 ha.classified
  have hseq : db.sequence = authority.currentSequence := by
    simp [Database.sequence, hadmits.authority_eq]
  have hframe := hclass.frame
  have hfaithful := ha.faithful hdigest
  set row := acceptedRowOf operation result ctx.now with hrow
  have haccepted : db'.accepted = db.accepted.insert (db.sequence + 1) row := by
    rw [ha.after_eq, hframe, hseq]
  have hsequence : db'.sequence = db.sequence + 1 := by
    rw [ha.after_eq, hseq]
    rfl
  have hreplicas (g : Generation) : db'.replicas[g]? = if operation.origin.generation = g then
      some (registration.accepting operation ctx.now) else db.replicas[g]? := by
    rw [ha.after_eq, hframe, Table.getElem?_insert']
  have hbelow {s : ℕ} {r : AcceptedRow} (hr : history s = some r) : 1 ≤ s ∧ s ≤ db.sequence :=
    (h.filled s).1 ⟨r, hr⟩
  have hmem (s : ℕ) (r : AcceptedRow) : Function.update history (db.sequence + 1) (some row) s =
      some r ↔ (s = db.sequence + 1 ∧ row = r) ∨ history s = some r := by
    by_cases hs : s = db.sequence + 1
    · subst hs
      have hnone : history (db.sequence + 1) ≠ some r := fun hr => by
        have := (hbelow hr).2
        omega
      simp [hnone]
    · simp [hs]
  have hcounter : row.counter = registration.acceptedCounter + 1 := ha.counter
  -- What the generation has accepted so far is at or below its frontier.
  have hprior {s : ℕ} {r : AcceptedRow} (hr : history s = some r)
      (hg : r.generation = operation.origin.generation) : r.counter ≤ registration.acceptedCounter := by
    obtain ⟨reg, hreg, hle⟩ := h.bounded s r hr
    rw [hg, hadmits.registered, Option.some.injEq] at hreg
    rw [hreg]
    exact hle
  constructor
  case retained =>
    intro s r hr
    rw [haccepted, Table.getElem?_insert'] at hr
    rw [hmem]
    split at hr
    · rename_i hs
      exact .inl ⟨hs.symm, Option.some.inj hr⟩
    · exact .inr (h.retained s r hr)
  case filled =>
    intro s
    simp only [hmem, exists_or, exists_and_left, exists_eq', and_true, h.filled, hsequence]
    omega
  case faithful =>
    intro s r hr
    obtain ⟨rfl, rfl⟩ | hr := (hmem s r).1 hr
    · rw [hseq]
      exact hfaithful
    · exact h.faithful s r hr
  case bounded =>
    intro s r hr
    rw [hreplicas]
    obtain ⟨rfl, rfl⟩ | hr := (hmem s r).1 hr
    · exact ⟨_, if_pos rfl, le_rfl⟩
    · split
      · rename_i hg
        have := hprior hr hg.symm
        refine ⟨_, rfl, ?_⟩
        change r.counter ≤ row.counter
        omega
      · exact h.bounded s r hr
  case complete =>
    intro g reg hreg k hpos hle
    rw [hreplicas] at hreg
    simp only [hmem]
    split at hreg
    · rename_i hg
      obtain rfl := Option.some.inj hreg
      obtain hlast | hlt : k = row.counter ∨ k ≤ registration.acceptedCounter := by
        have : k ≤ row.counter := hle
        omega
      · exact ⟨_, row, .inl ⟨rfl, rfl⟩, hg, hlast.symm⟩
      · obtain ⟨s, r, hr, hrg, hrc⟩ :=
          h.complete _ registration hadmits.registered k hpos hlt
        exact ⟨s, r, .inr hr, hrg.trans hg, hrc⟩
    · obtain ⟨s, r, hr, hrg, hrc⟩ := h.complete g reg hreg k hpos hle
      exact ⟨s, r, .inr hr, hrg, hrc⟩
  case ordered =>
    intro s s' r r' hr hr' hg hlt
    obtain ⟨rfl, rfl⟩ | hr := (hmem s r).1 hr
    · obtain ⟨rfl, rfl⟩ | hr' := (hmem s' r').1 hr'
      · omega
      · have := (hbelow hr').2
        omega
    · obtain ⟨rfl, rfl⟩ | hr' := (hmem s' r').1 hr'
      · have := hprior hr hg
        omega
      · exact h.ordered s s' r r' hr hr' hg hlt
  case frontier =>
    intro g reg hreg
    rw [hreplicas] at hreg
    split at hreg
    · rename_i hg
      obtain rfl := Option.some.inj hreg
      refine ⟨fun hzero => ?_, fun s r hr hrg hrc => ?_⟩
      · have : row.counter = 0 := hzero
        omega
      · obtain ⟨rfl, rfl⟩ | hr := (hmem s r).1 hr
        · rfl
        · have := hprior hr (hrg.trans hg.symm)
          have : r.counter = row.counter := hrc
          omega
    · rename_i hg
      refine ⟨(h.frontier g reg hreg).1, fun s r hr hrg hrc => ?_⟩
      obtain ⟨rfl, rfl⟩ | hr := (hmem s r).1 hr
      · exact absurd hrg hg
      · exact (h.frontier g reg hreg).2 s r hr hrg hrc
  case linked =>
    intro s s' r r' hr hr' hg hnext
    obtain ⟨rfl, rfl⟩ | hr := (hmem s r).1 hr
    · obtain ⟨rfl, rfl⟩ | hr' := (hmem s' r').1 hr'
      · omega
      · have := hprior hr' hg.symm
        omega
    · obtain ⟨rfl, rfl⟩ | hr' := (hmem s' r').1 hr'
      · have hlast : r.counter = registration.acceptedCounter := by omega
        change operation.origin.previousDigest = some r.operationDigest
        rw [ha.predecessor]
        exact (h.frontier _ registration hadmits.registered).2 s r hr hg hlast
      · exact h.linked s s' r r' hr hr' hg hnext
  case conflicts =>
    intro s k hk
    rw [ha.after_eq] at hk
    obtain hold | rfl := hclass.conflicts hk
    · have := h.conflicts s k hold
      omega
    · rw [hsequence, hseq]
  case principals =>
    intro g reg hreg
    rw [hreplicas] at hreg
    split at hreg
    · obtain rfl := Option.some.inj hreg
      exact h.principals _ registration hadmits.registered
    · exact h.principals g reg hreg

end Tasq
