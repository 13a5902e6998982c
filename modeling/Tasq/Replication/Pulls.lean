import Mathlib.Tactic
import Tasq.Replication.Publish

/-! When a pull is answered: the snapshot comes with every answer, an incremental one too, so that
    the pulls of a replica are answered exactly while the snapshot of the authority can be built and
    the next cursor fits.

    What an answered pull says is `pull_answers`; here it is that the pull is answered. -/

namespace Tasq

open Text Outcome Run

variable {rt : Runtime} {db db' : Database}

/-! ### What a pull asks for -/

/-- A pull that the authority serves: by a replica of its own, of a registered generation that is
    neither revoked nor silent for too long, for a page of admitted length. -/
def Database.ServesPull (db : Database) (options : PullReplicationOptions) : Prop :=
  (NonBlank options.workspaceId ∧ ¬ (Blank options.authenticatedPrincipalId ∨
    1000 < utf16Length options.authenticatedPrincipalId)) ∧
  options.replicaId = options.authenticatedReplicaId ∧ options.now ≤ Json.maxSafeInteger ∧
  (1 ≤ options.limit ∧ options.limit ≤ replicationLimits.pullEntries) ∧
  options.workspaceId = db.workspaceId ∧ db.authority.isSome ∧
  ∃ row ∈ db.replicas[generation options.replicaId options.generationId]?,
    row.principalId = options.authenticatedPrincipalId ∧ row.status = .active ∧
      ¬ row.Silent options.now

instance (options : PullReplicationOptions) : Decidable (db.ServesPull options) := by
  unfold Database.ServesPull; infer_instance

/-- The sequence that a pull takes its replica to: the end of the page, or of the log where a
    snapshot is required. -/
def Database.reaches (rt : Runtime) (db : Database) (options : PullReplicationOptions)
    (authority : ReplicationAuthority) : ℕ :=
  match cursorPosition rt authority options.workspaceId options.cursor with
  | .ok (position, false) =>
    (((Table.rows db.accepted fun s _ => decide (s > position)).take options.limit).getLast?.map
      Prod.fst).getD position
  | _ => authority.currentSequence

/-- The text of the cursor at that sequence fits into the response. -/
def CursorFits (rt : Runtime) (db : Database) (options : PullReplicationOptions) : Prop :=
  ∀ authority ∈ db.authority, ∀ cursor,
    encodeCursor rt ⟨options.workspaceId, authority.authorityReplicaId, authority.authorityEpoch,
      db.reaches rt options authority⟩ = .ok cursor →
        1 ≤ cursor.textLength rt ∧ cursor.textLength rt ≤ 4096

/-- What a snapshot needs to be built, and replication does not see to. -/
def Buildable (db : Database) : Prop :=
  (∀ e ∈ db.unscoped, CriteriaBounded e.2.successCriteria ∧ e.2.validationRequired = false ∧
    CanonicalJson.safe (projectionOf e.1 e.2) = true) ∧
  db.replicas.size ≤ 100000 ∧ db.unscoped.length ≤ 100000 ∧ db.retired.size ≤ 100000 ∧
    db.conflicts.size ≤ 100000

instance : Decidable (Buildable db) := by
  unfold Buildable; infer_instance

/-! ### When it is answered -/

/-- BUILD: a snapshot that is built is well formed, and reads back as itself. -/
theorem built_parse {history : History} (h : Publishable db) (hlog : Logged rt db history)
    {authority : ReplicationAuthority} (hauthority : db.authority = some authority)
    (hbuildable : Buildable db) :
    ∃ s, buildSnapshot rt db authority = .ok s ∧ s.WellFormed ∧ s.parse = .ok s ∧
      s.coveredSequence = authority.currentSequence := by
  obtain ⟨hrows, hcounts⟩ := hbuildable
  have hwf := (publishedSnapshot_wellFormed rt h hlog hauthority).2 hcounts
  have hsigned : (signedSnapshot rt (publishedSnapshot rt db authority)).WellFormed := by
    simpa [signedSnapshot] using hwf
  refine ⟨_, (buildSnapshot_eq_ok h _).2 ⟨fun e he => ?_, ?_, hwf, rfl⟩, hsigned, ?_, rfl⟩
  · obtain ⟨hbounded, hassertion, hsafe⟩ := hrows e he
    exact ⟨hbounded, hassertion, safe_semanticState hsafe⟩
  · exact (publishedSnapshot_safe rt h hlog hauthority).2 fun e he => (hrows e he).2.2
  · refine (ReplicationSnapshot.parse_eq_ok _ _).2 ⟨hsigned, ?_⟩
    simp [signedSnapshot, ReplicationSnapshot.trimmed]

/-- BUILD: what can be built has fit rows. -/
theorem buildable_of_built {history : History} (h : Publishable db) (hlog : Logged rt db history)
    {authority : ReplicationAuthority} (hauthority : db.authority = some authority)
    {s : ReplicationSnapshot} (hbuilt : buildSnapshot rt db authority = .ok s) : Buildable db := by
  obtain ⟨hrecordable, hsafe, hwf, -⟩ := (buildSnapshot_eq_ok h s).1 hbuilt
  have hrows := (publishedSnapshot_safe rt h hlog hauthority).1 hsafe
  exact ⟨fun e he => ⟨(hrecordable e he).bounded, (hrecordable e he).assertion, hrows e he⟩,
    (publishedSnapshot_wellFormed rt h hlog hauthority).1 hwf⟩

/-- A cursor that a replica holds is read. -/
theorem cursorPosition_completes (authority : ReplicationAuthority) (workspaceId : String)
    {cursor : Option Cursor} {position : ℕ} (hat : CursorAt rt cursor position) :
    ∃ expired, cursorPosition rt authority workspaceId cursor = .ok (position, expired) := by
  unfold cursorPosition
  cases cursor with
  | none =>
    obtain rfl : position = 0 := hat
    exact ⟨_, rfl⟩
  | some c =>
    obtain ⟨hne, content, hdecode, rfl⟩ := hat
    simp only [Option.filter_some, hne, ne_eq, not_false_eq_true, decide_true, if_true, hdecode,
      ok_bind]
    exact ⟨_, rfl⟩

/-- A well-formed response whose snapshot reads back as itself is parsed. -/
theorem pullResponse_parse {r : ReplicationPullResponse} (hwf : r.WellFormed rt)
    (hparse : r.snapshot.parse = .ok r.snapshot) :
    ∃ response, ReplicationPullResponse.parse rt r = .ok response := by
  have hpass : refuse (¬ r.WellFormed rt) (Failure.invalid "ReplicationPullResponse") =
      .ok () := (refuse_eq_ok _ _ _).2 (not_not.2 hwf)
  rw [ReplicationPullResponse.parse, hpass, ok_bind, hparse]
  exact ⟨_, rfl⟩

/-- PULL: the cursor of an answer fits into it. -/
theorem cursorFits_of_pull (h : Publishable db) {options : PullReplicationOptions}
    {response : ReplicationPullResponse}
    (hpull : pullReplication rt db options = .ok (db', response)) : CursorFits rt db options := by
  simp only [pullReplication, bind_eq_ok, clockSnapshot_eq_ok, Database.requireAuthority_eq_ok,
    Database.requireRegistration_eq_ok, Prod.exists] at hpull
  obtain ⟨-, -, -, -, -, -, _, ⟨-, rfl⟩, -, -, authority, ⟨-, hauthority⟩, _, -, position, expired,
    hposition, hpull⟩ := hpull
  intro authority' hauthority' cursor' hcursor'
  obtain rfl : authority = authority' := Option.some.inj (hauthority.symm.trans hauthority')
  simp only [Database.reaches, hposition] at hcursor'
  cases expired with
  | true =>
    simp only [if_true, bind_eq_ok, ReplicationPullResponse.parse, refuse_eq_ok, not_not] at hpull
    obtain ⟨snapshot, hbuilt, cursor, hcursor, _, ⟨-, hwf, -⟩, -⟩ := hpull
    obtain ⟨-, -, -, rfl⟩ := (buildSnapshot_eq_ok h snapshot).1 hbuilt
    obtain rfl : cursor = cursor' := Except.ok.inj (hcursor.symm.trans hcursor')
    exact hwf.2.2.2.2
  | false =>
    simp only [Bool.false_eq_true, if_false, bind_eq_ok, ReplicationPullResponse.parse,
      refuse_eq_ok, not_not] at hpull
    rw [List.take_take, Nat.min_eq_left (Nat.le_succ _)] at hpull
    obtain ⟨_, -, cursor, hcursor, _, -, _, ⟨-, hwf, -⟩, -⟩ := hpull
    obtain rfl : cursor = cursor' := Except.ok.inj (hcursor.symm.trans hcursor')
    exact hwf.2.2.2.2

/-- PULL: a pull that the authority serves is answered where the snapshot can be built, and the
    cursor fits. -/
theorem pull_completes {options : PullReplicationOptions} {history : History} {position : ℕ}
    (hr : Retains db) (hlog : Logged rt db history) (h : Publishable db)
    (hat : CursorAt rt options.cursor position) (hserves : db.ServesPull options)
    (hbuildable : Buildable db) (hfit : CursorFits rt db options) :
    ∃ db' response, pullReplication rt db options = .ok (db', response) := by
  obtain ⟨⟨hnonblank, hcaller⟩, hown, hclock, ⟨hone, hmost⟩, hworkspace, hstarted, registration,
    hregistered, hprincipal, hactive, hspoken⟩ := hserves
  obtain ⟨authority, hauthority⟩ := Option.isSome_iff_exists.1 hstarted
  obtain ⟨expired, hposition⟩ : ∃ expired,
      cursorPosition rt authority options.workspaceId options.cursor = .ok (position, expired) :=
    cursorPosition_completes authority options.workspaceId hat
  obtain ⟨snapshot, hbuilt, hsnapshot, hparse, hcovered⟩ := built_parse h hlog hauthority hbuildable
  have hsequence : authority.currentSequence ≤ Json.maxSafeInteger := by
    simpa [Database.sequence, hauthority] using hlog.sequence_safe
  have hfloor : IsSequence authority.minimumRetainedSequence := by
    have hle := hr.floor_le
    simp only [Database.floor, Database.sequence, hauthority, Option.elim_some] at hle
    exact hle.trans hsequence
  have hassert : assertWorkspaceId options.workspaceId = .ok () :=
    (refuse_eq_ok _ _ _).2 (not_not.2 hnonblank)
  have hassert' : assertNonBlank options.authenticatedPrincipalId "authenticatedPrincipalId" =
      .ok () := (refuse_eq_ok _ _ _).2 hcaller
  have hrequire : db.requireAuthority options.workspaceId = .ok authority :=
    Database.requireAuthority_eq_ok.2 ⟨hworkspace, hauthority⟩
  have hregister (texts : RegistrationTexts) : db.requireRegistration texts options.workspaceId
      (generation options.replicaId options.generationId) options.authenticatedPrincipalId
      options.now = .ok registration :=
    Database.requireRegistration_eq_ok.2
      ⟨hworkspace, hregistered, hprincipal, hactive, hspoken⟩
  -- the cursor at the sequence that the pull reaches is made, and fits
  have hencode : ∀ s ≤ authority.currentSequence, db.reaches rt options authority = s → ∃ cursor,
      encodeCursor rt ⟨options.workspaceId, authority.authorityReplicaId, authority.authorityEpoch,
        s⟩ = .ok cursor ∧ 1 ≤ cursor.textLength rt ∧ cursor.textLength rt ≤ 4096 := by
    rintro _ hs rfl
    have hcursor : encodeCursor rt ⟨options.workspaceId, authority.authorityReplicaId,
        authority.authorityEpoch, db.reaches rt options authority⟩ = .ok _ :=
      (encodeCursor_eq_ok _ _).2 ⟨hs.trans hsequence, rfl⟩
    exact ⟨_, hcursor, hfit authority hauthority _ hcursor⟩
  have hown' : ∀ e : Failure,
      refuse (options.replicaId ≠ options.authenticatedReplicaId) e = .ok () :=
    fun e => (refuse_eq_ok _ e _).2 (not_not.2 hown)
  have hlimit : ∀ e : Failure, refuse (options.limit < 1 ∨
      replicationLimits.pullEntries < options.limit) e = .ok () :=
    fun e => (refuse_eq_ok _ e _).2 (by omega)
  simp only [pullReplication, hassert, hassert', hown', clockSnapshot_eq_ok.2 ⟨hclock, rfl⟩, hlimit,
    hrequire, hregister, hposition, ok_bind]
  cases expired with
  | true =>
    obtain ⟨cursor, hcursor, hlength⟩ := hencode snapshot.coveredSequence hcovered.le
      (by simp only [Database.reaches, hposition, hcovered])
    simp only [if_true, hbuilt, hcursor, ok_bind]
    obtain ⟨response, hresponse⟩ : ∃ response,
        ReplicationPullResponse.parse rt _ = .ok response := pullResponse_parse
      (r := ⟨options.workspaceId, authority.authorityReplicaId, authority.authorityEpoch, none,
        authority.minimumRetainedSequence, snapshot, cursor⟩)
      ⟨hnonblank, by simp, hfloor, hsnapshot, hlength⟩ hparse
    rw [hresponse]
    exact ⟨_, _, rfl⟩
  | false =>
    obtain ⟨hfloor', hle⟩ := (cursorPosition_at hat hposition).2 rfl
    have hkeys := hr.keys_after
      (by simpa [Database.floor, hauthority] using hfloor' : db.floor ≤ position)
      (by simpa [Database.sequence, hauthority] using hle)
    simp only [Bool.false_eq_true, if_false]
    rw [List.take_take, Nat.min_eq_left (Nat.le_succ _)]
    set page := (Table.rows db.accepted fun s _ => decide (s > position)).take options.limit
      with hpage
    have hmem {e : ℕ × AcceptedRow} (he : e ∈ page) :
        db.accepted[e.1]? = some e.2 ∧ e.1 ≤ authority.currentSequence := by
      have hrow := List.mem_of_mem_take he
      refine ⟨(Table.mem_rows.1 hrow).1, ?_⟩
      have hkey := List.mem_map_of_mem (f := Prod.fst) hrow
      simp only [hkeys, List.mem_range', Database.sequence, hauthority, Option.elim_some] at hkey
      omega
    have hwf {e : ℕ × AcceptedRow} (he : e ∈ page) : e.2.result.WellFormed :=
      (hlog.faithful e.1 e.2 (hlog.retained _ _ (hmem he).1)).result_wellFormed
    have hentries := (mapM_eq_ok (fun e _ y => ReplicationOperationResult.parse_eq_ok e.2.result y)
      _).2 ⟨fun e (he : e ∈ page) => hwf he, rfl⟩
    have hnext : (page.getLast?.map Prod.fst).getD position ≤ authority.currentSequence := by
      cases hlast : page.getLast? with
      | none => exact hle
      | some e => exact (hmem (List.mem_of_getLast? hlast)).2
    obtain ⟨cursor, hcursor, hlength⟩ := hencode _ hnext
      (by simp only [Database.reaches, hposition, hpage])
    simp only [hentries, hcursor, hbuilt, ok_bind]
    obtain ⟨response, hresponse⟩ : ∃ response,
        ReplicationPullResponse.parse rt _ = .ok response := pullResponse_parse
      (r := ⟨options.workspaceId, authority.authorityReplicaId, authority.authorityEpoch,
        some (page.map fun e => e.2.result.trimmed, options.limit < ((Table.rows db.accepted
          fun s _ => decide (s > position)).take (options.limit + 1)).length),
        authority.minimumRetainedSequence, snapshot, cursor⟩)
      ⟨hnonblank, by
        simp only [Option.mem_def, Option.some.injEq, forall_eq', List.length_map, List.mem_map,
          forall_exists_index, and_imp, forall_apply_eq_imp_iff₂,
          ReplicationOperationResult.wellFormed_trimmed]
        exact ⟨(List.length_take_le _ _).trans hmost, fun e he => hwf he⟩,
        hfloor, hsnapshot, hlength⟩ hparse
    rw [hresponse]
    exact ⟨_, _, rfl⟩

/-- FEED: however a replica pulls and whatever the authority does in between, the entries since its
    last snapshot are consecutive from the sequence that the snapshot covers; and the next pull that
    is served answers a snapshot or exactly the next stretch of the log, up to the page limit or its
    end, if and only if the rows of the tasks let the snapshot be built and the cursor fits. -/
theorem pull_complete_iff (rt : Runtime) (db : Database) (fresh : db.Fresh)
    (rounds : List PullRound) :
    let follower := run (follow rt) ⟨db, none, 0, []⟩ rounds
    follower.entries.map (·.authoritySequence) =
        List.range' (follower.base + 1) follower.entries.length ∧
      ∀ round, (follower.authorityAt rt round).ServesPull (round.pull follower) →
        ((∃ db' response,
            pullReplication rt (follower.authorityAt rt round) (round.pull follower) =
              .ok (db', response) ∧
            Answers rt (follower.authorityAt rt round) (follower.base + follower.entries.length)
              round.options.limit response) ↔
          Buildable (follower.authorityAt rt round) ∧
            CursorFits rt (follower.authorityAt rt round) (round.pull follower)) := by
  have h : Following rt (run (follow rt) ⟨db, none, 0, []⟩ rounds) := following_run fresh rounds
  have hp : Publishable (run (follow rt) ⟨db, none, 0, []⟩ rounds).db :=
    follow_publishable fresh rounds
  refine ⟨h.entries, fun round hserves => ?_⟩
  obtain ⟨history, hlog⟩ := authority_run_logged rt h.logged round.before
  have hr := authority_run_retains rt h.retains round.before
  have hp : Publishable (Follower.authorityAt rt _ round) :=
    authority_run_publishable hp round.before
  constructor
  · rintro ⟨db', response, hpull, -⟩
    obtain ⟨authority, _, _, snapshot, hauthority, -, -, -, -, -, hbuilt, -, -⟩ := pull_eq_ok hpull
    exact ⟨buildable_of_built hp hlog hauthority hbuilt, cursorFits_of_pull hp hpull⟩
  · rintro ⟨hbuildable, hfit⟩
    obtain ⟨db', response, hpull⟩ := pull_completes hr hlog hp h.cursor hserves hbuildable hfit
    have hanswers : Answers rt _ _ (round.pull (run (follow rt) ⟨db, none, 0, []⟩ rounds)).limit
        response := pull_answers hr hlog h.cursor hpull
    exact ⟨db', response, hpull, hanswers⟩

/-- Two operations, pulled one at a time. -/
def twoPulls : Call (PullRound × PullRound) := do
  let replica ← plainReplica
  let (replica, first) ← queueCommand idealRuntime replica createSeven (localAt 10)
  let (_, second) ← queueCommand idealRuntime replica (.deleteCommitment 7) (localAt 11)
  let before : List AuthorityAction := [.initializeAuthority "w" 2 3 5, .register "w" 1 1 "p" 6,
    pushOne first.operation 12, pushOne second.operation 13]
  pure (⟨before, pullAt none 1 14⟩, ⟨[], pullAt none 1 15⟩)

theorem ideal_cursorFits (options : PullReplicationOptions) :
    CursorFits idealRuntime db options := by
  intro authority _ cursor hcursor
  obtain ⟨-, rfl⟩ := (encodeCursor_eq_ok _ cursor).1 hcursor
  exact ⟨le_rfl, (by decide : 1 ≤ 4096)⟩

/-- The second pull is answered, with the second operation. -/
theorem pull_complete_iff_twice :
    Ends twoPulls fun rounds =>
      (run (follow idealRuntime) ⟨.plain, none, 0, []⟩ [rounds.1]).entries.length = 1 ∧
      ∃ db' response,
        pullReplication idealRuntime ((run (follow idealRuntime) ⟨.plain, none, 0, []⟩
          [rounds.1]).authorityAt idealRuntime rounds.2)
          (rounds.2.pull (run (follow idealRuntime) ⟨.plain, none, 0, []⟩ [rounds.1])) =
            .ok (db', response) ∧
        Answers idealRuntime ((run (follow idealRuntime) ⟨.plain, none, 0, []⟩
          [rounds.1]).authorityAt idealRuntime rounds.2)
          ((run (follow idealRuntime) ⟨.plain, none, 0, []⟩ [rounds.1]).base +
            (run (follow idealRuntime) ⟨.plain, none, 0, []⟩ [rounds.1]).entries.length)
          rounds.2.options.limit response := by
  obtain ⟨rounds, hrounds, hlength, hserves, hbuildable⟩ : Ends twoPulls fun rounds =>
      (run (follow idealRuntime) ⟨.plain, none, 0, []⟩ [rounds.1]).entries.length = 1 ∧
      ((run (follow idealRuntime) ⟨.plain, none, 0, []⟩ [rounds.1]).authorityAt idealRuntime
        rounds.2).ServesPull
          (rounds.2.pull (run (follow idealRuntime) ⟨.plain, none, 0, []⟩ [rounds.1])) ∧
      Buildable ((run (follow idealRuntime) ⟨.plain, none, 0, []⟩ [rounds.1]).authorityAt
        idealRuntime rounds.2) := by
    decide +kernel
  exact ⟨rounds, hrounds, hlength, ((pull_complete_iff idealRuntime .plain
    (Database.fresh_fresh "w") [rounds.1]).2 rounds.2 hserves).2
      ⟨hbuildable, ideal_cursorFits _⟩⟩

/-- NOT SO: beside a local task that asks for independent validation, a pull that is served is
    answered neither entries nor a snapshot. -/
theorem validated_task_stops_pulls :
    Ends (do
      let (ledger, _) ← Database.plain.ledger.createTaskInTransaction idealRuntime
        { TaskInsert.ofCreate (plainCommitment 8 ⟨"t", by decide⟩ ⟨[]⟩) with
          completionMode := .evidence
          successCriteria := some "c"
          validationRequired := true } ⟨"p", some "p", 10⟩
      pure (run (authorityStep idealRuntime) .plain
        [.initializeAuthority "w" 2 3 5, .register "w" 1 1 "p" 6, .edit ledger])) fun db =>
      db.ServesPull (pullAt none 1 14) ∧
      Prod.snd <$> pullReplication idealRuntime db (pullAt none 1 14) =
        .error (.protocol .projectionViolation
          ("Commitment 8 requires authority-only resolution records " ++
            "outside tasq.commitment-projection.v1")) := by
  decide +kernel

end Tasq
