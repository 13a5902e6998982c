import Mathlib.Tactic
import Tasq.Replication.Retention

/-! Following the feed of an authority: a replica pulls, keeps the cursor that it is given and pulls
    again, while the authority goes on with anything else in between.

    The rows above the floor have no gap (`Retains`), so a page that starts at a cursor that has not
    expired is the next stretch of the log. -/

namespace Tasq

open Text Outcome Run

variable {rt : Runtime} {db db' : Database}

/-! ### Cursors -/

theorem encodeCursor_eq_ok (content : CursorContent) (cursor : Cursor) :
    encodeCursor rt content = .ok cursor ↔ content.authoritySequence ≤ Json.maxSafeInteger ∧
      .payload { content with digest := rt.sha256 (.cursor content) } = cursor := by
  simp [encodeCursor, map_eq_ok, replicationDigest_eq_ok, safe, canonical, and_assoc]

/-- A cursor reads back as the content that it was made of. -/
theorem decodeCursor_encodeCursor {content : CursorContent} {cursor : Cursor}
    (h : encodeCursor rt content = .ok cursor) : decodeCursor rt cursor = .ok content := by
  obtain ⟨hsafe, rfl⟩ := (encodeCursor_eq_ok content cursor).1 h
  simp only [decodeCursor, bind_eq_ok, refuse_eq_ok, replicationDigest_eq_ok, not_lt, not_not,
    pure_eq_ok]
  exact ⟨(), hsafe, _, ⟨by simpa [safe] using hsafe, rfl⟩, (), by simp [canonical], trivial⟩

/-- The cursor stands at a sequence; without one, at zero. -/
def CursorAt (rt : Runtime) (cursor : Option Cursor) (position : ℕ) : Prop :=
  match cursor with
  | none => position = 0
  | some c => c ≠ .other "" ∧
      ∃ content, decodeCursor rt c = .ok content ∧ content.authoritySequence = position

theorem cursorAt_of_encode {content : CursorContent} {cursor : Cursor}
    (h : encodeCursor rt content = .ok cursor) :
    CursorAt rt (some cursor) content.authoritySequence := by
  refine ⟨?_, content, decodeCursor_encodeCursor h, rfl⟩
  obtain ⟨-, rfl⟩ := (encodeCursor_eq_ok content cursor).1 h
  simp

/-- A pull starts where its cursor stands, inside the retained feed unless the cursor has expired. -/
theorem cursorPosition_at {authority : ReplicationAuthority} {workspaceId : String}
    {cursor : Option Cursor} {position p : ℕ} {expired : Bool} (hat : CursorAt rt cursor position)
    (h : cursorPosition rt authority workspaceId cursor = .ok (p, expired)) :
    p = position ∧ (expired = false →
      authority.minimumRetainedSequence ≤ position ∧ position ≤ authority.currentSequence) := by
  unfold cursorPosition at h
  cases cursor with
  | none =>
    obtain rfl : position = 0 := hat
    simp only [Option.filter_none, pure_eq_ok, Prod.mk.injEq] at h
    obtain ⟨rfl, rfl⟩ := h
    simp
  | some c =>
    obtain ⟨hne, content, hdecode, rfl⟩ := hat
    simp only [Option.filter_some, hne, ne_eq, not_false_eq_true, decide_true, if_true, hdecode,
      ok_bind, pure_eq_ok, Prod.mk.injEq] at h
    obtain ⟨rfl, rfl⟩ := h
    simp only [true_and, Bool.or_eq_false_iff, decide_eq_false_iff_not, not_lt, gt_iff_lt]
    rintro ⟨⟨-, hfloor⟩, hcurrent⟩
    exact ⟨hfloor, hcurrent⟩

/-! ### One pull -/

/-- The entries are the stretch of the accepted log after the position. -/
structure Delivers (db : Database) (position limit : ℕ) (entries : List ReplicationOperationResult)
    (more : Bool) : Prop where
  sequences : entries.map (·.authoritySequence) = List.range' (position + 1) entries.length
  accepted : ∀ entry ∈ entries, ∃ row, db.accepted[entry.authoritySequence]? = some row ∧
    entry = row.result.trimmed
  progress : more = true → entries.length = limit
  caughtUp : more = false → position + entries.length = db.sequence

/-- What a pull answers at a position: a snapshot, or the next stretch of the log, with a cursor at
    its end. -/
def Answers (rt : Runtime) (db : Database) (position limit : ℕ)
    (response : ReplicationPullResponse) : Prop :=
  match response.incremental with
  | none => CursorAt rt (some response.nextCursor) response.snapshot.coveredSequence
  | some (entries, more) => Delivers db position limit entries more ∧
      CursorAt rt (some response.nextCursor) (position + entries.length)

/-- The retained rows after a position inside the feed. -/
theorem Retains.keys_after (hr : Retains db) {position : ℕ} (hfloor : db.floor ≤ position)
    (hle : position ≤ db.sequence) :
    (Table.rows db.accepted fun s _ => decide (s > position)).map Prod.fst =
      List.range' (position + 1) (db.sequence - position) := by
  refine Table.keysWhere_eq_range' db.accepted _ _ _ fun k => ?_
  have hk := hr.keys k
  simp only [Std.ExtTreeMap.mem_iff_isSome_getElem?, Option.isSome_iff_exists] at hk
  simp only [gt_iff_lt, decide_eq_true_eq, exists_and_right, hk]
  omega

/-- The end of a page. -/
theorem page_end {rows : List (ℕ × AcceptedRow)} {position n : ℕ}
    (h : rows.map Prod.fst = List.range' (position + 1) n) :
    (rows.getLast?.map Prod.fst).getD position = position + n := by
  rw [← List.getLast?_map, h]
  cases n with
  | zero => rfl
  | succ n =>
    simp [List.getLast?_range']
    omega

/-- PULL: a completed pull answers a snapshot or the next stretch of the log. -/
theorem pull_answers {options : PullReplicationOptions} {response : ReplicationPullResponse}
    {history : History} {position : ℕ} (hr : Retains db) (hlog : Logged rt db history)
    (hat : CursorAt rt options.cursor position)
    (h : pullReplication rt db options = .ok (db', response)) :
    Answers rt db position options.limit response := by
  simp only [pullReplication, bind_eq_ok, clockSnapshot_eq_ok, Database.requireAuthority_eq_ok,
    Database.requireRegistration_eq_ok, Prod.exists] at h
  obtain ⟨-, -, -, -, -, -, _, ⟨-, rfl⟩, -, -, authority, ⟨-, hauthority⟩, registration, -, p,
    expired, hposition, h⟩ := h
  obtain ⟨rfl, hinside⟩ := cursorPosition_at hat hposition
  split at h
  · simp only [bind_eq_ok, pure_eq_ok, Prod.mk.injEq, ReplicationPullResponse.parse] at h
    obtain ⟨snapshot, -, cursor, hcursor, response', ⟨-, -, parsed, hparsed, rfl⟩, -, rfl⟩ := h
    have hcovered : parsed.coveredSequence = snapshot.coveredSequence := by
      simp only [ReplicationSnapshot.parse, bind_eq_ok, pure_eq_ok] at hparsed
      obtain ⟨-, -, rfl⟩ := hparsed
      rfl
    simp only [Answers, Option.map_none]
    rw [hcovered]
    exact cursorAt_of_encode hcursor
  · rename_i hfresh
    simp only [bind_eq_ok, pure_eq_ok, Prod.mk.injEq, ReplicationPullResponse.parse] at h
    obtain ⟨entries, hentries, cursor, hcursor, snapshot, -, response', ⟨-, -, parsed, -, rfl⟩, -,
      rfl⟩ := h
    obtain ⟨hfloor, hle⟩ := hinside (by simpa using hfresh)
    have hfloor' : db.floor ≤ p := by simpa [Database.floor, hauthority] using hfloor
    have hle' : p ≤ db.sequence := by simpa [Database.sequence, hauthority] using hle
    have hkeys := hr.keys_after hfloor' hle'
    set rows := Table.rows db.accepted fun s _ => decide (s > p) with hrows
    rw [List.take_take, Nat.min_eq_left (Nat.le_succ _)] at hentries hcursor
    set page := rows.take options.limit with hpage
    have hlength : page.length = min options.limit (db.sequence - p) := by
      have := congrArg List.length hkeys
      rw [List.length_map, List.length_range'] at this
      rw [hpage, List.length_take, this]
    have hpagekeys : page.map Prod.fst = List.range' (p + 1) page.length := by
      rw [hlength, hpage, List.map_take, hkeys]
      obtain hle | hlt := Nat.le_total (db.sequence - p) options.limit
      · rw [List.take_range'_of_length_le hle, Nat.min_eq_right hle]
      · rw [List.take_range'_of_length_ge hlt, Nat.min_eq_left hlt]
    have hpagerow {e : ℕ × AcceptedRow} (he : e ∈ page) : db.accepted[e.1]? = some e.2 :=
      (Table.mem_rows.1 (List.mem_of_mem_take he)).1
    obtain ⟨-, rfl⟩ := (mapM_eq_ok (fun e _ y => ReplicationOperationResult.parse_eq_ok e.2.result y)
      entries).1 hentries
    simp only [Answers, Option.map_some, List.map_map, List.length_map]
    rw [page_end hpagekeys] at hcursor
    refine ⟨⟨?_, ?_, ?_, ?_⟩, cursorAt_of_encode hcursor⟩
    · rw [List.map_map, List.length_map, ← hpagekeys]
      refine List.map_congr_left fun e he => ?_
      exact (hlog.faithful e.1 e.2 (hlog.retained _ _ (hpagerow he))).result_sequence
    · intro entry hentry
      obtain ⟨e, he, rfl⟩ := List.mem_map.1 hentry
      have hrow := hpagerow he
      have hsequence := (hlog.faithful e.1 e.2 (hlog.retained _ _ hrow)).result_sequence
      refine ⟨e.2, ?_, by simp⟩
      change db.accepted[e.2.result.authoritySequence]? = some e.2
      rw [hsequence, hrow]
    · intro hmore
      have hcount : rows.length = db.sequence - p := by
        simpa using congrArg List.length hkeys
      rw [List.length_map, hlength]
      simp only [List.length_take, decide_eq_true_eq, lt_min_iff, hcount] at hmore
      omega
    · intro hmore
      have hcount : rows.length = db.sequence - p := by
        simpa using congrArg List.length hkeys
      rw [List.length_map, hlength]
      simp only [List.length_take, decide_eq_false_iff_not, lt_min_iff, hcount] at hmore
      omega

/-! ### Pulling again and again -/

/-- An authority with a replica that follows its feed: the cursor that the replica holds, the
    sequence that its last snapshot covers, and the entries that it was given since. -/
structure Follower where
  db : Database
  cursor : Option Cursor
  base : ℕ
  entries : List ReplicationOperationResult

/-- What happens at the authority before a pull, and the pull with a cursor to be filled in. -/
structure PullRound where
  before : List AuthorityAction
  options : PullReplicationOptions

/-- The options of a round, with the cursor that the replica holds. -/
def PullRound.pull (round : PullRound) (follower : Follower) : PullReplicationOptions :=
  { round.options with cursor := follower.cursor }

/-- What an answered pull leaves: a snapshot starts the replica afresh. -/
def Follower.receive (follower : Follower) (db : Database) (response : ReplicationPullResponse) :
    Follower :=
  match response.incremental with
  | none => ⟨db, some response.nextCursor, response.snapshot.coveredSequence, []⟩
  | some (entries, _) =>
    ⟨db, some response.nextCursor, follower.base, follower.entries ++ entries⟩

/-- The authority when a round pulls. -/
def Follower.authorityAt (rt : Runtime) (follower : Follower) (round : PullRound) : Database :=
  run (authorityStep rt) follower.db round.before

/-- One round: a refused pull leaves the replica as it was. -/
def follow (rt : Runtime) (follower : Follower) (round : PullRound) : Follower :=
  match pullReplication rt (follower.authorityAt rt round) (round.pull follower) with
  | .error _ => { follower with db := follower.authorityAt rt round }
  | .ok (db, response) => follower.receive db response

theorem follow_error {follower : Follower} {round : PullRound} {e : Failure}
    (h : pullReplication rt (follower.authorityAt rt round) (round.pull follower) = .error e) :
    follow rt follower round = { follower with db := follower.authorityAt rt round } := by
  delta follow
  rw [h]

theorem follow_ok {follower : Follower} {round : PullRound} {response : ReplicationPullResponse}
    (h : pullReplication rt (follower.authorityAt rt round) (round.pull follower) =
      .ok (db', response)) : follow rt follower round = follower.receive db' response := by
  delta follow
  rw [h]

/-- The state of a replica that has missed nothing. -/
structure Following (rt : Runtime) (follower : Follower) : Prop where
  retains : Retains follower.db
  logged : ∃ history, Logged rt follower.db history
  cursor : CursorAt rt follower.cursor (follower.base + follower.entries.length)
  entries : follower.entries.map (·.authoritySequence) =
    List.range' (follower.base + 1) follower.entries.length

variable (rt) in
theorem authority_run_logged (hlog : ∃ history, Logged rt db history)
    (actions : List AuthorityAction) :
    ∃ history, Logged rt (run (authorityStep rt) db actions) history := by
  obtain ⟨history, hlog⟩ := hlog
  obtain ⟨history', hlog', -⟩ := (authority_run_path rt db actions).logged hlog
  exact ⟨history', hlog'⟩

/-- INVARIANT: an answered pull of a replica that has missed nothing. -/
theorem Following.receive {follower : Follower} (h : Following rt follower)
    {response : ReplicationPullResponse} {limit : ℕ} (hr' : Retains db')
    (hlog' : ∃ history, Logged rt db' history)
    (hanswers : Answers rt db (follower.base + follower.entries.length) limit response) :
    Following rt (follower.receive db' response) := by
  unfold Follower.receive
  cases hincremental : response.incremental with
  | none =>
    simp only [Answers, hincremental] at hanswers
    exact ⟨hr', hlog', hanswers, rfl⟩
  | some page =>
    obtain ⟨entries, more⟩ := page
    simp only [Answers, hincremental] at hanswers
    obtain ⟨hdelivers, hcursor⟩ := hanswers
    constructor
    case retains => exact hr'
    case logged => exact hlog'
    case cursor =>
      rw [List.length_append, ← Nat.add_assoc]
      exact hcursor
    case entries =>
      rw [List.map_append, List.length_append, h.entries, hdelivers.sequences,
        Nat.add_right_comm, List.range'_append_1]

/-- INVARIANT: a round of a replica that has missed nothing. -/
theorem Following.step {follower : Follower} (h : Following rt follower) (round : PullRound) :
    Following rt (follow rt follower round) := by
  have hr : Retains (follower.authorityAt rt round) := authority_run_retains rt h.retains round.before
  have hlogged : ∃ history, Logged rt (follower.authorityAt rt round) history :=
    authority_run_logged rt h.logged round.before
  cases hpull : pullReplication rt (follower.authorityAt rt round) (round.pull follower) with
  | error e =>
    rw [follow_error hpull]
    exact ⟨hr, hlogged, h.cursor, h.entries⟩
  | ok outcome =>
    obtain ⟨db', response⟩ := outcome
    obtain ⟨history, hlog⟩ := hlogged
    rw [follow_ok hpull]
    exact h.receive ((pull_sameFeed hpull).retains hr) ⟨history, hlog.same (pull_sameLog hpull)⟩
      (pull_answers hr hlog h.cursor hpull)

/-- RUN: however a replica pulls and whatever the authority does in between, it misses nothing. -/
theorem following_run (fresh : db.Fresh) (rounds : List PullRound) :
    Following rt (run (follow rt) ⟨db, none, 0, []⟩ rounds) :=
  run_invariant' (I := Following rt) (fun _ round h => h.step round) rounds
    ⟨fresh.retains, ⟨_, fresh.logged⟩, rfl, rfl⟩

end Tasq
