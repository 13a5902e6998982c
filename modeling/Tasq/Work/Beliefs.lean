import Mathlib.Tactic
import Tasq.Lib.Run
import Tasq.Work.Assumptions

/-! Histories of shared assumptions: what stands, what pauses a commitment, and what a withdrawal
    answers when it is repeated.

    A history attaches, withdraws and resumes in any order, between any other changes to the rest of
    the workspace. A withdrawn record is final and gets no new links, so its active links only fall
    away, each at the resumption of its commitment. -/

namespace Tasq

open Text Outcome

namespace WorkStore

variable {rt : WorkRuntime} {s s' : WorkStore}

/-! ### Readers of the pause -/

variable (s) in
/-- The commitment has an active link to the assumption. -/
def Linked (assumptionId taskId : UuidV7) : Prop :=
  ∃ (l : UuidV7) (link : AssumptionLink), s.links[l]? = some link ∧
    link.assumptionId = assumptionId ∧ link.taskId = taskId ∧ link.status = .active

variable (s) in
/-- The commitment has an active link to a withdrawn assumption. -/
def RestsOnWithdrawn (taskId : UuidV7) : Prop :=
  ∃ (id : UuidV7) (a : Assumption), s.assumptions[id]? = some a ∧ a.status = .withdrawn ∧
    s.Linked id taskId

theorem mem_joinedLinks {e : WithdrawnLink} : e ∈ s.joinedLinks ↔
    s.links[e.link.1]? = some e.link.2 ∧ e.assumption.1 = e.link.2.assumptionId ∧
      s.assumptions[e.assumption.1]? = some e.assumption.2 := by
  simp only [joinedLinks, List.mem_filterMap, Option.map_eq_some_iff]
  constructor
  · rintro ⟨link, hlink, a, ha, rfl⟩
    exact ⟨Table.mem_toList.1 hlink, rfl, ha⟩
  · obtain ⟨⟨id, a⟩, l, link⟩ := e
    rintro ⟨hlink, hid, ha⟩
    obtain rfl : id = link.assumptionId := hid
    exact ⟨(l, link), Table.mem_toList.2 hlink, a, ha, rfl⟩

/-- An active link to a withdrawn record, as the join has it. -/
theorem restsOnWithdrawn_iff {taskId : UuidV7} : s.RestsOnWithdrawn taskId ↔
    ∃ e ∈ s.joinedLinks, e.link.2.taskId = taskId ∧ e.link.2.status = .active ∧
      e.assumption.2.status = .withdrawn := by
  constructor
  · rintro ⟨id, a, ha, hstatus, l, link, hlink, rfl, rfl, hactive⟩
    exact ⟨⟨(link.assumptionId, a), l, link⟩, mem_joinedLinks.2 ⟨hlink, rfl, ha⟩, rfl, hactive,
      hstatus⟩
  · rintro ⟨⟨⟨id, a⟩, l, link⟩, he, htask, hactive, hstatus⟩
    obtain ⟨hlink, hid, ha⟩ := mem_joinedLinks.1 he
    exact ⟨id, a, ha, hstatus, l, link, hlink, hid.symm, htask, hactive⟩

theorem mem_withdrawnLinksForTask {taskId : UuidV7} {e : WithdrawnLink} :
    e ∈ s.withdrawnLinksForTask taskId ↔ e ∈ s.joinedLinks ∧ e.link.2.taskId = taskId ∧
      e.link.2.status = .active ∧ e.assumption.2.status = .withdrawn := by
  simp [withdrawnLinksForTask, and_assoc]

theorem withdrawnLinksForTask_eq_nil {taskId : UuidV7} :
    s.withdrawnLinksForTask taskId = [] ↔ ¬ s.RestsOnWithdrawn taskId := by
  rw [List.eq_nil_iff_forall_not_mem, restsOnWithdrawn_iff]
  simp only [mem_withdrawnLinksForTask, not_exists, not_and]

theorem mem_pausedTaskIds {taskId : UuidV7} :
    taskId ∈ s.pausedTaskIds ↔ s.RestsOnWithdrawn taskId := by
  rw [restsOnWithdrawn_iff]
  simp only [pausedTaskIds, List.mem_dedup, List.mem_map, List.mem_filter, Bool.and_eq_true,
    decide_eq_true_eq]
  constructor
  · rintro ⟨e, ⟨he, hactive, hstatus⟩, htask⟩
    exact ⟨e, he, htask, hactive, hstatus⟩
  · rintro ⟨e, he, htask, hactive, hstatus⟩
    exact ⟨e, ⟨he, hactive, hstatus⟩, htask⟩

theorem assertCommitmentNotPaused_eq_ok {taskId : UuidV7} {u : Unit} :
    s.assertCommitmentNotPaused taskId = .ok u ↔ ¬ s.RestsOnWithdrawn taskId := by
  rw [← withdrawnLinksForTask_eq_nil]
  unfold assertCommitmentNotPaused
  split
  · rename_i hnil
    simp [hnil]
  · rename_i first rest hcons
    simp [hcons]

theorem getTaskAssumptions_paused {taskId : UuidV7} :
    (s.getTaskAssumptions taskId).paused = true ↔ s.RestsOnWithdrawn taskId := by
  rw [restsOnWithdrawn_iff]
  simp only [getTaskAssumptions, List.any_eq_true, List.mem_insertionSort, List.mem_filter,
    Bool.and_eq_true, decide_eq_true_eq]
  constructor
  · rintro ⟨e, ⟨he, htask⟩, hactive, hstatus⟩
    exact ⟨e, he, htask, hactive, hstatus⟩
  · rintro ⟨e, he, htask, hactive, hstatus⟩
    exact ⟨e, ⟨he, htask⟩, hactive, hstatus⟩

/-! ### Rows of the two tables -/

theorem findStanding_eq_some {normalized : String} {found : UuidV7 × Assumption}
    (h : s.findStanding normalized = some found) :
    s.assumptions[found.1]? = some found.2 ∧ found.2.normalizedText = normalized ∧
      found.2.status = .standing := by
  have hmem := List.mem_of_mem_head? h
  simpa [Table.mem_rows] using hmem

theorem findStanding_eq_none {normalized : String} :
    s.findStanding normalized = none ↔ ∀ (id : UuidV7) (a : Assumption),
      s.assumptions[id]? = some a → a.status = .standing → a.normalizedText ≠ normalized := by
  rw [findStanding, List.head?_eq_none_iff, Table.rows_eq_nil]
  simp only [Bool.and_eq_false_iff, decide_eq_false_iff_not]
  refine forall₂_congr fun id a => ?_
  tauto

theorem findWithdrawn_eq_some {normalized : String} {found : UuidV7 × Assumption}
    (h : s.findWithdrawn normalized = some found) :
    s.assumptions[found.1]? = some found.2 ∧ found.2.normalizedText = normalized ∧
      found.2.status = .withdrawn := by
  have hmem := List.argmax_mem h
  simpa [Table.mem_rows] using hmem

/-- The record that a text names is the one withdrawn last, where nothing stands under the text. -/
theorem findWithdrawn_of_latest {id : UuidV7} {a : Assumption} (ha : s.assumptions[id]? = some a)
    (hwithdrawn : a.status = .withdrawn)
    (hlatest : ∀ (j : UuidV7) (b : Assumption), s.assumptions[j]? = some b → j ≠ id →
      b.status = .withdrawn → b.normalizedText = a.normalizedText →
        b.withdrawnAt.getD 0 < a.withdrawnAt.getD 0) :
    s.findWithdrawn a.normalizedText = some (id, a) := by
  have hmem : (id, a) ∈ s.assumptions.rows fun _ r =>
      r.normalizedText = a.normalizedText && r.status = .withdrawn := by
    simp [Table.mem_rows, ha, hwithdrawn]
  cases hfound : s.findWithdrawn a.normalizedText with
  | none =>
    rw [List.argmax_eq_none.1 hfound] at hmem
    simp at hmem
  | some found =>
    obtain ⟨hrow, hnormal, hstatus⟩ := findWithdrawn_eq_some hfound
    have hle : a.withdrawnAt.getD 0 ≤ found.2.withdrawnAt.getD 0 :=
      List.le_of_mem_argmax hmem (Option.mem_def.2 hfound)
    by_cases hid : found.1 = id
    · subst hid
      rw [ha, Option.some.injEq] at hrow
      rw [hrow]
    · exact absurd (hlatest found.1 found.2 hrow hid hstatus hnormal) (not_lt.2 hle)

theorem namedAssumption_eq_some {input : WithdrawAssumptionInput} {found : UuidV7 × Assumption}
    (h : s.namedAssumption rt input = some found) : s.assumptions[found.1]? = some found.2 := by
  unfold namedAssumption at h
  split at h
  · rename_i id _
    obtain ⟨a, ha, rfl⟩ := Option.map_eq_some_iff.1 h
    exact ha
  · simp only [Option.orElse_eq_some] at h
    obtain h | ⟨-, h⟩ := h
    · exact (findStanding_eq_some h).1
    · exact (findWithdrawn_eq_some h).1

theorem mem_activeLinks {id : UuidV7} {e : UuidV7 × AssumptionLink} : e ∈ s.activeLinks id ↔
    s.links[e.1]? = some e.2 ∧ e.2.assumptionId = id ∧ e.2.status = .active := by
  simp [activeLinks, Table.mem_rows]

theorem mem_activeLinks_taskIds {id taskId : UuidV7} :
    taskId ∈ (s.activeLinks id).map (fun e => e.2.taskId) ↔ s.Linked id taskId := by
  simp only [List.mem_map, mem_activeLinks, Prod.exists, Linked]
  constructor
  · rintro ⟨l, link, ⟨hlink, hid, hactive⟩, htask⟩
    exact ⟨l, link, hlink, hid, htask, hactive⟩
  · rintro ⟨l, link, hlink, hid, htask, hactive⟩
    exact ⟨l, link, ⟨hlink, hid, hactive⟩, htask⟩

theorem activeLink_eq_none {id taskId : UuidV7} :
    s.activeLink id taskId = none ↔ ¬ s.Linked id taskId := by
  rw [activeLink, List.head?_eq_none_iff, Table.rows_eq_nil]
  simp only [Bool.and_eq_false_iff, decide_eq_false_iff_not, Linked, not_exists, not_and]
  refine forall₂_congr fun l link => ?_
  tauto

/-! ### What one call does -/

theorem ensureActor_eq {actor : String} {now : UnixMs} {p : Principal}
    (h : s.ensureActor rt actor now = .ok (s', p)) : s' = { s with principals := s'.principals } :=
  resolveCallerPrincipal_eq h

/-- STEP: the record of a text stands, and is a new one only where none stood. -/
theorem findOrState_eq {actor principalId text normalized : String} {now : UnixMs} {newId : UuidV7}
    {found : UuidV7 × Assumption}
    (h : s.findOrState rt actor principalId text normalized now newId = .ok (s', found)) :
    s'.links = s.links ∧ s'.tasks = s.tasks ∧ found.2.status = .standing ∧
      (s'.assumptions = s.assumptions ∧ s.assumptions[found.1]? = some found.2 ∨
        s.assumptions[found.1]? = none ∧ s.findStanding normalized = none ∧ found.2.text = text ∧
          found.2.normalizedText = normalized ∧
          s'.assumptions = s.assumptions.insert found.1 found.2) := by
  unfold findOrState at h
  split at h
  · rename_i old hold
    simp only [pure_eq_ok, Prod.mk.injEq] at h
    obtain ⟨rfl, rfl⟩ := h
    obtain ⟨hrow, -, hstanding⟩ := findStanding_eq_some hold
    exact ⟨rfl, rfl, hstanding, .inl ⟨rfl, hrow⟩⟩
  · rename_i hnone
    simp only [insertAssumption, bind_eq_ok, refuse_eq_ok, pure_eq_ok, exists_const,
      Prod.mk.injEq] at h
    obtain ⟨_, ⟨-, hfresh, -, rfl⟩, s₁, hevent, rfl, rfl⟩ := h
    rw [not_or, Std.ExtTreeMap.mem_iff_isSome_getElem?, Bool.not_eq_true,
      Option.isSome_eq_false_iff, Option.isNone_iff_eq_none] at hfresh
    rw [recordEvent_eq hevent]
    exact ⟨rfl, rfl, rfl, .inr ⟨hfresh.1, hnone, rfl, rfl, rfl⟩⟩

/-- STEP: a commitment gets a link to an assumption only where it has no active one. -/
theorem findOrLink_eq {actor principalId : String} {id taskId : UuidV7} {now : UnixMs}
    {newId : UuidV7} {found : UuidV7 × AssumptionLink}
    (h : s.findOrLink rt actor principalId id taskId now newId = .ok (s', found)) :
    s'.assumptions = s.assumptions ∧ s'.tasks = s.tasks ∧
      (s'.links = s.links ∨
        s.links[found.1]? = none ∧ ¬ s.Linked id taskId ∧ found.2.assumptionId = id ∧
          found.2.taskId = taskId ∧ s'.links = s.links.insert found.1 found.2) := by
  unfold findOrLink at h
  split at h
  · simp only [pure_eq_ok, Prod.mk.injEq] at h
    obtain ⟨rfl, -⟩ := h
    exact ⟨rfl, rfl, .inl rfl⟩
  · rename_i hnone
    simp only [insertLink, bind_eq_ok, refuse_eq_ok, pure_eq_ok, exists_const,
      Prod.mk.injEq] at h
    obtain ⟨_, ⟨-, -, hfresh, -, rfl⟩, s₁, hevent, rfl, rfl⟩ := h
    rw [not_or, Std.ExtTreeMap.mem_iff_isSome_getElem?, Bool.not_eq_true,
      Option.isSome_eq_false_iff, Option.isNone_iff_eq_none] at hfresh
    rw [recordEvent_eq hevent]
    exact ⟨rfl, rfl, .inr ⟨hfresh.1, activeLink_eq_none.1 hnone, rfl, rfl, rfl⟩⟩

/-- STEP: an attachment finds or states the record of its sentence, and links to it. -/
theorem attachAssumption_eq {taskId : UuidV7} {raw : String} {newId newLinkId : UuidV7}
    {ctx : PrincipalContext} {e : WithdrawnLink}
    (h : s.attachAssumption rt taskId raw newId newLinkId ctx = .ok (s', e)) :
    s'.tasks = s.tasks ∧ e.assumption.2.status = .standing ∧
      (s'.assumptions = s.assumptions ∧ s.assumptions[e.assumption.1]? = some e.assumption.2 ∨
        s.assumptions[e.assumption.1]? = none ∧
          s.findStanding e.assumption.2.normalizedText = none ∧
          e.assumption.2.normalizedText = normalizeAssumptionText rt e.assumption.2.text ∧
          s'.assumptions = s.assumptions.insert e.assumption.1 e.assumption.2) ∧
      (s'.links = s.links ∨
        s.links[e.link.1]? = none ∧ ¬ s.Linked e.assumption.1 taskId ∧
          e.link.2.assumptionId = e.assumption.1 ∧ e.link.2.taskId = taskId ∧
          s'.links = s.links.insert e.link.1 e.link.2) := by
  simp only [attachAssumption, attachInTransaction, bind_eq_ok, refuse_eq_ok, demand_eq_ok,
    pure_eq_ok, exists_const, Prod.exists, Prod.mk.injEq] at h
  obtain ⟨_, -, now, -, text, -, -, _, -, task, -, -, s₁, p, hactor, s₂, id, row, hstate, s₃, l,
    link, hlink, rfl, rfl⟩ := h
  rw [ensureActor_eq hactor] at hstate
  obtain ⟨hlinks₂, htasks₂, hstanding, hrow⟩ := findOrState_eq hstate
  obtain ⟨hassumptions₃, htasks₃, hlink⟩ := findOrLink_eq hlink
  refine ⟨htasks₃.trans htasks₂, hstanding, ?_, ?_⟩
  · rw [hassumptions₃]
    obtain h | ⟨hfresh, hnone, htext, hnormal, hinsert⟩ := hrow
    · exact .inl h
    · refine .inr ⟨hfresh, ?_, ?_, hinsert⟩
      · rw [hnormal]
        exact hnone
      · rw [hnormal, htext]
  · rw [Linked, hlinks₂] at hlink
    exact hlink

/-- The commitments of a list of links that are live and still open. -/
theorem stillOpen_eq_ok {links : List (UuidV7 × AssumptionLink)} {parts : List (List UuidV7)}
    (h : links.mapM s.stillOpen = .ok parts) :
    parts.flatten = (links.map fun e => e.2.taskId).filter fun t => s.HasOpenTask t := by
  have hread : ∀ e ∈ links, ∀ part, s.stillOpen e = .ok part ↔
      (∀ row ∈ s.tasks[e.2.taskId]?, CriteriaBounded row.successCriteria) ∧
        (if s.HasOpenTask e.2.taskId then [e.2.taskId] else []) = part := by
    intro e _ part
    simp only [stillOpen, getTask, bind_eq_ok, Ledger.getTask_eq_ok, pure_eq_ok]
    constructor
    · rintro ⟨_, ⟨rfl, hbounded⟩, rfl⟩
      exact ⟨hbounded, rfl⟩
    · rintro ⟨hbounded, rfl⟩
      exact ⟨_, ⟨rfl, hbounded⟩, rfl⟩
  obtain ⟨-, rfl⟩ := (mapM_eq_ok hread parts).1 h
  clear h hread
  induction links with
  | nil => rfl
  | cons e links ih =>
    rw [List.map_cons, List.flatten_cons, ih, List.map_cons, List.filter_cons]
    by_cases hopen : s.HasOpenTask e.2.taskId <;> simp [hopen]

theorem recordEvents_eq {actor principalId : String} {taskIds : List UuidV7}
    (h : taskIds.foldlM (fun s _ => s.recordEvent rt actor (some principalId)) s = .ok s') :
    s' = { s with principals := s'.principals } :=
  foldlM_invariant _ (fun t : WorkStore => t = { s with principals := t.principals }) taskIds
    (fun t _ t' _ ht hevent => by
      rw [recordEvent_eq hevent, ht])
    rfl h

/-- STEP: a withdrawal of a record that is withdrawn changes nothing; one of a record that stands
    withdraws it, and answers the live and open commitments linked to it. -/
theorem withdrawAssumption_eq {raw : WithdrawAssumptionInput} {ctx : PrincipalContext}
    {result : WithdrawAssumptionResult}
    (h : s.withdrawAssumption rt raw ctx = .ok (s', result)) :
    ∃ row, s.assumptions[result.assumption.1]? = some row ∧
      result.assumption.2.status = .withdrawn ∧
      (row = result.assumption.2 ∧ s' = s ∧ result.replayed = true ∧
          result.pausedTaskIds =
            ((s.activeLinks result.assumption.1).map fun e => e.2.taskId).insertionSort (· ≤ ·) ∨
        row.status = .standing ∧ result.replayed = false ∧
          result.assumption.2.text = row.text ∧
          result.assumption.2.normalizedText = row.normalizedText ∧
          s'.assumptions = s.assumptions.insert result.assumption.1 result.assumption.2 ∧
          s'.links = s.links ∧ s'.tasks = s.tasks ∧
          result.pausedTaskIds = (((s.activeLinks result.assumption.1).map fun e =>
            e.2.taskId).filter fun t => s.HasOpenTask t).insertionSort (· ≤ ·)) := by
  simp only [withdrawAssumption, bind_eq_ok, demand_eq_ok, Prod.exists] at h
  obtain ⟨input, -, now, -, id, row, hnamed, h⟩ := h
  have hrow := namedAssumption_eq_some hnamed
  split at h
  · rename_i hwithdrawn
    simp only [pure_eq_ok, Prod.mk.injEq] at h
    obtain ⟨rfl, rfl⟩ := h
    exact ⟨row, hrow, hwithdrawn, .inl ⟨rfl, rfl, rfl, rfl⟩⟩
  · rename_i hstanding
    have hstanding : row.status = .standing := by
      cases hstatus : row.status with
      | standing => rfl
      | withdrawn => exact absurd hstatus hstanding
    simp only [withdrawStanding, updateAssumption, bind_eq_ok, refuse_eq_ok, pure_eq_ok,
      exists_const, Prod.exists, Prod.mk.injEq] at h
    obtain ⟨s₁, p, hactor, s₂, ⟨-, -, -, rfl⟩, parts, hparts, s₃, hevents, rfl, rfl⟩ := h
    have hopen := stillOpen_eq_ok hparts
    rw [ensureActor_eq hactor] at hevents hopen
    rw [recordEvents_eq hevents, hopen]
    exact ⟨row, hrow, rfl, .inr ⟨hstanding, rfl, rfl, rfl, rfl, rfl, rfl, rfl⟩⟩

/-- STEP: the loop of a resumption leaves the active links that it does not meet. -/
theorem unlinks_active {actor principalId reason : String} {now : UnixMs}
    {es : List WithdrawnLink}
    (h : es.foldlM (fun s e => s.unlink rt actor principalId reason now e) s = .ok s')
    {l : UuidV7} {link : AssumptionLink} (hactive : link.status = .active) :
    s'.links[l]? = some link ↔ s.links[l]? = some link ∧ ∀ e ∈ es, e.link.1 ≠ l := by
  induction es generalizing s with
  | nil =>
    obtain rfl : s = s' := by simpa using h
    simp
  | cons e es ih =>
    rw [List.foldlM_cons, bind_eq_ok] at h
    obtain ⟨m, hm, hrest⟩ := h
    simp only [unlink, updateLink, bind_eq_ok, refuse_eq_ok, pure_eq_ok, exists_const] at hm
    obtain ⟨_, ⟨-, -, -, rfl⟩, hevent⟩ := hm
    have hlinks : m.links = s.links.insert e.link.1 (e.link.2.unlinkedAs principalId reason now) := by
      rw [recordEvent_eq hevent]
    rw [ih hrest, hlinks, Table.getElem?_insert', List.forall_mem_cons]
    split
    · rename_i heq
      have hne : e.link.2.unlinkedAs principalId reason now ≠ link := by
        rintro rfl
        simp [AssumptionLink.unlinkedAs] at hactive
      simp [heq, hne]
    · rename_i hne
      simp [hne]

theorem unlinks_frame {actor principalId reason : String} {now : UnixMs}
    {es : List WithdrawnLink}
    (h : es.foldlM (fun s e => s.unlink rt actor principalId reason now e) s = .ok s') :
    s'.assumptions = s.assumptions ∧ s'.tasks = s.tasks :=
  foldlM_invariant _ (fun t : WorkStore => t.assumptions = s.assumptions ∧ t.tasks = s.tasks) es
    (fun t e t' _ ht hunlink => by
      simp only [unlink, updateLink, bind_eq_ok, refuse_eq_ok, pure_eq_ok, exists_const] at hunlink
      obtain ⟨_, ⟨-, -, -, rfl⟩, hevent⟩ := hunlink
      rw [recordEvent_eq hevent]
      exact ht)
    ⟨rfl, rfl⟩ h

/-- STEP: a resumption takes the commitment off every withdrawn record, and touches no other link. -/
theorem resumeCommitment_eq {taskId : UuidV7} {reason : String} {ctx : PrincipalContext}
    {unlinked : List (UuidV7 × AssumptionLink)}
    (h : s.resumeCommitment rt taskId reason ctx = .ok (s', unlinked)) :
    s'.assumptions = s.assumptions ∧ s'.tasks = s.tasks ∧
      ∀ (l : UuidV7) (link : AssumptionLink), link.status = .active →
        (s'.links[l]? = some link ↔ s.links[l]? = some link ∧
          ¬ (link.taskId = taskId ∧
            ∃ a, s.assumptions[link.assumptionId]? = some a ∧ a.status = .withdrawn)) := by
  simp only [resumeCommitment, bind_eq_ok, refuse_eq_ok, demand_eq_ok, pure_eq_ok, exists_const,
    Prod.exists, Prod.mk.injEq] at h
  obtain ⟨_, -, now, -, _, -, task, -, -, s₁, p, hactor, s₂, hloop, rfl, -⟩ := h
  rw [ensureActor_eq hactor] at hloop
  obtain ⟨hassumptions, htasks⟩ := unlinks_frame hloop
  refine ⟨hassumptions, htasks, fun l link hactive => ?_⟩
  rw [unlinks_active hloop hactive]
  refine and_congr_right fun hlink => ?_
  constructor
  · rintro hnone ⟨htask, a, ha, hwithdrawn⟩
    refine hnone ⟨(link.assumptionId, a), l, link⟩ ?_ rfl
    exact mem_withdrawnLinksForTask.2 ⟨mem_joinedLinks.2 ⟨hlink, rfl, ha⟩, htask, hactive, hwithdrawn⟩
  · rintro hnot e he rfl
    obtain ⟨hjoined, htask, -, hwithdrawn⟩ := mem_withdrawnLinksForTask.1 he
    obtain ⟨hlink', hid, ha⟩ := mem_joinedLinks.1 hjoined
    obtain rfl : e.link.2 = link := Option.some.inj (hlink'.symm.trans hlink)
    exact hnot ⟨htask, e.assumption.2, by rw [← hid]; exact ha, hwithdrawn⟩

end WorkStore

end Tasq
