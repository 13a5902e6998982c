import Mathlib.Tactic
import Tasq.Work.Beliefs

/-! Whole histories of shared assumptions. -/

namespace Tasq

open Text Outcome Run

/-- A step of a history: a call on assumptions, or anything that leaves both of their tables. -/
inductive BeliefAction where
  | attach (taskId : UuidV7) (text : String) (newId newLinkId : UuidV7) (ctx : PrincipalContext)
  | withdraw (input : WithdrawAssumptionInput) (ctx : PrincipalContext)
  | resume (taskId : UuidV7) (reason : String) (ctx : PrincipalContext)
  | elsewhere (rest : WorkStore)

namespace WorkStore

variable (rt : WorkRuntime)

/-- The workspace before the first assumption. -/
def withoutBeliefs (s : WorkStore) : WorkStore := { s with assumptions := ∅, links := ∅ }

/-- The workspace after a step; a refused call changes nothing. -/
def beliefStep (s : WorkStore) : BeliefAction → WorkStore
  | .attach taskId text newId newLinkId ctx =>
    settle s (Prod.fst <$> s.attachAssumption rt taskId text newId newLinkId ctx)
  | .withdraw input ctx => settle s (Prod.fst <$> s.withdrawAssumption rt input ctx)
  | .resume taskId reason ctx => settle s (Prod.fst <$> s.resumeCommitment rt taskId reason ctx)
  | .elsewhere rest => { rest with assumptions := s.assumptions, links := s.links }

/-- The commitment that a step resumes. -/
def resumedBy (s : WorkStore) : BeliefAction → List UuidV7
  | .resume taskId reason ctx =>
    match s.resumeCommitment rt taskId reason ctx with
    | .ok _ => [taskId]
    | .error _ => []
  | _ => []

/-- The input names the record: by its id, or by its text where nothing stands under the text and
    no other record of the text was withdrawn as late. -/
def Reaches (s : WorkStore) (input : WithdrawAssumptionInput) (a : UuidV7 × Assumption) : Prop :=
  input.assumptionId = some a.1 ∨
    input.assumptionId = none ∧
      normalizeAssumptionText rt (input.text.getD "") = a.2.normalizedText ∧
      s.findStanding a.2.normalizedText = none ∧
      ∀ (j : UuidV7) (b : Assumption), s.assumptions[j]? = some b → j ≠ a.1 →
        b.status = .withdrawn → b.normalizedText = a.2.normalizedText →
          b.withdrawnAt.getD 0 < a.2.withdrawnAt.getD 0

/-! ### What every history keeps -/

/-- INVARIANT: one record stands under a text, a record keeps its text, and a commitment has one
    active link to a record. -/
structure Beliefs (s : WorkStore) : Prop where
  standing : ∀ (i j : UuidV7) (a b : Assumption), s.assumptions[i]? = some a →
    s.assumptions[j]? = some b → a.status = .standing → b.status = .standing →
      a.normalizedText = b.normalizedText → i = j
  normal : ∀ (i : UuidV7) (a : Assumption), s.assumptions[i]? = some a →
    a.normalizedText = normalizeAssumptionText rt a.text
  active : ∀ (l l' : UuidV7) (link link' : AssumptionLink), s.links[l]? = some link →
    s.links[l']? = some link' → link.status = .active → link'.status = .active →
      link.assumptionId = link'.assumptionId → link.taskId = link'.taskId → l = l'

variable {rt} {s s' : WorkStore}

theorem withoutBeliefs_beliefs (s : WorkStore) : Beliefs rt s.withoutBeliefs where
  standing i _ _ _ hi := by simp [withoutBeliefs] at hi
  normal i _ hi := by simp [withoutBeliefs] at hi
  active l _ _ _ hl := by simp [withoutBeliefs] at hl

theorem Beliefs.of_tables (hs : Beliefs rt s) (ha : s'.assumptions = s.assumptions)
    (hl : s'.links = s.links) : Beliefs rt s' := by
  refine ⟨?_, ?_, ?_⟩
  · rw [ha]
    exact hs.standing
  · rw [ha]
    exact hs.normal
  · rw [hl]
    exact hs.active

/-- The records of a text, after one of them is withdrawn or one is stated where none stood. -/
theorem Beliefs.insert_standing (hs : Beliefs rt s) {id : UuidV7} {row : Assumption}
    (hrow : row.status = .standing → s.findStanding row.normalizedText = none) :
    ∀ (i j : UuidV7) (a b : Assumption), (s.assumptions.insert id row)[i]? = some a →
      (s.assumptions.insert id row)[j]? = some b → a.status = .standing → b.status = .standing →
        a.normalizedText = b.normalizedText → i = j := by
  intro i j a b hi hj ha hb htext
  rw [Table.getElem?_insert'] at hi hj
  split at hi <;> split at hj
  · rename_i hi' hj'
    rw [← hi', hj']
  · obtain rfl : row = a := Option.some.inj hi
    exact absurd htext.symm (findStanding_eq_none.1 (hrow ha) j b hj hb)
  · obtain rfl : row = b := Option.some.inj hj
    exact absurd htext (findStanding_eq_none.1 (hrow hb) i a hi ha)
  · exact hs.standing i j a b hi hj ha hb htext

theorem Beliefs.insert_normal (hs : Beliefs rt s) {id : UuidV7} {row : Assumption}
    (hrow : row.normalizedText = normalizeAssumptionText rt row.text) :
    ∀ (i : UuidV7) (a : Assumption), (s.assumptions.insert id row)[i]? = some a →
      a.normalizedText = normalizeAssumptionText rt a.text := by
  intro i a hi
  rw [Table.getElem?_insert'] at hi
  split at hi
  · obtain rfl : row = a := Option.some.inj hi
    exact hrow
  · exact hs.normal i a hi

theorem Beliefs.insert_active (hs : Beliefs rt s) {id : UuidV7} {row : AssumptionLink}
    (hrow : ¬ s.Linked row.assumptionId row.taskId) :
    ∀ (l l' : UuidV7) (link link' : AssumptionLink), (s.links.insert id row)[l]? = some link →
      (s.links.insert id row)[l']? = some link' → link.status = .active →
        link'.status = .active → link.assumptionId = link'.assumptionId →
          link.taskId = link'.taskId → l = l' := by
  intro l l' link link' hl hl' ha ha' hid htask
  rw [Table.getElem?_insert'] at hl hl'
  split at hl <;> split at hl'
  · rename_i hi hi'
    rw [← hi, hi']
  · obtain rfl : row = link := Option.some.inj hl
    exact absurd ⟨l', link', hl', hid.symm, htask.symm, ha'⟩ hrow
  · obtain rfl : row = link' := Option.some.inj hl'
    exact absurd ⟨l, link, hl, hid, htask, ha⟩ hrow
  · exact hs.active l l' link link' hl hl' ha ha' hid htask

/-- STEP: a step keeps the invariant. -/
theorem beliefStep_beliefs (action : BeliefAction) (hs : Beliefs rt s) :
    Beliefs rt (s.beliefStep rt action) := by
  unfold beliefStep
  cases action with
  | attach taskId text newId newLinkId ctx =>
    refine settle_fst_rule hs fun s' e h => ?_
    obtain ⟨-, hstanding, hassumptions, hlinks⟩ := attachAssumption_eq h
    refine ⟨?_, ?_, ?_⟩
    · obtain ⟨heq, -⟩ | ⟨-, hnone, -, hinsert⟩ := hassumptions
      · rw [heq]
        exact hs.standing
      · rw [hinsert]
        exact hs.insert_standing fun _ => hnone
    · obtain ⟨heq, -⟩ | ⟨-, -, hnormal, hinsert⟩ := hassumptions
      · rw [heq]
        exact hs.normal
      · rw [hinsert]
        exact hs.insert_normal hnormal
    · obtain heq | ⟨-, hunlinked, hid, htask, hinsert⟩ := hlinks
      · rw [heq]
        exact hs.active
      · rw [hinsert]
        refine hs.insert_active ?_
        rw [hid, htask]
        exact hunlinked
  | withdraw input ctx =>
    refine settle_fst_rule hs fun s' result h => ?_
    obtain ⟨row, hrow, hwithdrawn, hcase⟩ := withdrawAssumption_eq h
    obtain ⟨-, rfl, -⟩ | ⟨-, -, htext, hnormal, hassumptions, hlinks, -⟩ := hcase
    · exact hs
    · refine ⟨?_, ?_, ?_⟩
      · rw [hassumptions]
        refine hs.insert_standing fun hstanding => ?_
        rw [hwithdrawn] at hstanding
        cases hstanding
      · rw [hassumptions]
        refine hs.insert_normal ?_
        rw [hnormal, htext]
        exact hs.normal _ row hrow
      · rw [hlinks]
        exact hs.active
  | resume taskId reason ctx =>
    refine settle_fst_rule hs fun s' unlinked h => ?_
    obtain ⟨hassumptions, -, hlinks⟩ := resumeCommitment_eq h
    refine ⟨?_, ?_, ?_⟩
    · rw [hassumptions]
      exact hs.standing
    · rw [hassumptions]
      exact hs.normal
    · intro l l' link link' hl hl' ha ha'
      exact hs.active l l' link link' ((hlinks l link ha).1 hl).1 ((hlinks l' link' ha').1 hl').1
        ha ha'
  | elsewhere rest => exact hs.of_tables rfl rfl

/-- RUN: a history keeps the invariant. -/
theorem beliefs_run (s : WorkStore) (history : List BeliefAction) :
    Beliefs rt (run (beliefStep rt) s.withoutBeliefs history) :=
  run_invariant' (I := Beliefs rt) (fun _ action hs => beliefStep_beliefs action hs) history
    s.withoutBeliefs_beliefs

/-! ### What becomes of a withdrawn record -/

/-- STEP: a withdrawn record is final. -/
theorem withdrawn_step {id : UuidV7} {a : Assumption} (ha : s.assumptions[id]? = some a)
    (hwithdrawn : a.status = .withdrawn) (action : BeliefAction) :
    (s.beliefStep rt action).assumptions[id]? = some a := by
  unfold beliefStep
  cases action with
  | attach taskId text newId newLinkId ctx =>
    refine settle_fst_rule (I := fun t : WorkStore => t.assumptions[id]? = some a) ha
      fun s' e h => ?_
    obtain ⟨-, -, ⟨heq, -⟩ | ⟨hfresh, -, -, hinsert⟩, -⟩ := attachAssumption_eq h
    · rw [heq]
      exact ha
    · have hne : e.assumption.1 ≠ id := by
        rintro rfl
        simp [ha] at hfresh
      rw [hinsert, Table.getElem?_insert', if_neg hne]
      exact ha
  | withdraw input ctx =>
    refine settle_fst_rule (I := fun t : WorkStore => t.assumptions[id]? = some a) ha
      fun s' result h => ?_
    obtain ⟨row, hrow, -, hcase⟩ := withdrawAssumption_eq h
    obtain ⟨-, rfl, -⟩ | ⟨hstanding, -, -, -, hassumptions, -⟩ := hcase
    · exact ha
    · have hne : result.assumption.1 ≠ id := by
        rintro rfl
        obtain rfl : a = row := Option.some.inj (ha.symm.trans hrow)
        rw [hwithdrawn] at hstanding
        cases hstanding
      rw [hassumptions, Table.getElem?_insert', if_neg hne]
      exact ha
  | resume taskId reason ctx =>
    refine settle_fst_rule (I := fun t : WorkStore => t.assumptions[id]? = some a) ha
      fun s' unlinked h => ?_
    rw [(resumeCommitment_eq h).1]
    exact ha
  | elsewhere rest => exact ha

theorem linked_of_links (h : s'.links = s.links) {id taskId : UuidV7} :
    s'.Linked id taskId ↔ s.Linked id taskId := by
  unfold Linked
  rw [h]

/-- STEP: an active link to a withdrawn record falls away at the resumption of its commitment, and
    at no other step. -/
theorem linked_step {id taskId : UuidV7} {a : Assumption} (ha : s.assumptions[id]? = some a)
    (hwithdrawn : a.status = .withdrawn) (action : BeliefAction) :
    (s.beliefStep rt action).Linked id taskId ↔
      s.Linked id taskId ∧ taskId ∉ s.resumedBy rt action := by
  unfold beliefStep
  cases action with
  | attach other text newId newLinkId ctx =>
    simp only [resumedBy, List.not_mem_nil, not_false_eq_true, and_true]
    refine settle_fst_rule (I := fun t : WorkStore => t.Linked id taskId ↔ s.Linked id taskId)
      Iff.rfl fun s' e h => ?_
    obtain ⟨-, hstanding, hassumptions, heq | ⟨hfresh, -, hid, -, hinsert⟩⟩ := attachAssumption_eq h
    · exact linked_of_links heq
    · -- the new link is to a record that stands or is new, so not to this one
      have hne : e.link.2.assumptionId ≠ id := by
        rw [hid]
        rintro rfl
        obtain ⟨-, hrow⟩ | ⟨hnone, -⟩ := hassumptions
        · obtain heq : a = e.assumption.2 := Option.some.inj (ha.symm.trans hrow)
          rw [← heq, hwithdrawn] at hstanding
          cases hstanding
        · simp [ha] at hnone
      unfold Linked
      rw [hinsert]
      refine exists_congr fun l => exists_congr fun link => ?_
      rw [Table.getElem?_insert']
      split
      · rename_i hl
        subst hl
        rw [hfresh]
        constructor
        · rintro ⟨hlink, hlinkId, -⟩
          obtain rfl : e.link.2 = link := Option.some.inj hlink
          exact absurd hlinkId hne
        · rintro ⟨hlink, -⟩
          cases hlink
      · rfl
  | withdraw input ctx =>
    simp only [resumedBy, List.not_mem_nil, not_false_eq_true, and_true]
    refine settle_fst_rule (I := fun t : WorkStore => t.Linked id taskId ↔ s.Linked id taskId)
      Iff.rfl fun s' result h => ?_
    obtain ⟨row, -, -, ⟨-, rfl, -⟩ | ⟨-, -, -, -, -, hlinks, -⟩⟩ := withdrawAssumption_eq h
    · rfl
    · exact linked_of_links hlinks
  | resume other reason ctx =>
    cases hcall : s.resumeCommitment rt other reason ctx with
    | error e => simp [resumedBy, hcall, settle, Functor.map, Except.map]
    | ok answer =>
      obtain ⟨s', unlinked⟩ := answer
      have hlinks := (resumeCommitment_eq hcall).2.2
      simp only [resumedBy, hcall, settle, Functor.map, Except.map, Linked,
        List.mem_singleton]
      constructor
      · rintro ⟨l, link, hlink, rfl, rfl, hactive⟩
        obtain ⟨hlink, hnot⟩ := (hlinks l link hactive).1 hlink
        exact ⟨⟨l, link, hlink, rfl, rfl, hactive⟩, fun htask => hnot ⟨htask, a, ha, hwithdrawn⟩⟩
      · rintro ⟨⟨l, link, hlink, rfl, rfl, hactive⟩, hnot⟩
        exact ⟨l, link, (hlinks l link hactive).2 ⟨hlink, fun hboth => hnot hboth.1⟩, rfl, rfl,
          hactive⟩
  | elsewhere rest =>
    simp only [resumedBy, List.not_mem_nil, not_false_eq_true, and_true]
    exact linked_of_links rfl

/-- RUN: a withdrawn record stays as it is, and keeps the links of the commitments that are not
    resumed. -/
theorem withdrawn_run {id : UuidV7} {a : Assumption} (hwithdrawn : a.status = .withdrawn)
    (history : List BeliefAction) : ∀ s : WorkStore, s.assumptions[id]? = some a →
      (run (beliefStep rt) s history).assumptions[id]? = some a ∧
        ∀ taskId, (run (beliefStep rt) s history).Linked id taskId ↔
          s.Linked id taskId ∧ taskId ∉ trace (beliefStep rt) (resumedBy rt) s history := by
  induction history with
  | nil =>
    intro s ha
    simp [trace, ha]
  | cons action history ih =>
    intro s ha
    obtain ⟨hrow, hlinked⟩ := ih _ (withdrawn_step ha hwithdrawn action)
    refine ⟨hrow, fun taskId => ?_⟩
    rw [run_cons, hlinked taskId, linked_step ha hwithdrawn action, trace, List.mem_append, not_or,
      and_assoc]

/-- Repeating a withdrawal: an input that still names the record changes nothing, and answers the
    commitments that are linked to it now. -/
theorem withdrawAssumption_again {raw input : WithdrawAssumptionInput} {ctx : PrincipalContext}
    {id : UuidV7} {a : Assumption} (hrow : s.assumptions[id]? = some a)
    (hwithdrawn : a.status = .withdrawn) (hparse : raw.parse = .ok input)
    (hclock : ctx.now ≤ Json.maxSafeInteger) (hreaches : s.Reaches rt input (id, a)) :
    ∃ result, s.withdrawAssumption rt raw ctx = .ok (s, result) ∧ result.replayed = true ∧
      result.assumption = (id, a) ∧ ∀ taskId, taskId ∈ result.pausedTaskIds ↔ s.Linked id taskId := by
  have hnamed : s.namedAssumption rt input = some (id, a) := by
    unfold namedAssumption
    obtain hid | ⟨hid, htext, hnone, hlatest⟩ := hreaches
    · simp [hid, hrow]
    · simp only [hid, htext, hnone]
      exact findWithdrawn_of_latest hrow hwithdrawn hlatest
  have hnow : ctx.serviceNow = .ok ctx.now := by
    simp [PrincipalContext.serviceNow, refuse, not_lt.2 hclock, pure, Except.pure]
  refine ⟨⟨(id, a), ((s.activeLinks id).map fun e => e.2.taskId).insertionSort (· ≤ ·), true⟩, ?_,
    rfl, rfl, fun taskId => ?_⟩
  · simp [withdrawAssumption, hparse, hnow, hnamed, demand, hwithdrawn, pure, Except.pure]
  · rw [List.mem_insertionSort, mem_activeLinks_taskIds]

/-- No commitment is linked to a record twice. -/
theorem Beliefs.activeLinks_nodup (hs : Beliefs rt s) (id : UuidV7) :
    ((s.activeLinks id).map fun e => e.2.taskId).Nodup := by
  have hkeys : (s.activeLinks id).Nodup :=
    (List.Nodup.of_map _ (Table.keys_nodup s.links)).filter _
  refine hkeys.map_on ?_
  rintro ⟨l, link⟩ he ⟨l', link'⟩ he' htask
  obtain ⟨hl, hid, ha⟩ := mem_activeLinks.1 he
  obtain ⟨hl', hid', ha'⟩ := mem_activeLinks.1 he'
  obtain rfl : l = l' := hs.active l l' link link' hl hl' ha ha' (hid.trans hid'.symm) htask
  obtain rfl : link = link' := Option.some.inj (hl.symm.trans hl')
  rfl

/-- CORRECT: in every history one record stands under a text, every reader takes a commitment for
    paused exactly when it has an active link to a withdrawn record, and a first withdrawal answers
    the live and open commitments linked to its record, once each, and changes no commitment.
    Repeated with an input that still names the record, it changes nothing, and answers of those
    commitments the ones that were not resumed in between. -/
theorem withdrawn_belief_reaches_work (rt : WorkRuntime) (s₀ : WorkStore)
    (before : List BeliefAction) :
    let s := run (beliefStep rt) s₀.withoutBeliefs before
    (∀ (i j : UuidV7) (a b : Assumption), s.assumptions[i]? = some a → s.assumptions[j]? = some b →
        a.status = .standing → b.status = .standing →
          normalizeAssumptionText rt a.text = normalizeAssumptionText rt b.text → i = j) ∧
      (∀ taskId, (taskId ∈ s.pausedTaskIds ↔ s.RestsOnWithdrawn taskId) ∧
        ((s.getTaskAssumptions taskId).paused = true ↔ s.RestsOnWithdrawn taskId) ∧
        (s.assertCommitmentNotPaused taskId = .ok () ↔ ¬ s.RestsOnWithdrawn taskId)) ∧
      ∀ (raw : WithdrawAssumptionInput) (ctx : PrincipalContext) (s₁ : WorkStore)
        (result : WithdrawAssumptionResult), s.withdrawAssumption rt raw ctx = .ok (s₁, result) →
          s₁.tasks = s.tasks ∧ s₁.links = s.links ∧ result.pausedTaskIds.Nodup ∧
          (result.replayed = false → ∀ taskId, taskId ∈ result.pausedTaskIds ↔
            s.Linked result.assumption.1 taskId ∧ s.HasOpenTask taskId) ∧
          ∀ (between : List BeliefAction) (raw' input : WithdrawAssumptionInput)
            (ctx' : PrincipalContext), raw'.parse = .ok input → ctx'.now ≤ Json.maxSafeInteger →
              (run (beliefStep rt) s₁ between).Reaches rt input result.assumption →
                ∃ result', (run (beliefStep rt) s₁ between).withdrawAssumption rt raw' ctx' =
                    .ok (run (beliefStep rt) s₁ between, result') ∧
                  result'.replayed = true ∧ result'.assumption = result.assumption ∧
                  ∀ taskId ∈ result.pausedTaskIds, (taskId ∈ result'.pausedTaskIds ↔
                    taskId ∉ trace (beliefStep rt) (resumedBy rt) s₁ between) := by
  intro s
  have hs : Beliefs rt s := beliefs_run s₀ before
  refine ⟨?_, fun taskId =>
    ⟨mem_pausedTaskIds, getTaskAssumptions_paused, assertCommitmentNotPaused_eq_ok⟩, ?_⟩
  · intro i j a b hi hj ha hb htext
    refine hs.standing i j a b hi hj ha hb ?_
    rw [hs.normal i a hi, hs.normal j b hj, htext]
  · intro raw ctx s₁ result h
    obtain ⟨row, hrow, hwithdrawn, hcase⟩ := withdrawAssumption_eq h
    have hnodup := hs.activeLinks_nodup result.assumption.1
    -- both ways the record is final afterwards, and what is answered is linked to it
    obtain ⟨htasks, hlinks, hanswers, hfirst, hfinal⟩ : s₁.tasks = s.tasks ∧ s₁.links = s.links ∧
        result.pausedTaskIds.Nodup ∧ (result.replayed = false → ∀ taskId,
          taskId ∈ result.pausedTaskIds ↔
            s.Linked result.assumption.1 taskId ∧ s.HasOpenTask taskId) ∧
        s₁.assumptions[result.assumption.1]? = some result.assumption.2 := by
      obtain ⟨rfl, rfl, hreplayed, hpaused⟩ |
        ⟨-, -, -, -, hassumptions, hlinks, htasks, hpaused⟩ := hcase
      · refine ⟨rfl, rfl, ?_, fun h => ?_, hrow⟩
        · rw [hpaused]
          exact (List.perm_insertionSort _ _).nodup_iff.2 hnodup
        · rw [hreplayed] at h
          cases h
      · refine ⟨htasks, hlinks, ?_, fun _ taskId => ?_, ?_⟩
        · rw [hpaused]
          exact (List.perm_insertionSort _ _).nodup_iff.2 (hnodup.filter _)
        · rw [hpaused, List.mem_insertionSort, List.mem_filter, mem_activeLinks_taskIds,
            decide_eq_true_eq]
        · rw [hassumptions, Table.getElem?_insert', if_pos rfl]
    have hlinked : ∀ taskId ∈ result.pausedTaskIds, s₁.Linked result.assumption.1 taskId := by
      intro taskId htask
      rw [linked_of_links hlinks]
      obtain ⟨-, -, -, hpaused⟩ | ⟨-, hreplayed, -⟩ := hcase
      · rw [hpaused, List.mem_insertionSort, mem_activeLinks_taskIds] at htask
        exact htask
      · exact ((hfirst hreplayed taskId).1 htask).1
    refine ⟨htasks, hlinks, hanswers, hfirst, ?_⟩
    intro between raw' input ctx' hparse hclock hreaches
    obtain ⟨hkept, hleft⟩ := withdrawn_run hwithdrawn between s₁ hfinal
    obtain ⟨result', hagain, hreplayed, hsame, hanswer⟩ :=
      withdrawAssumption_again hkept hwithdrawn hparse hclock hreaches
    refine ⟨result', hagain, hreplayed, hsame, fun taskId htask => ?_⟩
    rw [hanswer, hleft]
    exact and_iff_right (hlinked taskId htask)

/-! ### A sentence stated anew -/

/-- A platform whose lower case is that of ASCII. -/
def caseless : WorkRuntime := { plainWorkRuntime with
  toLowerCase := fun text => String.ofList (text.toList.map Char.toLower) }

/-- Two commitments, of which the first rests on a sentence. -/
def restedOn : List BeliefAction :=
  [.elsewhere { opening "w" [] with tasks := Std.ExtTreeMap.ofList [(1, plainTask), (2, plainTask)] },
    .attach 1 "It lags" 10 20 ⟨some "ada", none, none, 5⟩]

/-- The withdrawal of the sentence, with its retry. -/
def wrongBelief : WithdrawAssumptionInput := ⟨some "it  lags", none, "profiled", []⟩

theorem withdrawn_belief_reaches_work_plain : ∃ s₁ result result',
    (run (beliefStep caseless) (opening "w" []).withoutBeliefs restedOn).withdrawAssumption caseless
        wrongBelief ⟨some "ada", none, none, 6⟩ = .ok (s₁, result) ∧
      result.pausedTaskIds = [1] ∧
      (run (beliefStep caseless) s₁ [.resume 1 "still wanted" ⟨none, none, none, 7⟩]).withdrawAssumption
          caseless { wrongBelief with assumptionId := some 10 } ⟨none, none, none, 8⟩ =
        .ok (run (beliefStep caseless) s₁ [.resume 1 "still wanted" ⟨none, none, none, 7⟩], result') ∧
      1 ∉ result'.pausedTaskIds := by
  obtain ⟨⟨s₁, result⟩, hcall, ⟨hpaused, hid⟩, hresumed⟩ : Ends
      ((run (beliefStep caseless) (opening "w" []).withoutBeliefs restedOn).withdrawAssumption
        caseless wrongBelief ⟨some "ada", none, none, 6⟩) fun r =>
      (r.2.pausedTaskIds = [1] ∧ r.2.assumption.1 = 10) ∧
        1 ∈ r.1.resumedBy caseless (.resume 1 "still wanted" ⟨none, none, none, 7⟩) := by
    decide +kernel
  replace hpaused : result.pausedTaskIds = [1] := hpaused
  obtain ⟨-, -, hreach⟩ := withdrawn_belief_reaches_work caseless (opening "w" []) restedOn
  obtain ⟨-, -, -, -, hagain⟩ := hreach _ _ s₁ result hcall
  obtain ⟨result', hcall', -, -, hanswer⟩ := hagain
    [.resume 1 "still wanted" ⟨none, none, none, 7⟩]
    { wrongBelief with assumptionId := some 10 } _ ⟨none, none, none, 8⟩ rfl (by decide)
    (.inl (by rw [hid]))
  refine ⟨s₁, result, result', hcall, hpaused, hcall', fun hmem => ?_⟩
  have hnot := (hanswer 1 (by simp [hpaused])).1 hmem
  rw [trace, List.mem_append, not_or] at hnot
  exact hnot.1 hresumed

/-- NOT SO: a sentence is withdrawn and stated anew for another commitment. The retry of the
    withdrawal names what stands now, so it withdraws the new record and answers the other
    commitment. -/
theorem retry_withdraws_restated : Ends (do
      let s := run (beliefStep caseless) (opening "w" []).withoutBeliefs restedOn
      let (s, first) ← s.withdrawAssumption caseless wrongBelief ⟨some "ada", none, none, 6⟩
      let (s, _) ← s.attachAssumption caseless 2 "It lags" 11 21 ⟨some "bo", none, none, 7⟩
      let (s', again) ← s.withdrawAssumption caseless wrongBelief ⟨some "ada", none, none, 8⟩
      pure (s, first, s', again)) fun r =>
    r.2.1.pausedTaskIds = [1] ∧ r.2.2.2.pausedTaskIds = [2] ∧ r.2.2.2.replayed = false ∧
      r.1.assertCommitmentNotPaused 2 = .ok () ∧
        r.2.2.1.assertCommitmentNotPaused 2 ≠ .ok () := by
  decide +kernel

end WorkStore

end Tasq
