import Mathlib.Tactic
import Tasq.Lib.Run
import Tasq.Relations.Calls

/-! Runs of calls on relations. The active `depends_on` relations never form a cycle, and as long as
    no relation is ended by its id while another row mirrors it, the two graphs stay in step. -/

namespace Tasq

open Outcome Run

/-- The calls on relations, with what other calls do to the rest of the workspace. -/
inductive RelationAction where
  | add (input : CommitmentRelationInsert) (ctx : PrincipalContext) (freshId : UuidV7)
  | endById (id : UuidV7) (expectedRevision : ℕ) (ctx : PrincipalContext)
  | depend (id : Option UuidV7) (fromTaskId toTaskId : UuidV7) (type : DependencyType)
      (actor : String) (now : UnixMs) (freshId relationId : UuidV7)
  | undepend (options : RelationStore.UndependOptions) (actor : String) (now : UnixMs)
  | capture (work : WorkStore) (taskId sourceTaskId relationId : UuidV7) (actor : String)
      (now : UnixMs)
  | elsewhere (work : WorkStore) (otherRelationIds otherDependencyIds : List UuidV7)

namespace RelationStore

variable {s s' : RelationStore} {rt : RelationRuntime} {now : UnixMs}

/-- A workspace without relations. -/
def opening (work : WorkStore) : RelationStore := ⟨work, ∅, ∅, [], [], []⟩

/-- One call. A refused call changes nothing. -/
def step (rt : RelationRuntime) (s : RelationStore) : RelationAction → RelationStore
  | .add input ctx freshId =>
    settle s (Prod.fst <$> s.addCommitmentRelation rt input ctx freshId)
  | .endById id expectedRevision ctx => settle s (s.endCommitmentRelation rt id expectedRevision ctx)
  | .depend id fromTaskId toTaskId type actor now freshId relationId =>
    settle s (s.dependTask rt id fromTaskId toTaskId type actor now freshId relationId)
  | .undepend options actor now => settle s (s.undependTask rt options actor now)
  | .capture work taskId sourceTaskId relationId actor now =>
    settle s (s.captureDiscovery rt work taskId sourceTaskId relationId actor now)
  | .elsewhere work otherRelationIds otherDependencyIds =>
    { s with
      work := work
      otherRelationIds := otherRelationIds
      otherDependencyIds := otherDependencyIds }

/-- The relation that an action ends by its id. -/
def EndsById : RelationAction → UuidV7 → Prop
  | .endById id _ _ => (· = id)
  | _ => fun _ => False

theorem step_moves (hs : s.Sound) (a : RelationAction) : Moves (EndsById a) s (s.step rt a) := by
  cases a with
  | add input ctx freshId =>
    exact settle_fst_rule (I := fun t => Moves _ s t) (.same rfl rfl)
      fun s' b h => addCommitmentRelation_moves h
  | endById id expectedRevision ctx =>
    exact settle_rule (I := fun t => Moves _ s t) (.same rfl rfl)
      fun s' h => endCommitmentRelation_moves h
  | depend id fromTaskId toTaskId type actor now freshId relationId =>
    exact settle_rule (I := fun t => Moves _ s t) (.same rfl rfl) fun s' h => dependTask_moves hs h
  | undepend options actor now =>
    exact settle_rule (I := fun t => Moves _ s t) (.same rfl rfl)
      fun s' h => undependTask_moves hs h
  | capture work taskId sourceTaskId relationId actor now =>
    exact settle_rule (I := fun t => Moves _ s t) (.same rfl rfl)
      fun s' h => captureDiscovery_moves h
  | elsewhere work otherRelationIds otherDependencyIds => exact .same rfl rfl

theorem sound_opening (work : WorkStore) : (opening work).Sound where
  sameEdge := by simp [opening]
  mirrored := by simp [opening, ActiveEdge]
  oneActive := by simp [opening]
  oneLive := by simp [opening]
  types := by simp [opening]
  acyclic := by
    intro a hcycle
    obtain ⟨b, hedge, -⟩ := Relation.TransGen.head'_iff.1 hcycle
    simp [DependsOn, ActiveEdge, opening] at hedge

/-- RUN: the invariant holds after any calls. -/
theorem sound_run (rt : RelationRuntime) (work : WorkStore) (actions : List RelationAction) :
    (run (step rt) (opening work) actions).Sound :=
  run_invariant' (fun _ a hs => hs.moves (step_moves hs a)) actions (sound_opening work)

/-! ### What is blocked -/

/-- The commitment is live and neither done nor cancelled. -/
def OpenTask (s : RelationStore) (id : UuidV7) : Prop :=
  ∃ row, s.work.tasks[id]? = some row ∧ row.deletedAt = none ∧ row.status ≠ .done ∧
    row.status ≠ .cancelled

/-- The blockers of a commitment, as ids. -/
theorem mem_unresolvedBlockers {taskId b : UuidV7} :
    b ∈ (s.unresolvedBlockers taskId).map Prod.fst ↔ s.DependsOn taskId b ∧ s.OpenTask b := by
  simp only [unresolvedBlockers, List.mem_map, List.mem_filterMap, Table.mem_rows,
    decide_eq_true_eq, Option.map_eq_some_iff, Option.filter_eq_some_iff,
    Option.isNone_iff_eq_none, OpenTask, DependsOn, ActiveEdge]
  constructor
  · rintro ⟨blocker, ⟨⟨id, r⟩, ⟨hr, hfrom, htype, hopen⟩, row, ⟨hrow, hlive⟩, rfl⟩, rfl⟩
    exact ⟨⟨id, r, hr, by rw [← hfrom, ← htype], hopen⟩, row, hrow, hlive⟩
  · rintro ⟨⟨id, r, hr, hedge, hopen⟩, row, hrow, hlive⟩
    refine ⟨(b, row), ⟨(id, r), ⟨hr, ?_, ?_, hopen⟩, row, ⟨?_, hlive⟩, ?_⟩, rfl⟩ <;>
      simp [hedge, hrow]

theorem unresolvedBlockers_ne_nil {taskId : UuidV7} :
    s.unresolvedBlockers taskId ≠ [] ↔ ∃ b, s.DependsOn taskId b ∧ s.OpenTask b := by
  rw [Ne, ← List.map_eq_nil_iff (f := Prod.fst), List.eq_nil_iff_forall_not_mem, not_forall_not]
  exact exists_congr fun b => mem_unresolvedBlockers

/-- CORRECT: whatever calls add, end and add again, in any order, the active `depends_on` relations
    form no cycle, and a commitment is blocked exactly when one of them leads to a live commitment
    that is neither done nor cancelled. -/
theorem depends_on_acyclic (rt : RelationRuntime) (work : WorkStore)
    (actions : List RelationAction) :
    let s := run (step rt) (opening work) actions
    Search.Acyclic s.DependsOn ∧
      ∀ taskId, s.unresolvedBlockers taskId ≠ [] ↔ ∃ b, s.DependsOn taskId b ∧ s.OpenTask b :=
  ⟨(sound_run rt work actions).acyclic, fun _ => unresolvedBlockers_ne_nil⟩

/-! ### The graphs in step -/

/-- Every live dependency has an active relation. -/
def Followed (s : RelationStore) : Prop := ∀ e, s.LiveEdge e → s.ActiveEdge e

/-- No live dependency but the one under `id` mirrors the active relation under `id`. -/
def MirroredById (s : RelationStore) (id : UuidV7) : Prop :=
  ∀ e ∈ s.relations.toList, e.1 = id → e.2.endedAt = none →
    ∀ f ∈ s.dependencies.toList, f.2.edge = e.2.toRelationEdge → f.2.deletedAt = none → f.1 = id

instance instDecidableMirroredById (s : RelationStore) (id : UuidV7) :
    Decidable (s.MirroredById id) := by
  unfold MirroredById
  infer_instance

theorem dependencyType_edge_ne_none {d : TaskDependency} (h : d.type ≠ .discoveredFrom) :
    d.edge.relationType.dependencyType ≠ none := by
  cases htype : d.type <;>
    simp_all [TaskDependency.edge, DependencyType.relationType, RelationType.dependencyType]

/-- STEP: every live dependency keeps or gets an active relation. -/
theorem Followed.moves {E : UuidV7 → Prop} (hf : s.Followed) (hs : s.Sound) (h : Moves E s s')
    (hE : ∀ id, E id → s.MirroredById id) : s'.Followed := by
  cases h with
  | same hr hd => simpa [Followed, LiveEdge, ActiveEdge, hr, hd] using hf
  | notes id r hid hopen hfree htype hr hd =>
    intro e he
    refine (activeEdge_insert hr hid hopen e).2 (.inl (hf e ?_))
    simpa [LiveEdge, hd] using he
  | places id depId r d hid hopen hlive hedge hfree hfree' htype hdep hcycle hr hd =>
    rintro e ⟨k, a, hk, rfl, halive⟩
    refine (activeEdge_insert hr hid hopen _).2 ?_
    rw [hd, Table.getElem?_insert'] at hk
    split at hk
    · cases hk
      exact .inr hedge.symm
    · exact .inl (hf _ ⟨k, a, hk, rfl, halive⟩)
  | ends id r principalId now hid hopen hends hr hd =>
    rintro e ⟨k, d', hk, rfl, hlive⟩
    rw [hd] at hk
    obtain ⟨d, hold, hedge, -, hkept⟩ := deleteDependency_old hk
    obtain ⟨hdlive, hne⟩ := hkept hlive
    rw [← hedge]
    obtain ⟨j, a, hj, hae, haopen⟩ := hf _ ⟨k, d, hold, rfl, hdlive⟩
    by_cases hjid : j = id
    · -- the relation that ends has no live dependency left
      subst hjid
      obtain rfl := Option.some.inj (hid.symm.trans hj)
      rcases hends with htype | hE'
      · exact absurd (hae ▸ htype) (dependencyType_edge_ne_none (hs.types k d hold))
      · exact absurd (hE j hE' (j, r) (Table.mem_toList.2 hid) rfl hopen (k, d)
          (Table.mem_toList.2 hold) hae.symm hdlive) hne
    · exact ⟨j, a, by rw [hr, Std.ExtTreeMap.getElem?_map, hj]; simp [hjid], hae, haopen⟩
  | removes id d principalId now hid hdlive hr hd =>
    rintro e ⟨k, d', hk, rfl, hlive⟩
    rw [hd] at hk
    obtain ⟨b, hk, hedge, -, hkept⟩ := deleteDependency_old hk
    obtain ⟨hblive, hne⟩ := hkept hlive
    rw [← hedge]
    obtain ⟨j, a, hj, hae, haopen⟩ := hf _ ⟨k, b, hk, rfl, hblive⟩
    have hother : ¬ (a.toRelationEdge = d.edge ∧ a.endedAt = none) := fun hsame =>
      hne (hs.oneLive k id b d hk hid hblive hdlive (hae.symm.trans hsame.1))
    exact ⟨j, a, by rw [hr, Std.ExtTreeMap.getElem?_map, hj, Option.map_some, if_neg hother], hae,
      haopen⟩

/-- A call ends a relation by its id only when the row under that id is what mirrors it. -/
def Matching (s : RelationStore) : RelationAction → Prop
  | .endById id _ _ => s.MirroredById id
  | _ => True

instance instDecidableMatching (s : RelationStore) (a : RelationAction) :
    Decidable (s.Matching a) := by
  cases a <;> unfold Matching <;> infer_instance

theorem followed_step (rt : RelationRuntime) (s : RelationStore) (a : RelationAction)
    (h : s.Matching a) (hs : s.Sound ∧ s.Followed) :
    (s.step rt a).Sound ∧ (s.step rt a).Followed := by
  have hmoves : Moves _ s (s.step rt a) := step_moves hs.1 a
  refine ⟨hs.1.moves hmoves, hs.2.moves hs.1 hmoves fun id hE => ?_⟩
  cases a with
  | endById id' _ _ =>
    have hid : id = id' := hE
    exact hid ▸ h
  | _ => exact hE.elim

/-! ### What follows -/

/-- The live dependencies are the active relations of the mirrored types. -/
theorem liveEdge_iff (hs : s.Sound) (hf : s.Followed) (e : RelationEdge) :
    s.LiveEdge e ↔ s.ActiveEdge e ∧ e.relationType.dependencyType ≠ none := by
  constructor
  · rintro ⟨k, d, hk, rfl, hlive⟩
    exact ⟨hf _ ⟨k, d, hk, rfl, hlive⟩, dependencyType_edge_ne_none (hs.types k d hk)⟩
  · rintro ⟨hactive, htype⟩
    exact hs.mirrored e hactive htype

/-- The statuses of the prioritizer name the open commitments. -/
theorem statusById_open {id : UuidV7} :
    (∃ status ∈ s.statusById id, status ≠ .done ∧ status ≠ .cancelled) ↔ s.OpenTask id := by
  simp only [statusById, Option.mem_def, Option.map_eq_some_iff, Option.filter_eq_some_iff,
    decide_eq_true_eq, Option.isNone_iff_eq_none, OpenTask]
  constructor
  · rintro ⟨_, ⟨row, ⟨hrow, hlive, -⟩, rfl⟩, hstatus⟩
    exact ⟨row, hrow, hlive, hstatus⟩
  · rintro ⟨row, hrow, hlive, hdone, hcancelled⟩
    refine ⟨row.status, ⟨row, ⟨hrow, hlive, ?_⟩, rfl⟩, hdone, hcancelled⟩
    cases hstatus : row.status <;> simp_all

/-- Rows in which a value does not come twice. -/
theorem rows_pairwise_ne {ρ : Type} {t : Table UuidV7 ρ} {p : UuidV7 → ρ → Bool} {f : ρ → UuidV7}
    (h : ∀ (k k' : UuidV7) a b, t[k]? = some a → t[k']? = some b → p k a = true → p k' b = true →
      f a = f b → k = k') : (t.rows p).Pairwise fun e e' => f e.2 ≠ f e'.2 := by
  have hkeys : (t.rows p).Pairwise fun e e' => e.1 ≠ e'.1 :=
    List.pairwise_map.1 ((Table.keys_nodup t).sublist (List.filter_sublist.map _))
  refine hkeys.imp_of_mem fun {e e'} he he' hne heq => hne ?_
  obtain ⟨hk, hp⟩ := Table.mem_rows.1 he
  obtain ⟨hk', hp'⟩ := Table.mem_rows.1 he'
  exact h _ _ _ _ hk hk' hp hp' heq

theorem unresolvedBlockers_nodup (hs : s.Sound) (taskId : UuidV7) :
    ((s.unresolvedBlockers taskId).map Prod.fst).Nodup := by
  rw [List.Nodup, List.pairwise_map, unresolvedBlockers, List.pairwise_filterMap]
  refine (rows_pairwise_ne (f := fun r => r.toTaskId) fun k k' a b hk hk' ha hb hto => ?_).imp
    fun {e e'} hne x hx x' hx' heq => hne ?_
  · rw [decide_eq_true_eq] at ha hb
    refine hs.oneActive k k' a b hk hk' ha.2.2 hb.2.2 ?_
    rcases a with ⟨⟨_, _, _⟩, _⟩
    rcases b with ⟨⟨_, _, _⟩, _⟩
    simp_all
  · obtain ⟨_, -, rfl⟩ := Option.map_eq_some_iff.1 hx
    obtain ⟨_, -, rfl⟩ := Option.map_eq_some_iff.1 hx'
    exact heq

/-- COUNT: in step, the prioritizer counts the blockers that the claim gate lists. -/
theorem unresolvedBlockerMap_eq (hs : s.Sound) (hf : s.Followed) (taskId : UuidV7) :
    s.unresolvedBlockerMap s.statusById taskId = (s.unresolvedBlockers taskId).length := by
  have hnodup : ((s.dependencies.rows fun _ d => d.fromTaskId = taskId ∧ d.type = .blocks ∧
      d.deletedAt = none ∧ ∃ status ∈ s.statusById d.toTaskId,
        status ≠ .done ∧ status ≠ .cancelled).map fun e => e.2.toTaskId).Nodup := by
    refine List.pairwise_map.2 (rows_pairwise_ne (f := TaskDependency.toTaskId)
      fun k k' a b hk hk' ha hb hto => ?_)
    rw [decide_eq_true_eq] at ha hb
    refine hs.oneLive k k' a b hk hk' ha.2.2.1 hb.2.2.1 ?_
    simp only [TaskDependency.edge, ha.1, hb.1, ha.2.1, hb.2.1, hto]
  have hrows : ((s.unresolvedBlockers taskId).map Prod.fst).length = _ := List.length_map _
  rw [unresolvedBlockerMap, ← hrows,
    ← List.length_map (f := fun e : UuidV7 × TaskDependency => e.2.toTaskId)]
  refine ((List.perm_ext_iff_of_nodup hnodup (unresolvedBlockers_nodup hs taskId)).2
    fun b => ?_).length_eq
  have hedge := liveEdge_iff hs hf ⟨taskId, .dependsOn, b⟩
  rw [mem_unresolvedBlockers, DependsOn, ← statusById_open]
  simp only [RelationType.dependencyType, ne_eq, reduceCtorEq, not_false_eq_true, and_true] at hedge
  rw [← hedge]
  simp only [List.mem_map, Table.mem_rows, decide_eq_true_eq, Prod.exists, LiveEdge]
  constructor
  · rintro ⟨k, d, ⟨hk, rfl, htype, hlive, hstatus⟩, rfl⟩
    exact ⟨⟨k, d, hk, by rw [TaskDependency.edge, htype]; rfl, hlive⟩, hstatus⟩
  · rintro ⟨⟨k, d, hk, hd, hlive⟩, hstatus⟩
    simp only [TaskDependency.edge, RelationEdge.mk.injEq, relationType_eq_dependsOn] at hd
    obtain ⟨rfl, htype, rfl⟩ := hd
    exact ⟨k, d, ⟨hk, rfl, htype, hlive, hstatus⟩, rfl⟩

/-! ### Unique edges -/

/-- The refusal of a row whose edge another row has. -/
def EdgeTaken : Failure → Prop
  | .constraint name => name = "uniq_commitment_relation_active" ∨ name = "uniq_task_dep"
  | _ => False

@[simp] theorem edgeTaken_error (message : String) : ¬ EdgeTaken (.error message) := id

@[simp] theorem edgeTaken_invalid (schema : String) : ¬ EdgeTaken (.invalid schema) := id

@[simp] theorem edgeTaken_unbounded : ¬ EdgeTaken .unbounded := id

theorem getTask_avoids (s : RelationStore) (id : UuidV7) :
    Avoids EdgeTaken (s.work.getTask id) := by
  unfold WorkStore.getTask Ledger.getTask
  split
  · simp
  · exact Avoids.bind (by simp) fun _ _ => by simp

theorem ensureLocalPrincipal_avoids (l : Ledger) (actor : String) :
    Avoids EdgeTaken (l.ensureLocalPrincipal rt.toRuntime actor) := by
  unfold Ledger.ensureLocalPrincipal
  refine Avoids.bind (by simp) fun _ _ => ?_
  split
  · exact Avoids.bind (by simp) fun _ _ => by simp
  · exact Avoids.bind (by simp) fun _ _ => Avoids.bind (by simp) fun _ _ => by simp

theorem contextPrincipal_avoids (s : RelationStore) (ctx : PrincipalContext) :
    Avoids EdgeTaken (s.contextPrincipal rt ctx) := by
  unfold contextPrincipal WorkStore.resolveCallerPrincipal EffectStore.contextPrincipal
  refine Avoids.bind (Avoids.bind ?_ fun _ _ => by simp) fun _ _ => by simp
  split
  · exact Avoids.bind (by simp) fun _ _ => Avoids.bind (by simp) fun _ _ => by simp
  · exact Avoids.bind (ensureLocalPrincipal_avoids _ _) fun _ _ =>
      Avoids.bind (by simp) fun _ _ => by simp

theorem recordEvent_avoids (s : RelationStore) (actor : String) (principalId : Option String) :
    Avoids EdgeTaken (s.recordEvent rt actor principalId) := by
  unfold recordEvent WorkStore.recordEvent Ledger.recordEvent
  refine Avoids.bind (Avoids.bind (Avoids.bind (by simp) fun _ _ => ?_) fun _ _ => by simp)
    fun _ _ => by simp
  split
  · exact ensureLocalPrincipal_avoids _ _
  split
  · simp
  · exact Avoids.bind (by simp) fun _ _ => by simp

theorem retryIdentity_avoids (s : RelationStore) (ctx : PrincipalContext)
    (request : RelationRequest) : Avoids EdgeTaken (s.retryIdentity rt ctx request) := by
  unfold retryIdentity Retry.idempotencyCallerScope bounded
  split
  · simp
  · refine Avoids.bind (by simp) fun _ _ => Avoids.bind (by simp) fun _ _ =>
      Avoids.bind ?_ fun _ _ => by simp
    split <;> exact Avoids.bind (by simp) fun _ _ => by simp

theorem findIdempotencyResult_avoids
    (rows : List (Retry.IdempotencyRecord RelationOperation String))
    (prepared : Option (Retry.Identity RelationOperation)) :
    Avoids EdgeTaken (Retry.findIdempotencyResult rows prepared) := by
  unfold Retry.findIdempotencyResult
  split
  · simp
  · exact Avoids.bind (by simp) fun _ _ => by simp

theorem saveIdempotencyResult_avoids
    (rows : List (Retry.IdempotencyRecord RelationOperation String))
    (prepared : Option (Retry.Identity RelationOperation))
    (outcome : Retry.IdempotencyOutcome String) :
    Avoids EdgeTaken (Retry.saveIdempotencyResult rows prepared outcome) := by
  unfold Retry.saveIdempotencyResult
  split
  · simp
  · refine Avoids.bind (by simp) fun _ _ => Avoids.bind (by simp) fun _ _ =>
      Avoids.bind ?_ fun _ _ => by simp
    simp [EdgeTaken]

theorem requireTask_avoids (s : RelationStore) (id : UuidV7) :
    Avoids EdgeTaken (s.requireTask id) :=
  Avoids.bind (getTask_avoids s id) fun _ _ => by simp

theorem requireEndpoint_avoids (s : RelationStore) (id : UuidV7) :
    Avoids EdgeTaken (s.requireEndpoint id) :=
  Avoids.bind (getTask_avoids s id) fun _ _ => Avoids.bind (by simp) fun _ _ =>
    Avoids.bind (by simp) fun _ _ => by simp

theorem onlyIf_avoids {c : Prop} [Decidable c] {check : Call Unit}
    (h : Avoids EdgeTaken check) : Avoids EdgeTaken (onlyIf c check) := by
  unfold onlyIf
  split
  · exact h
  · simp

theorem assertNoDependencyCycle_avoids (s : RelationStore) (a b : UuidV7) :
    Avoids EdgeTaken (s.assertNoDependencyCycle a b) := by
  refine Avoids.bind (by simp) fun _ _ => ?_
  split <;> simp

theorem assertNoCycle_avoids (s : RelationStore) (a b : UuidV7) :
    Avoids EdgeTaken (s.assertNoCycle a b) := by
  refine Avoids.bind (by simp) fun _ _ => ?_
  split <;> simp

theorem insertRelation_avoids {id : UuidV7} {r : CommitmentRelation}
    (h : ¬ s.ActiveEdge r.toRelationEdge) : Avoids EdgeTaken (s.insertRelation id r) := by
  have hfree : s.active r.toRelationEdge = false := by
    simpa using fun hactive => h (active_iff.1 hactive)
  refine Avoids.bind (by simp [EdgeTaken]) fun _ _ => Avoids.bind (by simp [EdgeTaken]) fun _ _ =>
    Avoids.bind (by simp [hfree]) fun _ _ => by simp

theorem insertDependency_avoids {id : UuidV7} {d : TaskDependency} (h : ¬ s.LiveEdge d.edge) :
    Avoids EdgeTaken (s.insertDependency id d) := by
  have hfree : s.live d.edge = false := by simpa using fun hlive => h (live_iff.1 hlive)
  refine Avoids.bind (by simp [EdgeTaken]) fun _ _ => Avoids.bind (by simp [EdgeTaken]) fun _ _ =>
    Avoids.bind (by simp [hfree]) fun _ _ => by simp

/-- UNIQUE: adding a relation of a free edge meets no other row of the edge. -/
theorem addCommitmentRelation_avoids (hf : s.Followed) {input : CommitmentRelationInsert}
    (hfree : ¬ s.ActiveEdge input.toRelationEdge) (ctx : PrincipalContext) (freshId : UuidV7) :
    Avoids EdgeTaken (s.addCommitmentRelation rt input ctx freshId) := by
  refine Avoids.bind (retryIdentity_avoids s ctx _) fun identity _ =>
    Avoids.bind (findIdempotencyResult_avoids _ _) fun found _ => ?_
  obtain ⟨retries, prior⟩ := found
  cases prior with
  | some record => exact Avoids.bind (by simp) fun _ _ => by simp
  | none =>
    refine Avoids.bind (requireTask_avoids _ _) fun _ _ => Avoids.bind (requireTask_avoids _ _)
      fun _ _ => Avoids.bind (contextPrincipal_avoids _ _) fun found hcaller => ?_
    obtain ⟨s₁, caller⟩ := found
    obtain ⟨work, rfl⟩ := contextPrincipal_eq hcaller
    refine Avoids.bind (onlyIf_avoids (assertNoDependencyCycle_avoids _ _ _)) fun _ _ =>
      Avoids.bind (insertRelation_avoids hfree) fun s₂ hinsert => ?_
    obtain ⟨rfl, -, -⟩ := insertRelation_eq_ok hinsert rfl
    refine Avoids.bind ?_ fun s₃ _ => Avoids.bind (by simp) fun _ _ =>
      Avoids.bind (recordEvent_avoids _ _ _) fun _ _ =>
        Avoids.bind (saveIdempotencyResult_avoids _ _ _) fun _ _ => by simp
    unfold mirror
    split
    · simp
    · rename_i type htype
      refine insertDependency_avoids fun hlive => hfree (hf _ ?_)
      rwa [added_edge htype] at hlive

theorem placeDependency_avoids {id a b : UuidV7} {type : DependencyType}
    (h : ¬ s.LiveEdge ⟨a, type.relationType, b⟩) :
    Avoids EdgeTaken (s.placeDependency id a b type now) := by
  unfold placeDependency
  split
  · rename_i priorId prior hhead
    obtain ⟨-, rfl, rfl, rfl⟩ := mem_dependencyRows.1 (List.mem_of_head? hhead)
    have hfree : s.live prior.edge = false :=
      Bool.eq_false_iff.2 fun hlive => h (live_iff.1 hlive)
    split
    · simp
    · exact Avoids.map (Avoids.bind (by simp [hfree]) fun _ _ => by simp) _
  · exact Avoids.map (insertDependency_avoids h) _

/-- UNIQUE: depending on a free edge meets no other row of the edge. -/
theorem dependTask_avoids (hf : s.Followed) {id : Option UuidV7} {a b : UuidV7}
    {type : DependencyType} (hfree : ¬ s.ActiveEdge ⟨a, type.relationType, b⟩) (actor : String)
    (now : UnixMs) (freshId relationId : UuidV7) :
    Avoids EdgeTaken (s.dependTask rt id a b type actor now freshId relationId) := by
  refine Avoids.bind (by simp) fun _ _ => ?_
  dsimp only
  split
  · rename_i htype
    subst htype
    refine Avoids.bind (requireEndpoint_avoids _ _) fun _ _ =>
      Avoids.bind (requireEndpoint_avoids _ _) fun _ _ => ?_
    dsimp only
    split
    · simp
    · refine Avoids.bind (contextPrincipal_avoids _ _) fun found hcaller => ?_
      obtain ⟨s₁, principal⟩ := found
      obtain ⟨work, rfl⟩ := contextPrincipal_eq hcaller
      exact Avoids.bind (insertRelation_avoids hfree) fun _ _ => recordEvent_avoids _ _ _
  · refine Avoids.bind (requireEndpoint_avoids _ _) fun _ _ =>
      Avoids.bind (requireEndpoint_avoids _ _) fun _ _ =>
        Avoids.bind (onlyIf_avoids (assertNoCycle_avoids _ _ _)) fun _ _ =>
          Avoids.bind (placeDependency_avoids fun hlive => hfree (hf _ hlive)) fun placed hplaced => ?_
    cases placed with
    | none => simp
    | some placed =>
      obtain ⟨s₁, revived⟩ := placed
      obtain ⟨depId, d, rfl, -⟩ := placeDependency_eq_ok hplaced
      refine Avoids.bind (contextPrincipal_avoids _ _) fun found hcaller => ?_
      obtain ⟨s₂, principal⟩ := found
      obtain ⟨work, rfl⟩ := contextPrincipal_eq hcaller
      refine Avoids.bind ?_ fun _ _ => recordEvent_avoids _ _ _
      unfold ensureRelation
      split
      · simp
      · exact insertRelation_avoids hfree

/-- What the two tables promise each other: they hold the same edges, so that the prioritizer and
    the claim gate count the same blockers, and no free edge is refused as taken. -/
structure InStep (rt : RelationRuntime) (s : RelationStore) : Prop where
  edges : ∀ e, s.LiveEdge e ↔ s.ActiveEdge e ∧ e.relationType.dependencyType ≠ none
  blockers : ∀ taskId,
    s.unresolvedBlockerMap s.statusById taskId = (s.unresolvedBlockers taskId).length
  added : ∀ (input : CommitmentRelationInsert) ctx freshId, ¬ s.ActiveEdge input.toRelationEdge →
    Avoids EdgeTaken (s.addCommitmentRelation rt input ctx freshId)
  depended : ∀ id a b (type : DependencyType) actor now freshId relationId,
    ¬ s.ActiveEdge ⟨a, type.relationType, b⟩ →
      Avoids EdgeTaken (s.dependTask rt id a b type actor now freshId relationId)

/-- CORRECT (matching ends): along a run in which a relation is ended by its id only while no other
    dependency row mirrors it, the two graphs stay in step. -/
theorem graphs_in_step (rt : RelationRuntime) (work : WorkStore) (actions : List RelationAction)
    (h : Along (step rt) Matching (opening work) actions) :
    InStep rt (run (step rt) (opening work) actions) := by
  obtain ⟨hs, hf⟩ := run_invariant (I := fun s => s.Sound ∧ s.Followed) (followed_step rt) h
    ⟨sound_opening work, by rintro e ⟨id, d, hid, -⟩; simp [opening] at hid⟩
  exact ⟨liveEdge_iff hs hf, unresolvedBlockerMap_eq hs hf,
    fun _ ctx freshId hfree => addCommitmentRelation_avoids hf hfree ctx freshId,
    fun _ _ _ _ actor now freshId relationId hfree =>
      dependTask_avoids hf hfree actor now freshId relationId⟩

end RelationStore

/-! ### Two commitments -/

namespace RelationStore

/-- An ideal platform, for calls without keys. -/
def plainRelationRuntime : RelationRuntime where
  toWorkRuntime := plainWorkRuntime
  relationDigest _ := ⟨.null⟩
  legacyRelationDigest _ := ⟨.null⟩

/-- Two commitments, of which the second has a status of its own, and a principal. -/
def plainPair (status : TaskStatus) : WorkStore :=
  { WorkStore.opening "w" [⟨"p", some "p", true⟩] with
    tasks := Std.ExtTreeMap.ofList [(1, plainTask), (2, { plainTask with status := status })] }

/-- The caller of the calls below. -/
def plainRelationCaller (now : UnixMs) : PrincipalContext where
  actor := some "p"
  principalId := some "p"
  idempotencyKey := none
  now := now

/-- The first commitment depends on the second. -/
def plainDepends : List RelationAction :=
  [.add ⟨⟨1, .dependsOn, 2⟩, none⟩ (plainRelationCaller 1) 10]

/-- A cancelled commitment, which is live and not done, does not block. -/
theorem cancelled_does_not_block :
    let s := run (step plainRelationRuntime) (opening (plainPair .cancelled)) plainDepends
    (∃ e ∈ s.relations.toList, e.2.toRelationEdge = ⟨1, .dependsOn, 2⟩ ∧ e.2.endedAt = none ∧
      ∃ row ∈ s.work.tasks[2]?, row.deletedAt = none ∧ row.status ≠ .done) ∧
      s.unresolvedBlockers 1 = [] := by
  decide +kernel

/-- The first commitment depends on the second, no longer, and again: the dependency is live again
    under its old id, and its new relation has another. -/
def plainRevived : List RelationAction :=
  [.depend none 1 2 .blocks "p" 1 10 11, .undepend ⟨some 10, none, none, none⟩ "p" 2,
    .depend none 1 2 .blocks "p" 3 12 13]

theorem graphs_in_step_plain :
    InStep plainRelationRuntime (run (step plainRelationRuntime) (opening (plainPair .open))
        (plainRevived ++ [.undepend ⟨none, some 1, some 2, none⟩ "p" 4])) ∧
      (run (step plainRelationRuntime) (opening (plainPair .open)) plainRevived).active
        ⟨1, .dependsOn, 2⟩ = true :=
  ⟨graphs_in_step _ _ _ (by simp [plainRevived, Along, Matching]), by decide +kernel⟩

/-- When the new relation is ended by its id, the dependency stays: the prioritizer counts a blocker
    that the claim gate does not list, and a new relation of the edge is refused as taken. -/
theorem graphs_drift :
    let s := run (step plainRelationRuntime) (opening (plainPair .open))
      (plainRevived ++ [.endById 13 1 (plainRelationCaller 4)])
    s.live ⟨1, .dependsOn, 2⟩ = true ∧ s.active ⟨1, .dependsOn, 2⟩ = false ∧
      s.unresolvedBlockerMap s.statusById 1 = 1 ∧ s.unresolvedBlockers 1 = [] ∧
      (s.addCommitmentRelation plainRelationRuntime ⟨⟨1, .dependsOn, 2⟩, none⟩
        (plainRelationCaller 5) 14).toOption.isNone = true := by
  decide +kernel

end RelationStore

end Tasq
