import Mathlib.Tactic
import Tasq.Relations.Store

/-! The two graphs of relations, what each call does to them, and the invariant that holds of them
    however the calls come: the graph of active `depends_on` relations has no cycle.

    `task_dependency` may keep an edge whose relation has ended, but never the other way round; so a
    search for cycles in it sees at least the active relations. -/

namespace Tasq

open Outcome

namespace RelationStore

variable {s s' s₁ s₂ : RelationStore} {rt : RelationRuntime} {now : UnixMs}

/-- An active relation has this edge. -/
def ActiveEdge (s : RelationStore) (e : RelationEdge) : Prop :=
  ∃ (id : UuidV7) (r : CommitmentRelation), s.relations[id]? = some r ∧ r.toRelationEdge = e ∧ r.endedAt = none

/-- A live dependency has this edge. -/
def LiveEdge (s : RelationStore) (e : RelationEdge) : Prop :=
  ∃ (id : UuidV7) (d : TaskDependency), s.dependencies[id]? = some d ∧ d.edge = e ∧ d.deletedAt = none

/-- `a` actively depends on `b`. -/
def DependsOn (s : RelationStore) (a b : UuidV7) : Prop := s.ActiveEdge ⟨a, .dependsOn, b⟩

/-- A live dependency says that `b` blocks `a`. -/
def Blocks (s : RelationStore) (a b : UuidV7) : Prop := s.LiveEdge ⟨a, .dependsOn, b⟩

theorem active_iff {e : RelationEdge} : s.active e = true ↔ s.ActiveEdge e := by
  simp [active, ActiveEdge, Table.has_eq_true]

theorem live_iff {e : RelationEdge} : s.live e = true ↔ s.LiveEdge e := by
  simp [live, LiveEdge, Table.has_eq_true]

@[simp] theorem relationType_eq_dependsOn {type : DependencyType} :
    type.relationType = .dependsOn ↔ type = .blocks := by
  cases type <;> simp [DependencyType.relationType]

/-- A dependency row of a mirrored relation has its edge. -/
theorem added_edge {e : RelationEdge} {type : DependencyType}
    (h : e.relationType.dependencyType = some type) :
    (TaskDependency.added e.fromTaskId e.toTaskId type now).edge = e := by
  rcases e with ⟨a, t, b⟩
  cases t <;> simp_all [RelationType.dependencyType] <;> subst h <;> rfl

/-! ### The searches -/

theorem edge_dependsOn {a b : UuidV7} : Search.Edge s.dependsOn a b ↔ s.DependsOn a b := by
  simp only [Search.Edge, dependsOn, List.mem_map, Table.mem_rows, Prod.mk.injEq,
    decide_eq_true_eq, Prod.exists, DependsOn, ActiveEdge]
  refine exists_congr fun id => exists_congr fun r => ?_
  rcases r with ⟨⟨a', t', b'⟩, _⟩
  simp only [RelationEdge.mk.injEq]
  tauto

theorem edge_blocks {a b : UuidV7} : Search.Edge s.blocks a b ↔ s.Blocks a b := by
  simp only [Search.Edge, blocks, List.mem_map, Table.mem_rows, Prod.mk.injEq,
    decide_eq_true_eq, Prod.exists, Blocks, LiveEdge]
  refine exists_congr fun id => exists_congr fun d => ?_
  rcases d with ⟨a', b', t', _⟩
  simp only [TaskDependency.edge, RelationEdge.mk.injEq, relationType_eq_dependsOn]
  tauto

/-- SEARCH: a passed check of the relations. -/
theorem assertNoDependencyCycle_eq_ok {fromId toId : UuidV7}
    (h : s.assertNoDependencyCycle fromId toId = .ok ()) :
    ¬ Relation.ReflTransGen s.DependsOn toId fromId := by
  simp only [assertNoDependencyCycle, bind_eq_ok, refuse_eq_ok, exists_const] at h
  obtain ⟨-, h⟩ := h
  have hedges : s.DependsOn = Search.Edge s.dependsOn := by
    funext a b
    exact propext edge_dependsOn.symm
  rw [hedges]
  split at h
  · rename_i hexplore
    refine Search.unreachable_of_explore (fun _ => True) (by simp) ?_ (by simp) trivial
      (by simp) (by simp +contextual) (by simp) hexplore
    intro f _ hgo
    simpa using hgo
  · cases h
  · cases h

/-- SEARCH: a passed check of the dependencies. -/
theorem assertNoCycle_eq_ok {fromId toId : UuidV7} (h : s.assertNoCycle fromId toId = .ok ()) :
    ¬ Relation.ReflTransGen s.Blocks toId fromId := by
  simp only [assertNoCycle, bind_eq_ok, refuse_eq_ok, exists_const] at h
  obtain ⟨hne, h⟩ := h
  have hedges : s.Blocks = Search.Edge s.blocks := by
    funext a b
    exact propext edge_blocks.symm
  rw [hedges]
  split at h
  · rename_i hexplore
    refine Search.unreachable_of_explore (fun f => fromId ∉ f) ?_ (fun f hf _ => hf) ?_
      (by simpa using Ne.symm hne) (by simp) (by simp +contextual) (by simp) hexplore
    · simp [unseenOnce]
    · intro f next _ hgo hsub hmem
      simp only [decide_eq_false_iff_not] at hgo
      exact hgo (hsub hmem)
  · cases h
  · cases h

/-- The check of the relations comes to an end. -/
theorem assertNoDependencyCycle_bounded (s : RelationStore) (fromId toId : UuidV7) :
    s.assertNoDependencyCycle fromId toId ≠ .error .unbounded := by
  intro h
  simp only [assertNoDependencyCycle, bind_eq_error, refuse_eq_error] at h
  rcases h with ⟨-, h⟩ | ⟨-, -, h⟩
  · cases h
  split at h
  · cases h
  · cases h
  · rename_i hnone
    have hfresh : ∀ (seen rows : List UuidV7) x,
        x ∈ rows.filter (fun x => x ∉ seen) ↔ x ∈ rows ∧ x ∉ seen := by simp
    exact Option.isSome_iff_ne_none.1 (Search.explore_isSome hfresh
      (Nat.add_le_add_right (Search.card_unseen_le s.dependsOn []) 2)) hnone

/-- The check of the dependencies comes to an end. -/
theorem assertNoCycle_bounded (s : RelationStore) (fromId toId : UuidV7) :
    s.assertNoCycle fromId toId ≠ .error .unbounded := by
  intro h
  simp only [assertNoCycle, bind_eq_error, refuse_eq_error] at h
  rcases h with ⟨-, h⟩ | ⟨-, -, h⟩
  · cases h
  split at h
  · cases h
  · cases h
  · rename_i hnone
    have hfresh : ∀ (seen rows : List UuidV7) x,
        x ∈ unseenOnce seen rows ↔ x ∈ rows ∧ x ∉ seen := by simp [unseenOnce]
    exact Option.isSome_iff_ne_none.1 (Search.explore_isSome hfresh
      (Nat.add_le_add_right (Search.card_unseen_le s.blocks [toId]) 2)) hnone

/-! ### The moves -/

/-- What a call does to the two graphs. It ends a mirrored relation by its id only where `E` says
    so. -/
inductive Moves (E : UuidV7 → Prop) (s s' : RelationStore) : Prop where
  | same (hr : s'.relations = s.relations) (hd : s'.dependencies = s.dependencies)
  /-- A relation of a type that is not mirrored. -/
  | notes (id : UuidV7) (r : CommitmentRelation) (hid : s.relations[id]? = none)
      (hopen : r.endedAt = none) (hfree : ¬ s.ActiveEdge r.toRelationEdge)
      (htype : r.relationType.dependencyType = none)
      (hr : s'.relations = s.relations.insert id r) (hd : s'.dependencies = s.dependencies)
  /-- A relation with its mirror, which is new under the same id or live again. -/
  | places (id depId : UuidV7) (r : CommitmentRelation) (d : TaskDependency)
      (hid : s.relations[id]? = none) (hopen : r.endedAt = none) (hlive : d.deletedAt = none)
      (hedge : d.edge = r.toRelationEdge) (hfree : ¬ s.ActiveEdge r.toRelationEdge)
      (hfree' : ¬ s.LiveEdge r.toRelationEdge) (htype : d.type ≠ .discoveredFrom)
      (hdep : s.dependencies[depId]? = none ∧ depId = id ∨
        ∃ d₀, s.dependencies[depId]? = some d₀ ∧ d₀.edge = d.edge)
      (hcycle : r.relationType = .dependsOn →
        ¬ Relation.ReflTransGen s.DependsOn r.toTaskId r.fromTaskId ∨
          ¬ Relation.ReflTransGen s.Blocks r.toTaskId r.fromTaskId)
      (hr : s'.relations = s.relations.insert id r)
      (hd : s'.dependencies = s.dependencies.insert depId d)
  /-- A relation is ended by its id, with the dependency of that id. -/
  | ends (id : UuidV7) (r : CommitmentRelation) (principalId : String) (now : UnixMs)
      (hid : s.relations[id]? = some r) (hopen : r.endedAt = none)
      (hends : r.relationType.dependencyType = none ∨ E id)
      (hr : s'.relations = s.relations.map fun k r => if k = id then r.ended principalId now else r)
      (hd : s'.dependencies = (s.deleteDependency id now).dependencies)
  /-- A dependency is removed, with every active relation of its edge. -/
  | removes (id : UuidV7) (d : TaskDependency) (principalId : String) (now : UnixMs)
      (hid : s.dependencies[id]? = some d) (hlive : d.deletedAt = none)
      (hr : s'.relations = s.relations.map fun _ r =>
        if r.toRelationEdge = d.edge ∧ r.endedAt = none then r.ended principalId now else r)
      (hd : s'.dependencies = (s.deleteDependency id now).dependencies)

/-- INVARIANT: a dependency has the id of a relation of its edge, every active relation of a
    mirrored type has a live dependency, no edge is active or live twice, and the active
    `depends_on` relations form no cycle. -/
structure Sound (s : RelationStore) : Prop where
  sameEdge : ∀ (id : UuidV7) d, s.dependencies[id]? = some d →
    ∃ r, s.relations[id]? = some r ∧ r.toRelationEdge = d.edge
  mirrored : ∀ e, s.ActiveEdge e → e.relationType.dependencyType ≠ none → s.LiveEdge e
  oneActive : ∀ (id id' : UuidV7) r r', s.relations[id]? = some r → s.relations[id']? = some r' →
    r.endedAt = none → r'.endedAt = none → r.toRelationEdge = r'.toRelationEdge → id = id'
  oneLive : ∀ (id id' : UuidV7) d d', s.dependencies[id]? = some d →
    s.dependencies[id']? = some d' → d.deletedAt = none → d'.deletedAt = none →
      d.edge = d'.edge → id = id'
  types : ∀ (id : UuidV7) d, s.dependencies[id]? = some d → d.type ≠ .discoveredFrom
  acyclic : Search.Acyclic s.DependsOn

/-! ### The moves keep the invariant -/

/-- A row of the dependencies after one was deleted. -/
theorem deleteDependency_row (id k : UuidV7) :
    (s.deleteDependency id now).dependencies[k]? = s.dependencies[k]?.map fun d =>
      if k = id ∧ d.deletedAt = none then { d with deletedAt := some now, updatedAt := now }
      else d := by
  rw [deleteDependency, Std.ExtTreeMap.getElem?_modify]
  simp only [Std.compare_eq_iff_eq]
  rcases eq_or_ne id k with rfl | hne
  · simp
  · simp [hne, hne.symm]

/-- Deleting a dependency leaves the edges of the rows. -/
theorem deleteDependency_old {id k : UuidV7} {d : TaskDependency}
    (h : (s.deleteDependency id now).dependencies[k]? = some d) :
    ∃ d₀, s.dependencies[k]? = some d₀ ∧ d₀.edge = d.edge ∧ d₀.type = d.type ∧
      (d.deletedAt = none → d₀.deletedAt = none ∧ k ≠ id) := by
  rw [deleteDependency_row, Option.map_eq_some_iff] at h
  obtain ⟨d₀, hd₀, rfl⟩ := h
  refine ⟨d₀, hd₀, ?_, ?_, ?_⟩
  · split <;> rfl
  · split <;> rfl
  · split
    · simp
    · rename_i hkept
      exact fun hlive => ⟨hlive, fun hk => hkept ⟨hk, hlive⟩⟩

/-- What a sound store becomes when relations of it end and a dependency of it is deleted. -/
theorem Sound.shrinks (hs : s.Sound) {p : UuidV7 → CommitmentRelation → Prop}
    [∀ k r, Decidable (p k r)] {principalId : String} {id : UuidV7}
    (hr : s'.relations = s.relations.map fun k r => if p k r then r.ended principalId now else r)
    (hd : s'.dependencies = (s.deleteDependency id now).dependencies)
    (hother : ∀ d : TaskDependency, s.dependencies[id]? = some d → ∀ (k : UuidV7) r,
      s.relations[k]? = some r → r.endedAt = none → r.toRelationEdge = d.edge → p k r) :
    s'.Sound := by
  have hrow : ∀ (k : UuidV7) r', s'.relations[k]? = some r' → ∃ r, s.relations[k]? = some r ∧
      r.toRelationEdge = r'.toRelationEdge ∧
        (r'.endedAt = none → ¬ p k r ∧ r.endedAt = none) := by
    intro k r' hk
    rw [hr, Std.ExtTreeMap.getElem?_map, Option.map_eq_some_iff] at hk
    obtain ⟨r, hk, rfl⟩ := hk
    refine ⟨r, hk, ?_, ?_⟩
    · split <;> rfl
    · split
      · simp [CommitmentRelation.ended]
      · rename_i hkept
        exact fun hopen => ⟨hkept, hopen⟩
  have hactive : ∀ e, s'.ActiveEdge e → s.ActiveEdge e := by
    rintro e ⟨k, r', hk, rfl, hopen⟩
    obtain ⟨r, hk, hedge, hkept⟩ := hrow k r' hk
    exact ⟨k, r, hk, hedge, (hkept hopen).2⟩
  refine ⟨fun k d' hk => ?_, ?_, ?_, ?_, ?_, hs.acyclic.mono fun a b => hactive _⟩
  · rw [hd] at hk
    obtain ⟨d, hk, hedge, -, -⟩ := deleteDependency_old hk
    obtain ⟨r, hr₀, hsame⟩ := hs.sameEdge k d hk
    refine ⟨_, by rw [hr, Std.ExtTreeMap.getElem?_map, hr₀]; rfl, ?_⟩
    dsimp only
    split <;> exact hsame.trans hedge
  · rintro e ⟨k, r', hk, rfl, hopen⟩ htype
    obtain ⟨r, hk', hedge, hkept⟩ := hrow k r' hk
    obtain ⟨j, d, hj, hde, hlive⟩ :=
      hs.mirrored _ ⟨k, r, hk', hedge, (hkept hopen).2⟩ htype
    -- the row that mirrors a relation which stays is not the one deleted
    have hne : j ≠ id := by
      rintro rfl
      exact (hkept hopen).1 (hother d hj k r hk' (hkept hopen).2 (hedge.trans hde.symm))
    refine ⟨j, d, ?_, hde, hlive⟩
    rw [hd, deleteDependency_row, hj]
    simp [hne]
  · intro k k' r r' hk hk' hopen hopen' hsame
    obtain ⟨a, ha, hae, haopen⟩ := hrow k r hk
    obtain ⟨b, hb, hbe, hbopen⟩ := hrow k' r' hk'
    exact hs.oneActive k k' a b ha hb (haopen hopen).2 (hbopen hopen').2
      (hae.trans (hsame.trans hbe.symm))
  · intro k k' d d' hk hk' hlive hlive' hsame
    rw [hd] at hk hk'
    obtain ⟨a, ha, hae, -, halive⟩ := deleteDependency_old hk
    obtain ⟨b, hb, hbe, -, hblive⟩ := deleteDependency_old hk'
    exact hs.oneLive k k' a b ha hb (halive hlive).1 (hblive hlive').1
      (hae.trans (hsame.trans hbe.symm))
  · intro k d hk
    rw [hd] at hk
    obtain ⟨a, ha, -, htype, -⟩ := deleteDependency_old hk
    exact htype ▸ hs.types k a ha

/-- The active edges after a relation was added. -/
theorem activeEdge_insert {id : UuidV7} {r : CommitmentRelation}
    (hr : s'.relations = s.relations.insert id r) (hid : s.relations[id]? = none)
    (hopen : r.endedAt = none) (e : RelationEdge) :
    s'.ActiveEdge e ↔ s.ActiveEdge e ∨ r.toRelationEdge = e := by
  constructor
  · rintro ⟨k, r', hk, rfl, hopen'⟩
    rw [hr, Table.getElem?_insert'] at hk
    split at hk
    · cases hk
      exact .inr rfl
    · exact .inl ⟨k, r', hk, rfl, hopen'⟩
  · rintro (⟨k, r', hk, rfl, hopen'⟩ | rfl)
    · refine ⟨k, r', ?_, rfl, hopen'⟩
      rw [hr, Table.getElem?_insert', if_neg]
      · exact hk
      · rintro rfl
        rw [hid] at hk
        cases hk
    · exact ⟨id, r, by rw [hr, Table.getElem?_insert', if_pos rfl], rfl, hopen⟩

/-- No edge is active twice after a relation of a free edge was added. -/
theorem Sound.oneActive_insert (hs : s.Sound) {id : UuidV7} {r : CommitmentRelation}
    (hr : s'.relations = s.relations.insert id r) (hfree : ¬ s.ActiveEdge r.toRelationEdge)
    (k k' : UuidV7) (a b : CommitmentRelation) (ha : s'.relations[k]? = some a)
    (hb : s'.relations[k']? = some b) (hopen : a.endedAt = none) (hopen' : b.endedAt = none)
    (hsame : a.toRelationEdge = b.toRelationEdge) : k = k' := by
  rw [hr, Table.getElem?_insert'] at ha hb
  split at ha <;> split at hb
  · rename_i hk hk'
    exact hk.symm.trans hk'
  · cases ha
    exact absurd ⟨k', b, hb, hsame.symm, hopen'⟩ hfree
  · cases hb
    exact absurd ⟨k, a, ha, hsame, hopen⟩ hfree
  · exact hs.oneActive k k' a b ha hb hopen hopen' hsame

/-- The relations that dependencies had, they have after a relation was added. -/
theorem Sound.sameEdge_insert (hs : s.Sound) {id : UuidV7} {r : CommitmentRelation}
    (hr : s'.relations = s.relations.insert id r) (hid : s.relations[id]? = none) {k : UuidV7}
    {d : TaskDependency} (hk : s.dependencies[k]? = some d) :
    ∃ a, s'.relations[k]? = some a ∧ a.toRelationEdge = d.edge := by
  obtain ⟨a, ha, hedge⟩ := hs.sameEdge k d hk
  refine ⟨a, ?_, hedge⟩
  rw [hr, Table.getElem?_insert', if_neg]
  · exact ha
  · rintro rfl
    rw [hid] at ha
    cases ha

/-- The `depends_on` graph after a relation was added. -/
theorem Sound.acyclic_insert (hs : s.Sound) {id : UuidV7} {r : CommitmentRelation}
    (hr : s'.relations = s.relations.insert id r) (hid : s.relations[id]? = none)
    (hopen : r.endedAt = none)
    (hcycle : r.relationType = .dependsOn →
      ¬ Relation.ReflTransGen s.DependsOn r.toTaskId r.fromTaskId) :
    Search.Acyclic s'.DependsOn := by
  have hadd := activeEdge_insert hr hid hopen
  by_cases htype : r.relationType = .dependsOn
  · refine (hs.acyclic.insert (hcycle htype)).mono fun a b hab => ?_
    rcases (hadd _).1 hab with hold | hnew
    · exact .inl hold
    · refine .inr ⟨?_, ?_⟩ <;> rw [hnew]
  · refine hs.acyclic.mono fun a b hab => ?_
    rcases (hadd _).1 hab with hold | hnew
    · exact hold
    · exact absurd (by rw [hnew]) htype

/-- STEP: every move keeps the invariant. -/
theorem Sound.moves {E : UuidV7 → Prop} (hs : s.Sound) (h : Moves E s s') : s'.Sound := by
  cases h with
  | same hr hd =>
    have hactive : ∀ e, s'.ActiveEdge e ↔ s.ActiveEdge e := by simp [ActiveEdge, hr]
    refine ⟨by rw [hr, hd]; exact hs.sameEdge, ?_, by rw [hr]; exact hs.oneActive,
      by rw [hd]; exact hs.oneLive, by rw [hd]; exact hs.types,
      hs.acyclic.mono fun a b => (hactive _).1⟩
    intro e he htype
    obtain ⟨k, d, hk⟩ := hs.mirrored e ((hactive e).1 he) htype
    exact ⟨k, d, by rw [hd]; exact hk⟩
  | notes id r hid hopen hfree htype hr hd =>
    refine ⟨fun k d hk => hs.sameEdge_insert hr hid (by rwa [← hd]), fun e he hmirrored => ?_,
      hs.oneActive_insert hr hfree, by rw [hd]; exact hs.oneLive, by rw [hd]; exact hs.types,
      hs.acyclic_insert hr hid hopen fun hdepends => ?_⟩
    · rcases (activeEdge_insert hr hid hopen e).1 he with hold | rfl
      · obtain ⟨k, d, hk⟩ := hs.mirrored e hold hmirrored
        exact ⟨k, d, by rw [hd]; exact hk⟩
      · exact absurd htype hmirrored
    · rw [hdepends] at htype
      cases htype
  | places id depId r d hid hopen hlive hedge hfree hfree' htype hdep hcycle hr hd =>
    have hrow : ∀ (k : UuidV7) a, s'.dependencies[k]? = some a →
        k = depId ∧ a = d ∨ k ≠ depId ∧ s.dependencies[k]? = some a := by
      intro k a hk
      rw [hd, Table.getElem?_insert'] at hk
      split at hk
      · rename_i hk'
        exact .inl ⟨hk'.symm, (Option.some.inj hk).symm⟩
      · rename_i hk'
        exact .inr ⟨Ne.symm hk', hk⟩
    have hsub : ∀ a b, s.DependsOn a b → s.Blocks a b := fun a b hab =>
      hs.mirrored _ hab (by simp [RelationType.dependencyType])
    refine ⟨fun k a hk => ?_, fun e he hmirrored => ?_, hs.oneActive_insert hr hfree, ?_,
      fun k a hk => ?_, hs.acyclic_insert hr hid hopen fun hdepends hreach => ?_⟩
    · rcases hrow k a hk with ⟨rfl, rfl⟩ | ⟨-, hold⟩
      · rcases hdep with ⟨-, rfl⟩ | ⟨d₀, hd₀, hsame⟩
        · exact ⟨r, by rw [hr, Table.getElem?_insert', if_pos rfl], hedge.symm⟩
        · obtain ⟨b, hb, hbe⟩ := hs.sameEdge_insert hr hid hd₀
          exact ⟨b, hb, hbe.trans hsame⟩
      · exact hs.sameEdge_insert hr hid hold
    · have hnew : s'.LiveEdge r.toRelationEdge :=
        ⟨depId, d, by rw [hd, Table.getElem?_insert', if_pos rfl], hedge, hlive⟩
      rcases (activeEdge_insert hr hid hopen e).1 he with hold | rfl
      · obtain ⟨k, a, hk, rfl, halive⟩ := hs.mirrored e hold hmirrored
        by_cases hkey : depId = k
        · -- the row that is live again had the edge already
          subst hkey
          rcases hdep with ⟨hnone, -⟩ | ⟨d₀, hd₀, hsame⟩
          · rw [hnone] at hk
            cases hk
          · obtain rfl := Option.some.inj (hd₀.symm.trans hk)
            rwa [hsame, hedge]
        · exact ⟨k, a, by rw [hd, Table.getElem?_insert', if_neg hkey]; exact hk, rfl, halive⟩
      · exact hnew
    · intro k k' a b hk hk' halive hblive hsame
      rcases hrow k a hk with ⟨rfl, rfl⟩ | ⟨hne, hold⟩ <;>
        rcases hrow k' b hk' with ⟨rfl, rfl⟩ | ⟨hne', hold'⟩
      · rfl
      · exact absurd ⟨k', b, hold', hsame.symm.trans hedge, hblive⟩ hfree'
      · exact absurd ⟨k, a, hold, hsame.trans hedge, halive⟩ hfree'
      · exact hs.oneLive k k' a b hold hold' halive hblive hsame
    · rcases hrow k a hk with ⟨rfl, rfl⟩ | ⟨-, hold⟩
      · exact htype
      · exact hs.types k a hold
    · exact (hcycle hdepends).elim (· hreach) fun hblocks =>
        hblocks (Relation.ReflTransGen.mono hsub _ _ hreach)
  | ends id r principalId now hid hopen _ hr hd =>
    refine hs.shrinks (p := fun k _ => k = id) hr hd fun d hd₀ k a hk haopen hedge => ?_
    obtain ⟨b, hb, hbe⟩ := hs.sameEdge id d hd₀
    obtain rfl := Option.some.inj (hid.symm.trans hb)
    exact hs.oneActive k id a r hk hid haopen hopen (hedge.trans hbe.symm)
  | removes id d principalId now hid hlive hr hd =>
    refine hs.shrinks (p := fun _ r => r.toRelationEdge = d.edge ∧ r.endedAt = none) hr hd
      fun d₀ hd₀ k a hk haopen hedge => ?_
    obtain rfl := Option.some.inj (hid.symm.trans hd₀)
    exact ⟨hedge, haopen⟩

end RelationStore

end Tasq
