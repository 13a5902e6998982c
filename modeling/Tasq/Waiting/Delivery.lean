import Mathlib.Tactic
import Tasq.Waiting.Routing

/-! Deliveries that come again.

    The content of a delivery is compared by a text in which the keys of every object are sorted by
    `localeCompare`. Where that comparison ties two keys of one object, the text depends on the
    order in which the keys came, and the same delivery is refused when it comes in the other
    order. -/

namespace Tasq

open Text Outcome Run

/-- A delivery whose metadata is a JSON object: the keys of every object in it stand in an order
    that an object can have. -/
structure Delivery extends ObservationInsert where
  own : Json.Own (.obj metadata.fields)

/-- The meaningful content is equal, whatever the order of keys in the metadata. -/
def ObservationContent.SameContent (c c' : ObservationContent) : Prop :=
  { c with metadata := c'.metadata } = c' ∧ Json.SameFields c.metadata.fields c'.metadata.fields

namespace WaitStore

variable {s s' : WaitStore} {rt : WorkRuntime} {o : UuidV7} {row : ObservationRow}

theorem canonicalContent_eq_iff {c c' : ObservationContent} :
    c.canonicalContent rt = c'.canonicalContent rt ↔
      { c with metadata := c'.metadata } = c' ∧
        Json.stable rt.localeCompare (.obj c.metadata.fields) =
          Json.stable rt.localeCompare (.obj c'.metadata.fields) := by
  obtain ⟨_, _, _, _, _, _, _, _, _, _⟩ := c
  obtain ⟨_, _, _, _, _, _, _, _, _, _⟩ := c'
  simp [ObservationContent.canonicalContent, Json.stable, and_assoc]

/-- NOT TWICE: what is compared tells different contents apart. -/
theorem sameContent_of_canonicalContent {c c' : ObservationContent}
    (h : c.canonicalContent rt = c'.canonicalContent rt) : c.SameContent c' := by
  obtain ⟨hrest, hmetadata⟩ := canonicalContent_eq_iff.1 h
  obtain ⟨fields, heq, hsame⟩ := Json.same_of_stable _ _ hmetadata
  obtain rfl := (Json.obj.injEq _ _).mp heq
  exact ⟨hrest, hsame⟩

/-- The checks of `ingestObservation` on the content alone. -/
structure Admitted (c : ObservationContent) : Prop where
  verified : ¬ ((c.verificationLevel ≠ .unverified ∧ c.verificationMethod = none) ∨
    c.rawRef.isSome ∧ c.digest = none)
  source : ¬ Blank c.source
  externalEventId : ¬ Blank c.externalEventId
  schemaVersion : c.schemaVersion = 1

theorem Admitted.same {c c' : ObservationContent} (h : Admitted c) (hsame : c.SameContent c') :
    Admitted c' := by
  rw [← hsame.1]
  exact ⟨h.verified, h.source, h.externalEventId, h.schemaVersion⟩

theorem ingestObservation_admitted {parsed : ObservationInsert} {extension actor : Option String}
    {now : UnixMs} {freshId : UuidV7} {r : WaitStore × UuidV7 × ObservationRow}
    (h : s.ingestObservation rt parsed extension actor now freshId = .ok r) :
    Admitted parsed.toObservationContent := by
  simp only [ingestObservation, bind_eq_ok, refuse_eq_ok, not_not] at h
  obtain ⟨-, hverified, -, hsource, -, hevent, -, -, -, -, -, hversion, -⟩ := h
  exact ⟨hverified, hsource, hevent, hversion⟩

/-- INGEST: what a delivery that came before is answered with. -/
theorem ingestObservation_again {parsed : ObservationInsert} {actor : Option String}
    {now : UnixMs} {freshId : UuidV7} (hadmitted : Admitted parsed.toObservationContent)
    (hactor : ¬ Blank (actor.getD "system")) (hnow : now ≤ Json.maxSafeInteger)
    (hprior : s.getObservationByDelivery parsed.source parsed.externalEventId = some (o, row)) :
    s.ingestObservation rt parsed none actor now freshId = .ok (s, o, row) ↔
      row.canonicalContent rt = parsed.canonicalContent rt := by
  simp only [ingestObservation, bind_eq_ok, refuse_eq_ok, not_not, hprior, pure_eq_ok, passGate,
    and_true, true_and, exists_const]
  exact ⟨fun h => h.2.2.2.2.2.2, fun h => ⟨hadmitted.verified, hadmitted.source,
    hadmitted.externalEventId, hactor, not_lt.2 hnow, hadmitted.schemaVersion, h⟩⟩

/-- A stored delivery is found again. -/
theorem Routed.delivery (h : s.Routed) (hrow : s.observations[o]? = some row) :
    s.getObservationByDelivery row.source row.externalEventId = some (o, row) := by
  rw [getObservationByDelivery, Table.rows_eq_singleton hrow]
  · rfl
  · simp
  · intro k r hr hp
    simp only [Bool.and_eq_true, decide_eq_true_eq] at hp
    exact h.once k o r row hr hrow hp.1 hp.2

/-- STEP: a stored fact stays as it is. -/
theorem perform_stored (a : WaitAction) (h : s.observations[o]? = some row) :
    (s.perform rt a).observations[o]? = some row := by
  by_cases hingest : ∃ parsed extension actor now freshId,
      a = .ingest parsed extension actor now freshId
  · obtain ⟨parsed, extension, actor, now, freshId, rfl⟩ := hingest
    refine settle_fst_rule (I := fun t : WaitStore => t.observations[o]? = some row) h
      fun s' b hok => ?_
    obtain ⟨k, r⟩ := b
    obtain ⟨-, rfl, -⟩ | ⟨-, hk, -, rfl⟩ := ingestObservation_eq_ok hok
    · exact h
    · refine (Table.getElem?_insert' _ _ _ _).trans ?_
      rw [if_neg]
      · exact h
      · rintro rfl
        exact hk (Table.mem_of_getElem? h)
  · have hsame : SameFacts s (s.perform rt a) :=
      perform_sameFacts a fun parsed extension actor now freshId ha =>
        hingest ⟨parsed, extension, actor, now, freshId, ha⟩
    rw [hsame.1]
    exact h

/-- The delivery is stored once, with its routes. It is answered with its row when it comes again,
    and another content under its identity is refused and changes nothing. -/
structure DeliveredOnce (rt : WorkRuntime) (d : Delivery) (o : UuidV7) (row : ObservationRow)
    (s : WaitStore) : Prop where
  stored : s.observations[o]? = some row
  content : d.SameContent row.toObservationContent
  once : ∀ (k : UuidV7) r, s.observations[k]? = some r → r.source = d.source →
    r.externalEventId = d.externalEventId → k = o
  routes : s.routes.filter (·.observationId = o) = observationRouteKeys o row.payload
  again : ∀ (d' : Delivery) actor now freshId, d.SameContent d'.toObservationContent →
    ¬ Blank (actor.getD "system") → now ≤ Json.maxSafeInteger →
      s.ingestObservation rt d'.toObservationInsert none actor now freshId = .ok (s, o, row)
  other : ∀ (d' : Delivery) extension actor now freshId, d'.source = d.source →
    d'.externalEventId = d.externalEventId → ¬ d.SameContent d'.toObservationContent →
      s.perform rt (.ingest d'.toObservationInsert extension actor now freshId) = s ∧
      ∀ r, s.ingestObservation rt d'.toObservationInsert extension actor now freshId ≠ .ok r

variable {d : Delivery}

/-- REFUSED: a different content is not taken for the stored one. -/
theorem ingestObservation_other (h : s.Routed) (hrow : s.observations[o]? = some row)
    (hcontent : row.canonicalContent rt = d.canonicalContent rt) {d' : ObservationInsert}
    (hsource : d'.source = d.source) (hevent : d'.externalEventId = d.externalEventId)
    (hother : ¬ d.SameContent d'.toObservationContent) (extension actor : Option String)
    (now : UnixMs) (freshId : UuidV7) (r : WaitStore × UuidV7 × ObservationRow) :
    s.ingestObservation rt d' extension actor now freshId ≠ .ok r := by
  intro hok
  obtain ⟨s', k, row'⟩ := r
  have hsame := (canonicalContent_eq_iff.1 hcontent).1
  have hidentity : row.source = d.source ∧ row.externalEventId = d.externalEventId := by
    rw [← hsame]
    exact ⟨rfl, rfl⟩
  have hprior := h.delivery hrow
  rw [hidentity.1, hidentity.2, ← hsource, ← hevent] at hprior
  obtain ⟨hfound, -, hcontent'⟩ | ⟨hnone, -⟩ := ingestObservation_eq_ok hok
  · obtain ⟨-, rfl⟩ := Prod.mk.inj (Option.some.inj (hprior.symm.trans hfound))
    exact hother (sameContent_of_canonicalContent (hcontent.symm.trans hcontent'))
  · rw [hprior] at hnone
    cases hnone

/-- AGAIN: equal contents have one text exactly when no keys of the delivery are tied. -/
theorem canonicalContent_again_iff {c : ObservationContent}
    (hcontent : c.canonicalContent rt = d.canonicalContent rt) :
    (∀ d' : Delivery, d.SameContent d'.toObservationContent →
      c.canonicalContent rt = d'.canonicalContent rt) ↔
      Json.Separated rt.localeCompare (.obj d.metadata.fields) := by
  have := rt.localeOrder
  rw [hcontent, ← Json.stable_eq_iff_separated d.own]
  constructor
  · rintro h b hown ⟨fields, rfl, hsame⟩
    let d' : Delivery :=
      ⟨⟨{ d.toObservationContent with metadata := ⟨fields⟩ }, d.id⟩, hown⟩
    exact (canonicalContent_eq_iff.1 (h d' ⟨rfl, hsame⟩)).2
  · rintro h d' ⟨hrest, hsame⟩
    exact canonicalContent_eq_iff.2 ⟨hrest, h _ d'.own ⟨_, rfl, hsame⟩⟩

end WaitStore

open WaitStore

/-- A new or an earlier delivery that is accepted is stored, with the content that was sent. -/
theorem WaitStore.ingestObservation_stores {s s' : WaitStore} {rt : WorkRuntime}
    {parsed : ObservationInsert} {extension actor : Option String} {now : UnixMs}
    {freshId o : UuidV7} {row : ObservationRow} (hrouted : s.Routed)
    (h : s.ingestObservation rt parsed extension actor now freshId = .ok (s', o, row)) :
    s'.Routed ∧ s'.observations[o]? = some row ∧
      row.canonicalContent rt = parsed.canonicalContent rt := by
  obtain ⟨hfound, rfl, hcontent⟩ | ⟨hnew, ho, hcontent, rfl⟩ := ingestObservation_eq_ok h
  · exact ⟨hrouted, (Table.mem_rows.1 (List.mem_of_head? hfound)).1, hcontent⟩
  · refine ⟨hrouted.insert ho ?_, Std.ExtTreeMap.getElem?_insert_self, by rw [hcontent]⟩
    rw [hcontent]
    exact hnew

/-- EXACT: after a delivery is accepted, in every run it stays stored once with its routes, and
    another content under its identity is refused. It is answered with its row whenever it comes
    again exactly when no object of its metadata has two keys that `localeCompare` ties. -/
theorem delivered_once_iff (rt : WorkRuntime) (workspaceId : String) (principals : List Principal)
    (before : List WaitAction) (d : Delivery) (extension actor : Option String) (now : UnixMs)
    (freshId : UuidV7) (s' : WaitStore) (o : UuidV7) (row : ObservationRow)
    (h : (run (WaitSystem.step rt) (WaitSystem.opening workspaceId principals)
      before).ingestObservation rt d.toObservationInsert extension actor now freshId =
        .ok (s', o, row)) :
    (∀ after : List WaitAction, DeliveredOnce rt d o row
      (run (WaitSystem.step rt) (WaitSystem.opening workspaceId principals)
        (before ++ .ingest d.toObservationInsert extension actor now freshId ::
          after)).toWaitStore) ↔
      Json.Separated rt.localeCompare (.obj d.metadata.fields) := by
  obtain ⟨hrouted, hrow, hcontent⟩ :=
    ingestObservation_stores (WaitSystem.routed_run rt workspaceId principals before) h
  have hadmitted := ingestObservation_admitted h
  have hsent : (WaitSystem.step rt (run (WaitSystem.step rt)
      (WaitSystem.opening workspaceId principals) before)
      (.ingest d.toObservationInsert extension actor now freshId)).toWaitStore = s' := by
    simp [WaitSystem.step, WaitStore.perform, h, settle]
  rw [← hsent] at hrouted hrow
  have hidentity : d.source = row.source ∧ d.externalEventId = row.externalEventId := by
    rw [← (canonicalContent_eq_iff.1 hcontent.symm).1]
    exact ⟨rfl, rfl⟩
  -- what holds of the store after every further run
  have hafter : ∀ after : List WaitAction, let t := run (WaitSystem.step rt) _ after
      t.Routed ∧ t.observations[o]? = some row := fun after =>
    run_invariant' (I := fun t : WaitSystem => t.Routed ∧ t.observations[o]? = some row)
      (fun t a ht => ⟨ht.1.perform a, perform_stored a ht.2⟩) after ⟨hrouted, hrow⟩
  have hagain : ∀ {t : WaitStore}, t.Routed → t.observations[o]? = some row →
      ∀ (d' : Delivery) actor now freshId, d.SameContent d'.toObservationContent →
        ¬ Blank (actor.getD "system") → now ≤ Json.maxSafeInteger →
          (t.ingestObservation rt d'.toObservationInsert none actor now freshId = .ok (t, o, row) ↔
            row.canonicalContent rt = d'.canonicalContent rt) := by
    intro t ht hstored d' actor now freshId hsame hactor hnow
    refine ingestObservation_again (hadmitted.same hsame) hactor hnow ?_
    rw [← hsame.1]
    exact hidentity.1 ▸ hidentity.2 ▸ ht.delivery hstored
  rw [← canonicalContent_again_iff hcontent]
  simp only [run_append, run_cons]
  constructor
  · intro hall d' hsame
    obtain ⟨ht, hstored⟩ := hafter []
    exact (hagain ht hstored d' none 0 0 hsame (by decide) (Nat.zero_le _)).1
      ((hall []).again d' none 0 0 hsame (by decide) (Nat.zero_le _))
  · intro hsame after
    obtain ⟨ht, hstored⟩ := hafter after
    refine ⟨hstored, sameContent_of_canonicalContent hcontent.symm, fun k r hr hsource hevent => ?_,
      ht.routes o row hstored, fun d' actor now freshId hd' hactor hnow => ?_,
      fun d' extension actor now freshId hsource hevent hother => ?_⟩
    · exact ht.once k o r row hr hstored (hsource.trans hidentity.1) (hevent.trans hidentity.2)
    · exact (hagain ht hstored d' actor now freshId hd' hactor hnow).2 (hsame d' hd')
    · have hnone := ingestObservation_other ht hstored hcontent hsource hevent hother extension
        actor now freshId
      refine ⟨settle_fst_rule (I := fun t' => t' = _) rfl fun t' b hok => ?_, hnone⟩
      exact absurd hok (hnone _)

/-- A response without metadata. -/
def plainDelivery : Delivery := ⟨plainResponse, by simp [Json.Own, Json.OwnValues, plainResponse]⟩

theorem delivered_once_plain :
    DeliveredOnce plainWorkRuntime plainDelivery 7
      ⟨plainResponse.toObservationContent, 10, "system"⟩
      (run (WaitSystem.step plainWorkRuntime) (WaitSystem.opening "w" [])
        [.ingest plainResponse none none 10 7]).toWaitStore := by
  have hrow : ((WaitSystem.opening "w" []).ingestObservation plainWorkRuntime plainResponse none
      none 10 7).toOption.map Prod.snd =
        some (7, ⟨plainResponse.toObservationContent, 10, "system"⟩) := by
    decide +kernel
  cases hok : (WaitSystem.opening "w" []).ingestObservation plainWorkRuntime plainResponse none
      none 10 7 with
  | error e => simp [hok, Except.toOption] at hrow
  | ok r =>
    obtain ⟨s', o, row⟩ := r
    simp only [hok, Except.toOption, Option.map_some, Option.some.injEq, Prod.mk.injEq] at hrow
    obtain ⟨rfl, rfl⟩ := hrow
    refine (delivered_once_iff plainWorkRuntime "w" [] [] plainDelivery none none 10 7 s' _ _
      hok).2 ?_ []
    simp [Json.Separated, Json.SeparatedValues, plainDelivery, plainResponse]

/-- The letters of a text with accents taken apart. -/
def decomposed (text : String) : List ℕ :=
  text.toList.flatMap fun c => if c = 'é' then ['e'.toNat, 0x301] else [c.toNat]

/-- A platform whose comparison finds canonically equivalent texts equal, as that of every locale
    does. -/
def accentRuntime : WorkRuntime :=
  { plainWorkRuntime with
    localeCompare := compareOn decomposed
    localeOrder := inferInstance }

/-- A response with two keys that look alike. -/
def accented (first second : String × Json) : ObservationInsert :=
  { plainResponse with metadata := ⟨[first, second]⟩ }

/-- NOT SO: a delivery that comes again with two keys in the other order is refused. -/
theorem reordered_refused :
    Json.Own (.obj (accented ("é", .num 1) ("e\u0301", .num 2)).metadata.fields) ∧
    Json.Own (.obj (accented ("e\u0301", .num 2) ("é", .num 1)).metadata.fields) ∧
    (accented ("é", .num 1) ("e\u0301", .num 2)).SameContent
      (accented ("e\u0301", .num 2) ("é", .num 1)).toObservationContent ∧
    ((run (WaitSystem.step accentRuntime) (WaitSystem.opening "w" [])
      [.ingest (accented ("é", .num 1) ("e\u0301", .num 2)) none none 10 7]).ingestObservation
        accentRuntime (accented ("e\u0301", .num 2) ("é", .num 1)) none none 11 8).map Prod.snd =
      .error (.error "Observation delivery identity reused with different content: s/e") := by
  have hfirst : Json.arrayIndex? "é" = none := by decide +kernel
  have hsecond : Json.arrayIndex? "e\u0301" = none := by decide +kernel
  have hown : Json.MayPrecede "é" "e\u0301" :=
    (Json.mayPrecede_iff hfirst hsecond).2 (by decide +kernel)
  refine ⟨?_, ?_, ⟨rfl, ?_⟩, by decide +kernel⟩
  · simp [Json.Own, Json.OwnValues, accented, hown]
  · simp [Json.Own, Json.OwnValues, accented,
      (Json.mayPrecede_iff hsecond hfirst).2 (Json.mayPrecede_ne hown).symm]
  · exact Json.sameFields_of_perm (.swap _ _ _)

end Tasq
