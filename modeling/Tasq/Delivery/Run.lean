import Mathlib.Tactic
import Tasq.Delivery.Order
import Tasq.Lib.Run

/-! Runs of the outbox: any number of workers lease, complete and fail deliveries in any order,
    while events are recorded and sinks are enabled and disabled.

    The clock of the system is the latest time that a call has read. The calls may read times in
    any order, and a lease ends by itself when the clock passes its expiry. -/

namespace Tasq

open Outcome Run

/-- The store, with the latest time that a call has read. -/
structure DeliverySystem where
  store : DeliveryStore
  clock : UnixMs

/-- The calls of one run, and the events that other workspaces record. -/
inductive DeliveryAction where
  | ensureSink (seen : DeliveryStore) (input : EnsureDeliverySinkInput) (now : UnixMs)
  | disableSink (seen : DeliveryStore) (id : String) (now : UnixMs)
  | insertEvent (event : SourceEvent)
  | elsewhere (events : ℕ)
  | leaseNext (seen : DeliveryStore) (sinkId : String) (options : LeaseNextDeliveryOptions)
  | leaseBatch (seen : DeliveryStore) (sinkId : String) (options : LeaseNextDeliveryOptions)
      (maxItems : ℕ)
  | complete (id owner : String) (now : UnixMs)
  | completeBatch (ids : List String) (owner : String) (now : UnixMs)
  | fail (id : String) (options : FailDeliveryOptions)

namespace DeliverySystem

/-- No sink and no event. -/
def opening : DeliverySystem := ⟨⟨∅, ∅, 0, ∅⟩, 0⟩

/-- The system after a call that read `now` and left `store`. -/
def after (s : DeliverySystem) (now : UnixMs) (store : DeliveryStore) : DeliverySystem :=
  ⟨store, max s.clock now⟩

/-- One call. A refused call changes nothing. -/
def step (s : DeliverySystem) : DeliveryAction → DeliverySystem
  | .ensureSink seen input now =>
    settle s ((fun r => s.after now r.1) <$> seen.ensureDeliverySink s.store input now)
  | .disableSink seen id now => s.after now (seen.disableDeliverySink s.store id now).1
  | .insertEvent event => settle s (s.after 0 <$> s.store.insertEvent event)
  | .elsewhere events =>
    { s with store.lastSequence := s.store.lastSequence + events }
  | .leaseNext seen sinkId options =>
    settle s ((fun r => s.after options.now r.1) <$>
      seen.leaseNextDelivery s.store sinkId options)
  | .leaseBatch seen sinkId options maxItems =>
    settle s ((fun r => s.after options.now r.1) <$>
      seen.leaseDeliveryBatch s.store sinkId options maxItems)
  | .complete id owner now => settle s (s.after now <$> s.store.completeDelivery id owner now)
  | .completeBatch ids owner now =>
    settle s (s.after now <$> s.store.completeDeliveryBatch ids owner now)
  | .fail id options => settle s (s.after options.now <$> s.store.failDelivery id options)

/-- What a worker must see to: it completes no item behind one that stays undelivered, and fails no
    item while a lease behind it outlasts the time the item is kept back. -/
def Careful (s : DeliverySystem) : DeliveryAction → Prop
  | .complete id owner _ => s.store.CompletesInOrder [id] owner
  | .completeBatch ids owner _ => s.store.CompletesInOrder ids owner
  | .fail id options => s.store.FailureOutlasts s.clock id options
  | _ => True

instance instDecidableCareful (s : DeliverySystem) (a : DeliveryAction) :
    Decidable (s.Careful a) := by
  cases a <;> unfold Careful <;> infer_instance

/-- INVARIANT: the table keeps its constraints and every line is orderly. -/
structure Ordered (s : DeliverySystem) : Prop where
  keyed : s.store.Keyed
  lines : ∀ sink, (s.store.line sink).Orderly s.clock

theorem ordered_opening : Ordered opening where
  keyed := ⟨by simp [opening], by simp [opening]⟩
  lines sink := by
    have hline : opening.store.line sink = fun _ => none :=
      funext fun _ => congrArg (Option.map _) Std.ExtTreeMap.getElem?_empty
    rw [hline]
    exact .empty

variable {s : DeliverySystem} {store : DeliveryStore} {now : UnixMs}

/-- The lines of the store, at a later clock. -/
theorem Ordered.later (h : s.Ordered) (now : UnixMs) (sink : String) :
    (s.store.line sink).Orderly (max s.clock now) :=
  (h.lines sink).later (le_max_left _ _)

/-- A call that leaves the outbox alone. -/
theorem Ordered.same_outbox (h : s.Ordered) (houtbox : store.outbox = s.store.outbox)
    (hsequence : s.store.lastSequence ≤ store.lastSequence) : (s.after now store).Ordered where
  keyed := by
    refine ⟨?_, fun k row hk => ?_⟩
    · rw [after, houtbox]
      exact h.keyed.ids
    · rw [after, houtbox] at hk
      exact (h.keyed.sequences k row hk).trans hsequence
  lines sink := by
    have hline : store.line sink = s.store.line sink := by
      funext i
      rw [DeliveryStore.line, houtbox, DeliveryStore.line]
    rw [after, hline]
    exact h.later now sink

/-- A call that leases. -/
theorem Ordered.leases (h : s.Ordered) {owner sinkId : String} {expiry : UnixMs}
    {items : List LeasedDelivery}
    (hleases : DeliveryStore.Leases owner now expiry sinkId s.store store items) :
    (s.after now store).Ordered where
  keyed := by
    rcases hleases with ⟨rfl, -⟩ | ⟨n, p, rfl, -, -⟩
    · exact h.keyed
    · exact h.keyed.updateOutbox fun _ => rfl
  lines sink := hleases.orderly (le_max_right _ _) (h.later now sink)

/-- A completion in order. -/
theorem Ordered.completes (h : s.Ordered) {ids : List String} {owner : String}
    (hinorder : s.store.CompletesInOrder ids owner) :
    (s.after now (s.store.completeOwned ids owner now)).Ordered where
  keyed := h.keyed.updateOutbox fun _ => rfl
  lines sink := DeliveryStore.completeOwned_orderly hinorder (h.later now sink)

/-- A failure that stays back. -/
theorem Ordered.fails (h : s.Ordered) {id : String} {options : FailDeliveryOptions}
    (houtlasts : s.store.FailureOutlasts s.clock id options)
    (hfail : s.store.failDelivery id options = .ok store) :
    (s.after options.now store).Ordered := by
  simp only [DeliveryStore.failDelivery, bind_eq_ok, pure_eq_ok] at hfail
  obtain ⟨-, -, -, -, -, -, -, -, current, -, -, -, rfl⟩ := hfail
  have houtlasts' : s.store.FailureOutlasts (max s.clock options.now) id options := by
    simp only [DeliveryStore.FailureOutlasts, max_assoc, max_self]
    exact houtlasts
  exact ⟨h.keyed.updateOutbox fun _ => rfl, fun sink =>
    DeliveryStore.failed_orderly houtlasts' (le_max_right _ _) (h.later options.now sink)⟩

/-- Registering a sink leaves the outbox alone. -/
theorem ensureDeliverySink_outbox {seen s s' : DeliveryStore} {input : EnsureDeliverySinkInput}
    {row : DeliverySink} (h : seen.ensureDeliverySink s input now = .ok (s', row)) :
    s'.outbox = s.outbox ∧ s'.lastSequence = s.lastSequence := by
  simp only [DeliveryStore.ensureDeliverySink, bind_eq_ok] at h
  obtain ⟨_, -, _, -, h⟩ := h
  split at h
  · cases h
    exact ⟨rfl, rfl⟩
  split at h
  · simp only [bind_eq_ok] at h
    obtain ⟨-, -, h⟩ := h
    split at h <;> cases h <;> exact ⟨rfl, rfl⟩
  · cases h
    exact ⟨rfl, rfl⟩

theorem disableDeliverySink_outbox (seen s : DeliveryStore) (id : String) (now : UnixMs) :
    (seen.disableDeliverySink s id now).1.outbox = s.outbox ∧
      (seen.disableDeliverySink s id now).1.lastSequence = s.lastSequence := by
  unfold DeliveryStore.disableDeliverySink
  split
  · exact ⟨rfl, rfl⟩
  split
  · exact ⟨rfl, rfl⟩
  split <;> exact ⟨rfl, rfl⟩

/-- What a completed call establishes, the settled step keeps. -/
theorem Ordered.settled {α : Type} (h : s.Ordered) {x : Call α} {f : α → DeliverySystem}
    (hx : ∀ r, x = .ok r → (f r).Ordered) : (settle s (f <$> x)).Ordered := by
  refine settle_rule h fun s' hs' => ?_
  obtain ⟨r, hr, rfl⟩ := (map_eq_ok _ _ _).1 hs'
  exact hx r hr

/-- STEP: a careful call keeps the order. -/
theorem ordered_step (s : DeliverySystem) (a : DeliveryAction) (hcareful : s.Careful a)
    (h : s.Ordered) : (s.step a).Ordered := by
  unfold step
  cases a with
  | ensureSink seen input now =>
    refine h.settled fun r hr => ?_
    obtain ⟨houtbox, hsequence⟩ := ensureDeliverySink_outbox hr
    exact h.same_outbox houtbox hsequence.ge
  | disableSink seen id now =>
    obtain ⟨houtbox, hsequence⟩ := disableDeliverySink_outbox seen s.store id now
    exact h.same_outbox houtbox hsequence.ge
  | insertEvent event =>
    refine h.settled fun store hstore => ?_
    exact ⟨h.keyed.insertEvent hstore, fun sink =>
      (h.later 0 sink).appends (DeliveryStore.insertEvent_appends h.keyed hstore sink)⟩
  | elsewhere events =>
    exact ⟨⟨h.keyed.ids, fun k row hk => (h.keyed.sequences k row hk).trans (Nat.le_add_right _ _)⟩,
      h.lines⟩
  | leaseNext seen sinkId options =>
    exact h.settled fun r hr => h.leases (DeliveryStore.leaseNextDelivery_leases h.keyed hr)
  | leaseBatch seen sinkId options maxItems =>
    exact h.settled fun r hr => h.leases (DeliveryStore.leaseDeliveryBatch_leases h.keyed hr)
  | complete id owner now =>
    refine h.settled fun store hstore => ?_
    simp only [DeliveryStore.completeDelivery, bind_eq_ok, pure_eq_ok] at hstore
    obtain ⟨-, -, -, -, rfl⟩ := hstore
    exact h.completes hcareful
  | completeBatch ids owner now =>
    refine h.settled fun store hstore => ?_
    simp only [DeliveryStore.completeDeliveryBatch, bind_eq_ok, pure_eq_ok] at hstore
    obtain ⟨-, -, -, -, -, -, rfl⟩ := hstore
    exact h.completes hcareful
  | fail id options => exact h.settled fun store hstore => h.fails hcareful hstore

/-- What the outbox promises in a state: deliveries come in order, unexpired leases of a sink have
    one holder, and whatever is leased next is handed out in order. -/
structure InOrder (s : DeliverySystem) : Prop where
  delivered : s.store.DeliveredPrefix
  oneWorker : s.store.OneWorker s.clock
  next : ∀ (seen : DeliveryStore) sinkId options store items,
    seen.leaseNextDelivery s.store sinkId options = .ok (store, items) →
      s.store.HandsInOrder items
  batch : ∀ (seen : DeliveryStore) sinkId options maxItems store items,
    seen.leaseDeliveryBatch s.store sinkId options maxItems = .ok (store, items) →
      s.store.HandsInOrder items

theorem Ordered.inOrder (h : s.Ordered) : s.InOrder where
  delivered := DeliveryStore.deliveredPrefix_of_orderly h.lines
  oneWorker := DeliveryStore.oneWorker_of_orderly h.lines
  next _ _ _ _ _ hlease := (DeliveryStore.leaseNextDelivery_leases h.keyed hlease).handsInOrder
  batch _ _ _ _ _ _ hlease := (DeliveryStore.leaseDeliveryBatch_leases h.keyed hlease).handsInOrder

/-- CORRECT (careful workers): along a run in which no worker completes an item behind one that
    stays undelivered, or fails an item while a lease behind it outlasts its backoff, deliveries are
    handed out and completed in event order and unexpired leases of a sink have one holder. -/
theorem delivery_in_order (actions : List DeliveryAction)
    (hcareful : Along step Careful opening actions) : (run step opening actions).InOrder :=
  (run_invariant ordered_step hcareful ordered_opening).inOrder

end DeliverySystem

/-! ### Two events for one sink -/

namespace DeliverySystem

/-- A sink that is owed two events. -/
def plainQueue : List DeliveryAction :=
  [.ensureSink opening.store ⟨"j", "jsonl", "sha256:".append (String.ofList (.replicate 64 '0'))⟩ 0,
    .insertEvent ⟨"e1", 0⟩, .insertEvent ⟨"e2", 0⟩]

/-- A worker leases both in one batch, until 101. -/
def plainBatch : List DeliveryAction :=
  plainQueue ++ [.leaseBatch (run step opening plainQueue).store "j" ⟨"a", 100, 1⟩ 2]

theorem delivery_in_order_plain :
    (run step opening (plainBatch ++ [.completeBatch ["j/e1", "j/e2"] "a" 2])).InOrder ∧
      (run step opening (plainBatch ++ [.completeBatch ["j/e1", "j/e2"] "a" 2])).store.outbox.values.map
        DeliveryOutbox.status = [.delivered, .delivered] := by
  refine ⟨delivery_in_order _ ?_, by decide +kernel⟩
  rw [along_append]
  exact ⟨⟨trivial, trivial, trivial, trivial, trivial⟩, by decide +kernel, trivial⟩

/-- The worker completes the second item of its batch first; or it fails the first item with a short
    backoff, and a second worker leases that item. -/
theorem delivery_out_of_order :
    ¬ (run step opening (plainBatch ++ [.complete "j/e2" "a" 2])).store.DeliveredPrefix ∧
      ¬ (run step opening (plainBatch ++
          [.fail "j/e1" ⟨"a", 2, "offline", none, some 1, none⟩,
            .leaseNext (run step opening plainQueue).store "j" ⟨"b", 100, 4⟩])).store.OneWorker
        4 := by
  decide +kernel

end DeliverySystem

end Tasq
