import Mathlib.Tactic
import Tasq.Delivery.Store
import Tasq.Lib.Line

/-! Delivery in event order: the outbox of each sink as a line of items, what each call does to the
    lines, and what an orderly line says about deliveries. -/

namespace Tasq

open Outcome

/-- The stage of a delivery. -/
def DeliveryOutbox.stage (row : DeliveryOutbox) : Line.Stage (Option String) :=
  match row.status with
  | .delivered => .done
  | .delivering => .held row.leaseOwner (row.leaseExpiresAt.getD 0)
  | .pending => .waiting row.availableAt
  | .quarantined => .waiting ⊤

/-- An outbox row with its key. -/
abbrev OutboxEntry := (String ×ₗ ℕ) × DeliveryOutbox

/-- `e` comes before `f` in the queue of one sink. -/
def OutboxEntry.Ahead (e f : OutboxEntry) : Prop :=
  (ofLex e.1).1 = (ofLex f.1).1 ∧ (ofLex e.1).2 < (ofLex f.1).2

instance instDecidableAhead (e f : OutboxEntry) : Decidable (OutboxEntry.Ahead e f) :=
  inferInstanceAs (Decidable (_ ∧ _))

theorem DeliveryOutbox.stage_of_delivering {row : DeliveryOutbox} (h : row.status = .delivering) :
    row.stage = .held row.leaseOwner (row.leaseExpiresAt.getD 0) := by
  simp [DeliveryOutbox.stage, h]

@[simp] theorem DeliveryOutbox.stage_eq_done {row : DeliveryOutbox} :
    row.stage = .done ↔ row.status = .delivered := by
  unfold DeliveryOutbox.stage
  split <;> simp_all

/-- A head can be leased when its time has come. -/
theorem isLeaseableHead_until {row : DeliveryOutbox} {now : UnixMs}
    (hdelivered : row.status ≠ .delivered) (h : isLeaseableHead row now = true) :
    row.stage.until ≤ (now : WithTop ℕ) := by
  unfold isLeaseableHead at h
  unfold DeliveryOutbox.stage
  split at h <;> simp_all [Line.Stage.until]

namespace DeliveryStore

variable {s s' : DeliveryStore} {sinkId : String} {now : UnixMs}

/-- The outbox of a sink as a line. -/
def line (s : DeliveryStore) (sinkId : String) : Line ℕ (Option String) :=
  fun i => s.outbox[toLex (sinkId, i)]?.map DeliveryOutbox.stage

/-- What the constraints of the table promise: the ids differ, and no row is ahead of its event. -/
structure Keyed (s : DeliveryStore) : Prop where
  ids : ∀ (k k' : String ×ₗ ℕ) row row', s.outbox[k]? = some row → s.outbox[k']? = some row' →
    row.id = row'.id → k = k'
  sequences : ∀ (k : String ×ₗ ℕ) row, s.outbox[k]? = some row → (ofLex k).2 ≤ s.lastSequence

/-! ### Updates -/

section Updates

variable {p : (String ×ₗ ℕ) → DeliveryOutbox → Bool} {g : DeliveryOutbox → DeliveryOutbox}

theorem updateOutbox_row (s : DeliveryStore) (k : String ×ₗ ℕ) :
    (s.updateOutbox p g).outbox[k]? =
      s.outbox[k]?.map fun row => if p k row = true then g row else row :=
  Std.ExtTreeMap.getElem?_map

theorem Keyed.updateOutbox (h : s.Keyed) (hid : ∀ row, (g row).id = row.id) :
    (s.updateOutbox p g).Keyed where
  ids k k' row row' hk hk' heq := by
    rw [updateOutbox_row, Option.map_eq_some_iff] at hk hk'
    obtain ⟨a, ha, rfl⟩ := hk
    obtain ⟨b, hb, rfl⟩ := hk'
    refine h.ids k k' a b ha hb ?_
    split at heq <;> split at heq <;> simpa [hid] using heq
  sequences k row hk := by
    rw [updateOutbox_row, Option.map_eq_some_iff] at hk
    obtain ⟨a, ha, -⟩ := hk
    exact h.sequences k a ha

/-- The items of a sink that an update touches. -/
def touched (s : DeliveryStore) (p : (String ×ₗ ℕ) → DeliveryOutbox → Bool) (sinkId : String) :
    Set ℕ :=
  fun i => ∃ row, s.outbox[toLex (sinkId, i)]? = some row ∧ p (toLex (sinkId, i)) row = true

theorem line_eq_some {i : ℕ} {stage : Line.Stage (Option String)} :
    s.line sinkId i = some stage ↔
      ∃ row, s.outbox[toLex (sinkId, i)]? = some row ∧ row.stage = stage := by
  simp [line]

theorem line_touched {i : ℕ} (hi : i ∈ s.touched p sinkId) :
    ∃ row, s.outbox[toLex (sinkId, i)]? = some row ∧ p (toLex (sinkId, i)) row = true ∧
      (s.updateOutbox p g).line sinkId i = some (g row).stage := by
  obtain ⟨row, hrow, hp⟩ := hi
  refine ⟨row, hrow, hp, ?_⟩
  rw [line, updateOutbox_row, hrow]
  simp [hp]

theorem line_untouched {i : ℕ} (hi : i ∉ s.touched p sinkId) :
    (s.updateOutbox p g).line sinkId i = s.line sinkId i := by
  rw [line, line, updateOutbox_row]
  rcases hrow : s.outbox[toLex (sinkId, i)]? with _ | row
  · rfl
  · have hp : ¬ p (toLex (sinkId, i)) row = true := fun hp => hi ⟨row, hrow, hp⟩
    simp [hp]

/-- What holds of the entries ahead of an updated one, holds along the line. -/
theorem touched_ahead
    (hahead : ∀ e ∈ s.outbox.toList, ∀ f ∈ s.outbox.toList, OutboxEntry.Ahead e f →
      p f.1 f.2 = true → e.2.status = .delivered ∨ p e.1 e.2 = true)
    (i j : ℕ) (stage : Line.Stage (Option String)) (hij : i < j) (hj : j ∈ s.touched p sinkId)
    (hi : s.line sinkId i = some stage) : stage = .done ∨ i ∈ s.touched p sinkId := by
  obtain ⟨a, ha, rfl⟩ := line_eq_some.1 hi
  obtain ⟨b, hb, hp⟩ := hj
  rcases hahead (toLex (sinkId, i), a) (Table.mem_toList.2 ha) (toLex (sinkId, j), b)
    (Table.mem_toList.2 hb) ⟨rfl, hij⟩ hp with hdone | hp'
  · exact .inl (DeliveryOutbox.stage_eq_done.2 hdone)
  · exact .inr ⟨a, ha, hp'⟩

end Updates

/-! ### Leases -/

/-- The entries that a lease hands out: the leaseable front of the queue, `n` at most. -/
def front (s : DeliveryStore) (sinkId : String) (now : UnixMs) (n : ℕ) : List OutboxEntry :=
  ((s.queue sinkId).take n).takeWhile fun candidate => isLeaseableHead candidate.2 now

theorem mem_queue {e : OutboxEntry} :
    e ∈ s.queue sinkId ↔
      s.outbox[e.1]? = some e.2 ∧ (ofLex e.1).1 = sinkId ∧ e.2.status ≠ .delivered := by
  simp [queue, Table.mem_rows]

theorem queue_front (s : DeliveryStore) (sinkId : String) (now : UnixMs) (n : ℕ) :
    s.front sinkId now n <+: s.queue sinkId :=
  (List.takeWhile_prefix _).trans (List.take_prefix _ _)

/-- The queue is in event order. -/
theorem queue_sorted (s : DeliveryStore) (sinkId : String) :
    (s.queue sinkId).Pairwise fun e f => (ofLex e.1).2 < (ofLex f.1).2 := by
  have hkeys : (s.queue sinkId).Pairwise fun e f => compare e.1 f.1 = .lt :=
    List.Pairwise.filter _ (Std.ExtTreeMap.ordered_keys_toList (t := s.outbox))
  refine hkeys.imp_of_mem fun {e f} he hf hlt => ?_
  have hsink : (ofLex e.1).1 = (ofLex f.1).1 := (mem_queue.1 he).2.1.trans (mem_queue.1 hf).2.1.symm
  rcases Prod.Lex.lt_iff.1 (compare_lt_iff_lt.1 hlt) with hlt | ⟨-, hlt⟩
  · exact absurd hlt (by simp [hsink])
  · exact hlt

theorem mem_front {n : ℕ} {e : OutboxEntry} (h : e ∈ s.front sinkId now n) :
    s.outbox[e.1]? = some e.2 ∧ (ofLex e.1).1 = sinkId ∧ e.2.status ≠ .delivered ∧
      isLeaseableHead e.2 now = true := by
  obtain ⟨hrow, hsink, hstatus⟩ := mem_queue.1 ((queue_front s sinkId now n).subset h)
  have hleaseable := List.mem_takeWhile_imp (p := fun c : OutboxEntry => isLeaseableHead c.2 now) h
  exact ⟨hrow, hsink, hstatus, hleaseable⟩

/-- HANDING RULE: what is ahead of an item at the front is delivered or at the front as well. -/
theorem front_ahead {n : ℕ} {e f : OutboxEntry} (he : e ∈ s.outbox.toList)
    (hf : f ∈ s.front sinkId now n) (h : OutboxEntry.Ahead e f) :
    e.2.status = .delivered ∨ e ∈ s.front sinkId now n := by
  by_cases hdelivered : e.2.status = .delivered
  · exact .inl hdelivered
  refine .inr ?_
  obtain ⟨rest, hqueue⟩ := queue_front s sinkId now n
  have hmem : e ∈ s.queue sinkId :=
    mem_queue.2 ⟨Table.mem_toList.1 he, h.1.trans (mem_front hf).2.1, hdelivered⟩
  have hsorted := queue_sorted s sinkId
  rw [← hqueue] at hmem hsorted
  rcases List.mem_append.1 hmem with hfront | hrest
  · exact hfront
  · have hlt := (List.pairwise_append.1 hsorted).2.2 f hf e hrest
    exact absurd hlt h.2.le.not_gt

/-- What a lease call does: nothing, or it leases the front of a queue. -/
def Leases (owner : String) (now expiry : UnixMs) (sinkId : String) (s s' : DeliveryStore)
    (items : List LeasedDelivery) : Prop :=
  (s' = s ∧ items = []) ∨ ∃ n p,
    s' = s.updateOutbox p (DeliveryOutbox.leased owner expiry now) ∧
    (∀ e : OutboxEntry, s.outbox[e.1]? = some e.2 → (p e.1 e.2 = true ↔ e ∈ s.front sinkId now n)) ∧
    items.map (fun item => (item.sinkId, item.eventSequence)) =
      (s.front sinkId now n).map fun e => ofLex e.1

theorem leaseableHead_eq_some {e : OutboxEntry} (h : s.leaseableHead sinkId now = some e) :
    s.front sinkId now 1 = [e] := by
  simp only [leaseableHead, findDeliveryHead, Option.filter_eq_some_iff] at h
  obtain ⟨hhead, hleaseable⟩ := h
  obtain ⟨rest, hqueue⟩ := List.head?_eq_some_iff.1 hhead
  simp [front, hqueue, hleaseable]

/-- The rows under one id. -/
theorem Keyed.eq_of_id (h : s.Keyed) {e f : OutboxEntry} (he : s.outbox[e.1]? = some e.2)
    (hf : s.outbox[f.1]? = some f.2) (hid : e.2.id = f.2.id) : e = f := by
  have hkey := h.ids _ _ _ _ he hf hid
  rw [hkey, hf, Option.some.injEq] at he
  exact Prod.ext hkey he.symm

/-- LEASE: one item. -/
theorem leaseNextDelivery_leases (hs : s.Keyed) {seen : DeliveryStore}
    {options : LeaseNextDeliveryOptions} {items : List LeasedDelivery}
    (h : seen.leaseNextDelivery s sinkId options = .ok (s', items)) :
    Leases options.leaseOwner options.now (options.now + options.leaseMs) sinkId s s' items := by
  simp only [leaseNextDelivery, bind_eq_ok, refuse_eq_ok] at h
  obtain ⟨-, -, -, -, h⟩ := h
  split at h
  · cases h
    exact .inl ⟨rfl, rfl⟩
  split at h
  · cases h
    exact .inl ⟨rfl, rfl⟩
  · rename_i head hhead
    simp only [bind_eq_ok, demand_eq_ok, pure_eq_ok, Prod.mk.injEq] at h
    obtain ⟨leased, hleased, source, -, rfl, rfl⟩ := h
    have hfront := leaseableHead_eq_some hhead
    have hrow : s.outbox[head.1]? = some head.2 := (mem_front (n := 1) (by rw [hfront]; simp)).1
    obtain ⟨hleased, hid⟩ := Table.mem_rows.1 (List.mem_of_head? hleased)
    obtain rfl : leased = head := hs.eq_of_id hleased hrow (by simpa using hid)
    refine .inr ⟨1, _, rfl, fun e he => ?_, by simp [hfront]⟩
    rw [hfront, List.mem_singleton, decide_eq_true_eq]
    exact ⟨fun hid => hs.eq_of_id he hrow hid, fun heq => by rw [heq]⟩

/-- An item of a batch is the candidate it was read for. -/
theorem batchItem_key (hs : s.Keyed) {p : (String ×ₗ ℕ) → DeliveryOutbox → Bool}
    {g : DeliveryOutbox → DeliveryOutbox} (hid : ∀ row, (g row).id = row.id)
    {candidate : OutboxEntry} (hcandidate : s.outbox[candidate.1]? = some candidate.2)
    {item : LeasedDelivery}
    (h : s.batchItem ((s.outbox.rows p).map fun e => (e.1, g e.2)) candidate = .ok item) :
    (item.sinkId, item.eventSequence) = ofLex candidate.1 := by
  simp only [batchItem, bind_eq_ok, demand_eq_ok, pure_eq_ok] at h
  obtain ⟨delivery, hfind, source, -, rfl⟩ := h
  obtain ⟨e, he, rfl⟩ := List.mem_map.1 (List.mem_of_find?_eq_some hfind)
  have hsame : e.2.id = candidate.2.id := by
    have := List.find?_some hfind
    simpa [hid] using this
  rw [hs.eq_of_id (Table.mem_rows.1 he).1 hcandidate hsame]

/-- What a loop answers, entry by entry. -/
theorem mapM_keys {α β γ : Type} {f : α → Call β} {g : α → γ} {key : β → γ} {xs : List α}
    {ys : List β} (hf : ∀ x ∈ xs, ∀ y, f x = .ok y → key y = g x) (h : xs.mapM f = .ok ys) :
    ys.map key = xs.map g := by
  induction xs generalizing ys with
  | nil =>
    obtain rfl : [] = ys := by simpa using h
    rfl
  | cons x xs ih =>
    simp only [List.mapM_cons, bind_eq_ok, pure_eq_ok] at h
    obtain ⟨y, hy, zs, hzs, rfl⟩ := h
    rw [List.map_cons, List.map_cons, hf x (.head _) y hy, ih (fun x hx => hf x (.tail _ hx)) hzs]

/-- LEASE: a batch. -/
theorem leaseDeliveryBatch_leases (hs : s.Keyed) {seen : DeliveryStore}
    {options : LeaseNextDeliveryOptions} {maxItems : ℕ} {items : List LeasedDelivery}
    (h : seen.leaseDeliveryBatch s sinkId options maxItems = .ok (s', items)) :
    Leases options.leaseOwner options.now (options.now + options.leaseMs) sinkId s s' items := by
  simp only [leaseDeliveryBatch, bind_eq_ok, refuse_eq_ok] at h
  obtain ⟨-, -, -, -, -, -, h⟩ := h
  split at h
  · cases h
    exact .inl ⟨rfl, rfl⟩
  split at h
  · cases h
    exact .inl ⟨rfl, rfl⟩
  · simp only [bind_eq_ok, refuse_eq_ok, pure_eq_ok, Prod.mk.injEq] at h
    obtain ⟨-, -, items', hitems, rfl, rfl⟩ := h
    refine .inr ⟨maxItems, _, rfl, fun e he => ?_, ?_⟩
    · rw [decide_eq_true_eq]
      constructor
      · rintro ⟨hsink, hid⟩
        obtain ⟨f, hf, hid⟩ := List.mem_map.1 hid
        rwa [hs.eq_of_id he (mem_front hf).1 hid.symm]
      · intro hmem
        exact ⟨(mem_front hmem).2.1, List.mem_map_of_mem hmem⟩
    · refine mapM_keys (fun candidate hcandidate item hitem => ?_) hitems
      exact batchItem_key (g := DeliveryOutbox.leased _ _ _) hs (fun _ => rfl)
        (mem_front hcandidate).1 hitem

/-- STEP: a lease hands out the front of the line of its sink, and leaves the other lines. -/
theorem Leases.orderly {owner : String} {expiry clock : UnixMs} {items : List LeasedDelivery}
    (h : Leases owner now expiry sinkId s s' items) (hnow : now ≤ clock) {sink : String}
    (hs : (s.line sink).Orderly clock) : (s'.line sink).Orderly clock := by
  rcases h with ⟨rfl, -⟩ | ⟨n, p, rfl, hp, -⟩
  · exact hs
  have hahead : ∀ e ∈ s.outbox.toList, ∀ f ∈ s.outbox.toList, OutboxEntry.Ahead e f →
      p f.1 f.2 = true → e.2.status = .delivered ∨ p e.1 e.2 = true := by
    intro e he f hf hlt hpf
    have hfront := (hp f (Table.mem_toList.1 hf)).1 hpf
    exact (front_ahead he hfront hlt).imp_right (hp e (Table.mem_toList.1 he)).2
  have hhands : Line.Hands (some owner) now expiry (s.touched p sink) (s.line sink)
      ((s.updateOutbox p (DeliveryOutbox.leased owner expiry now)).line sink) := by
    refine ⟨?_, touched_ahead hahead, fun i hi => ?_, fun i hi => line_untouched hi⟩
    · rintro i ⟨row, hrow, hpi⟩
      have hfront := mem_front ((hp (toLex (sink, i), row) hrow).1 hpi)
      exact ⟨_, line_eq_some.2 ⟨row, hrow, rfl⟩,
        isLeaseableHead_until hfront.2.2.1 hfront.2.2.2⟩
    · obtain ⟨row, -, -, hline⟩ := line_touched hi
      exact hline
  exact hs.hands hhands hnow

/-! ### Completions and failures -/

/-- The completion leaves no undelivered item ahead of the ones it completes. -/
def CompletesInOrder (s : DeliveryStore) (ids : List String) (owner : String) : Prop :=
  ∀ e ∈ s.outbox.toList, ∀ f ∈ s.outbox.toList, OutboxEntry.Ahead e f → f.2.Owned ids owner →
    e.2.status = .delivered ∨ e.2.Owned ids owner

instance instDecidableCompletesInOrder (s : DeliveryStore) (ids : List String) (owner : String) :
    Decidable (s.CompletesInOrder ids owner) := by
  unfold CompletesInOrder
  infer_instance

/-- The failure keeps the item back, in quarantine or backoff, for as long as a lease on an item
    behind it lasts. -/
def FailureOutlasts (s : DeliveryStore) (clock : UnixMs) (id : String)
    (options : FailDeliveryOptions) : Prop :=
  ∀ e ∈ s.outbox.toList, ∀ f ∈ s.outbox.toList, OutboxEntry.Ahead e f →
    e.2.Owned [id] options.leaseOwner → f.2.status = .delivering →
    max clock options.now < f.2.leaseExpiresAt.getD 0 →
      options.attempts ≤ e.2.attemptCount ∨
        f.2.leaseExpiresAt.getD 0 ≤ options.now + options.delay e.2.attemptCount

instance instDecidableFailureOutlasts (s : DeliveryStore) (clock : UnixMs) (id : String)
    (options : FailDeliveryOptions) : Decidable (s.FailureOutlasts clock id options) := by
  unfold FailureOutlasts
  infer_instance

theorem stage_of_owned {ids : List String} {owner : String} {row : DeliveryOutbox}
    (h : row.Owned ids owner) :
    row.stage = .held (some owner) (row.leaseExpiresAt.getD 0) := by
  rw [DeliveryOutbox.stage_of_delivering h.2.1, h.2.2]

/-- STEP: completing items in order. -/
theorem completeOwned_orderly {ids : List String} {owner : String} {clock : UnixMs}
    (h : s.CompletesInOrder ids owner) {sink : String} (hs : (s.line sink).Orderly clock) :
    ((s.completeOwned ids owner now).line sink).Orderly clock := by
  have hsettles : Line.Settles (s.touched (fun _ row => row.Owned ids owner) sink) (s.line sink)
      ((s.completeOwned ids owner now).line sink) := by
    refine ⟨?_, fun i hi => ?_, fun i hi => line_untouched hi⟩
    · rintro i ⟨row, hrow, howned⟩
      exact ⟨_, _, line_eq_some.2 ⟨row, hrow, stage_of_owned (of_decide_eq_true howned)⟩⟩
    · obtain ⟨row, -, -, hline⟩ := line_touched (g := DeliveryOutbox.completed now) hi
      exact hline
  refine hs.settles hsettles (touched_ahead fun e he f hf hlt howned => ?_)
  simpa using h e he f hf hlt (of_decide_eq_true howned)

/-- The time until which a failed item stays back. -/
def keptBack (options : FailDeliveryOptions) (row : DeliveryOutbox) : WithTop ℕ :=
  if options.attempts ≤ row.attemptCount then ⊤
  else ((options.now + options.delay row.attemptCount : ℕ) : WithTop ℕ)

theorem stage_failed (options : FailDeliveryOptions) (row : DeliveryOutbox) :
    (DeliveryOutbox.failed options row).stage = .waiting (keptBack options row) := by
  by_cases hattempts : options.attempts ≤ row.attemptCount <;>
    simp [DeliveryOutbox.stage, DeliveryOutbox.failed, keptBack, hattempts]

/-- STEP: failing an item that stays back. -/
theorem failed_orderly {id : String} {options : FailDeliveryOptions} {clock : UnixMs}
    (h : s.FailureOutlasts clock id options) (hnow : options.now ≤ clock) {sink : String}
    (hs : (s.line sink).Orderly clock) :
    ((s.updateOutbox (fun _ row => row.Owned [id] options.leaseOwner)
      (DeliveryOutbox.failed options)).line sink).Orderly clock := by
  have hreleases : Line.Releases
      (s.touched (fun _ row => row.Owned [id] options.leaseOwner) sink)
      (fun i => s.outbox[toLex (sink, i)]?.elim ⊤ (keptBack options)) (s.line sink)
      ((s.updateOutbox (fun _ row => row.Owned [id] options.leaseOwner)
        (DeliveryOutbox.failed options)).line sink) := by
    refine ⟨?_, fun i hi => ?_, fun i hi => line_untouched hi⟩
    · rintro i ⟨row, hrow, howned⟩
      exact ⟨_, _, line_eq_some.2 ⟨row, hrow, stage_of_owned (of_decide_eq_true howned)⟩⟩
    · obtain ⟨row, hrow, -, hline⟩ := line_touched (g := DeliveryOutbox.failed options) hi
      rw [hline, hrow, stage_failed]
      rfl
  refine hs.releases hreleases ?_
  rintro i j w e ⟨row, hrow, howned⟩ hij hj he
  obtain ⟨behind, hbehind, hstage⟩ := line_eq_some.1 hj
  obtain ⟨hstatus, rfl⟩ : behind.status = .delivering ∧ behind.leaseExpiresAt.getD 0 = e := by
    unfold DeliveryOutbox.stage at hstage
    split at hstage <;> simp_all
  have hout := h (toLex (sink, i), row) (Table.mem_toList.2 hrow) (toLex (sink, j), behind)
    (Table.mem_toList.2 hbehind) ⟨rfl, hij⟩ (of_decide_eq_true howned) hstatus
    (by rwa [max_eq_left hnow])
  rw [hrow, Option.elim_some, keptBack]
  split
  · exact le_top
  · exact_mod_cast hout.resolve_left ‹_›

/-! ### New events -/

theorem deliveryId_injective {sinkId sinkId' eventId : String}
    (h : deliveryId sinkId eventId = deliveryId sinkId' eventId) : sinkId = sinkId' := by
  simpa [deliveryId, String.ext_iff] using h

/-- The rows after an event was recorded: those before, and one for each sink that is owed it. -/
theorem insertEvent_row {event : SourceEvent} (h : s.insertEvent event = .ok s') (k : String ×ₗ ℕ)
    (row : DeliveryOutbox) (hrow : s'.outbox[k]? = some row) :
    s.outbox[k]? = some row ∨ (ofLex k).2 = s.lastSequence + 1 ∧
      row = enqueued event (ofLex k).1 ∧ ∀ (k' : String ×ₗ ℕ) row', s.outbox[k']? = some row' →
        row'.id ≠ row.id := by
  simp only [insertEvent, bind_eq_ok, refuse_eq_ok, pure_eq_ok] at h
  obtain ⟨-, -, -, hfree, rfl⟩ := h
  by_cases hnew : k ∈ (s.owed (s.lastSequence + 1)).map fun e => toLex (e.1, s.lastSequence + 1)
  · obtain ⟨e, he, rfl⟩ := List.mem_map.1 hnew
    have hnodup : ((s.owed (s.lastSequence + 1)).map fun e =>
        toLex (e.1, s.lastSequence + 1)).Nodup := by
      have hkeys : ((s.owed (s.lastSequence + 1)).map Prod.fst).Nodup :=
        (Table.keys_nodup s.sinks).sublist (List.filter_sublist.map _)
      refine List.Nodup.of_map (fun k => (ofLex k).1) ?_
      rwa [List.map_map]
    have hinserted := Table.insertAll_of_mem s.outbox
      (fun e : String × DeliverySink => toLex (e.1, s.lastSequence + 1))
      (fun e => enqueued event e.1) hnodup he
    obtain rfl : enqueued event e.1 = row := Option.some.inj (hinserted.symm.trans hrow)
    refine .inr ⟨rfl, rfl, fun k' row' hrow' hid => ?_⟩
    rw [Bool.not_eq_true, Table.has_eq_false] at hfree
    have hnone := hfree k' row' hrow'
    rw [List.any_eq_false] at hnone
    exact hnone e he (by simpa [enqueued] using hid)
  · exact .inl ((Table.insertAll_of_notMem _ _ _ hnew).symm.trans hrow)

theorem insertEvent_lastSequence {event : SourceEvent} (h : s.insertEvent event = .ok s') :
    s'.lastSequence = s.lastSequence + 1 := by
  simp only [insertEvent, bind_eq_ok, refuse_eq_ok, pure_eq_ok] at h
  obtain ⟨-, -, -, -, rfl⟩ := h
  rfl

theorem insertEvent_kept {event : SourceEvent} (h : s.insertEvent event = .ok s') (hs : s.Keyed)
    (k : String ×ₗ ℕ) (row : DeliveryOutbox) (hrow : s.outbox[k]? = some row) :
    s'.outbox[k]? = some row := by
  simp only [insertEvent, bind_eq_ok, refuse_eq_ok, pure_eq_ok] at h
  obtain ⟨-, -, -, -, rfl⟩ := h
  refine (Table.insertAll_of_notMem _ _ _ fun hmem => ?_).trans hrow
  obtain ⟨e, -, rfl⟩ := List.mem_map.1 hmem
  have hle := hs.sequences _ _ hrow
  simp at hle

/-- STEP: the rows of a new event. -/
theorem Keyed.insertEvent (hs : s.Keyed) {event : SourceEvent}
    (h : s.insertEvent event = .ok s') : s'.Keyed where
  ids k k' row row' hk hk' hid := by
    rcases insertEvent_row h k row hk with hold | ⟨hseq, hnew, hfresh⟩
    · rcases insertEvent_row h k' row' hk' with hold' | ⟨-, -, hfresh'⟩
      · exact hs.ids k k' row row' hold hold' hid
      · exact absurd hid (hfresh' k row hold)
    · rcases insertEvent_row h k' row' hk' with hold' | ⟨hseq', hnew', -⟩
      · exact absurd hid.symm (hfresh k' row' hold')
      · subst hnew hnew'
        exact ofLex.injective (Prod.ext (deliveryId_injective hid) (hseq.trans hseq'.symm))
  sequences k row hk := by
    rw [insertEvent_lastSequence h]
    rcases insertEvent_row h k row hk with hold | ⟨hseq, -, -⟩
    · exact (hs.sequences k row hold).trans (Nat.le_succ _)
    · exact hseq.le

/-- STEP: a new event is added at the end of the lines. -/
theorem insertEvent_appends (hs : s.Keyed) {event : SourceEvent}
    (h : s.insertEvent event = .ok s') (sink : String) :
    Line.Appends (s.line sink) (s'.line sink) := by
  intro i
  rcases hrow : s.outbox[toLex (sink, i)]? with _ | row
  · rcases hrow' : s'.outbox[toLex (sink, i)]? with _ | row'
    · exact .inl (by rw [line, line, hrow, hrow'])
    · refine .inr ⟨?_, fun j hij => ?_⟩
      · rcases insertEvent_row h _ _ hrow' with hold | ⟨-, rfl, -⟩
        · rw [hrow] at hold
          cases hold
        · exact ⟨_, by rw [line, hrow']; rfl⟩
      · rcases insertEvent_row h _ _ hrow' with hold | ⟨hseq, -, -⟩
        · rw [hrow] at hold
          cases hold
        · rcases hj : s.outbox[toLex (sink, j)]? with _ | behind
          · rw [line, hj]
            rfl
          · have hle := hs.sequences _ _ hj
            simp only [ofLex_toLex] at hle hseq
            omega
  · exact .inl (by rw [line, line, hrow, insertEvent_kept h hs _ _ hrow])

/-! ### The property -/

/-- The delivered items of each sink are a prefix of its queue. -/
def DeliveredPrefix (s : DeliveryStore) : Prop :=
  ∀ e ∈ s.outbox.toList, ∀ f ∈ s.outbox.toList, OutboxEntry.Ahead e f →
    f.2.status = .delivered → e.2.status = .delivered

instance instDecidableDeliveredPrefix (s : DeliveryStore) : Decidable s.DeliveredPrefix := by
  unfold DeliveredPrefix
  infer_instance

/-- At time `t`, unexpired leases on items of one sink are held by one worker. -/
def OneWorker (s : DeliveryStore) (t : UnixMs) : Prop :=
  ∀ e ∈ s.outbox.toList, ∀ f ∈ s.outbox.toList, (ofLex e.1).1 = (ofLex f.1).1 →
    e.2.status = .delivering → f.2.status = .delivering →
    t < e.2.leaseExpiresAt.getD 0 → t < f.2.leaseExpiresAt.getD 0 → e.2.leaseOwner = f.2.leaseOwner

instance instDecidableOneWorker (s : DeliveryStore) (t : UnixMs) : Decidable (s.OneWorker t) := by
  unfold OneWorker
  infer_instance

/-- Every item of the sink ahead of one that is handed out is delivered, or handed out with it. -/
def HandsInOrder (s : DeliveryStore) (items : List LeasedDelivery) : Prop :=
  ∀ item ∈ items, ∀ e ∈ s.outbox.toList, (ofLex e.1).1 = item.sinkId →
    (ofLex e.1).2 < item.eventSequence →
      e.2.status = .delivered ∨ ∃ item' ∈ items, ofLex e.1 = (item'.sinkId, item'.eventSequence)

theorem Leases.handsInOrder {owner : String} {expiry : UnixMs} {items : List LeasedDelivery}
    (h : Leases owner now expiry sinkId s s' items) : s.HandsInOrder items := by
  rcases h with ⟨-, rfl⟩ | ⟨n, p, -, -, hkeys⟩
  · simp [HandsInOrder]
  intro item hitem e he hsink hlt
  have hmem : (item.sinkId, item.eventSequence) ∈ (s.front sinkId now n).map fun e => ofLex e.1 :=
    hkeys ▸ List.mem_map_of_mem hitem
  obtain ⟨f, hf, hkey⟩ := List.mem_map.1 hmem
  have hahead : OutboxEntry.Ahead e f := ⟨by rw [hsink, hkey], by rw [hkey]; exact hlt⟩
  refine (front_ahead he hf hahead).imp_right fun hfront => ?_
  have hmem' : ofLex e.1 ∈ items.map fun item => (item.sinkId, item.eventSequence) :=
    hkeys ▸ List.mem_map_of_mem hfront
  obtain ⟨item', hitem', hkey'⟩ := List.mem_map.1 hmem'
  exact ⟨item', hitem', hkey'.symm⟩

theorem deliveredPrefix_of_orderly {clock : UnixMs}
    (h : ∀ sink, (s.line sink).Orderly clock) : s.DeliveredPrefix := by
  rintro ⟨k, row⟩ he ⟨k', row'⟩ hf ⟨hsink, hlt⟩ hdelivered
  have hk : s.line (ofLex k').1 (ofLex k).2 = some row.stage :=
    line_eq_some.2 ⟨row, by rw [← hsink]; exact Table.mem_toList.1 he, rfl⟩
  have hk' : s.line (ofLex k').1 (ofLex k').2 = some .done :=
    line_eq_some.2 ⟨row', Table.mem_toList.1 hf, DeliveryOutbox.stage_eq_done.2 hdelivered⟩
  exact DeliveryOutbox.stage_eq_done.1 ((h _).settled _ _ _ hlt hk' hk)

theorem oneWorker_of_orderly {clock : UnixMs}
    (h : ∀ sink, (s.line sink).Orderly clock) : s.OneWorker clock := by
  rintro ⟨k, row⟩ he ⟨k', row'⟩ hf hsink hstatus hstatus' hlt hlt'
  have hk : s.line (ofLex k').1 (ofLex k).2 =
      some (.held row.leaseOwner (row.leaseExpiresAt.getD 0)) :=
    line_eq_some.2 ⟨row, by rw [← hsink]; exact Table.mem_toList.1 he,
      DeliveryOutbox.stage_of_delivering hstatus⟩
  have hk' : s.line (ofLex k').1 (ofLex k').2 =
      some (.held row'.leaseOwner (row'.leaseExpiresAt.getD 0)) :=
    line_eq_some.2 ⟨row', Table.mem_toList.1 hf, DeliveryOutbox.stage_of_delivering hstatus'⟩
  exact (h _).one_worker hk hk' hlt hlt'

end DeliveryStore

end Tasq
