import Mathlib.Tactic
import Tasq.Bundles.Bundle

/-! What the freshness check of a bundle is worth.

    The verifier walks the records of the bundle and looks each one up among those that the ledger
    has now. It never walks the other way, so a record that was added since goes unnoticed
    (`freshness_misses`); that is the only way for its answer to be wrong. -/

namespace Tasq.Bundles

open Text Outcome Json Bytes Sorted Custody

/-! ### Values of the ledger -/

/-- A value that a bundle has a record of: an object with an id and without a key twice. -/
structure IsEntry (value : Json) (id : String) : Prop where
  id : property value "id" = some (.str id)
  distinct : value.distinct = true

theorem value_id (t : RecordTable) (row : LedgerRow) :
    property (t.value row) "id" = some (.str row.id) := by
  simp [RecordTable.value, property]

theorem agreementValue_id (a : String × Json) :
    property (agreementValue a) "id" = some (.str a.1) := by
  simp [agreementValue, property]

variable {l : OutcomeLedger}

/-- What is owned is a part of the table, in some order. -/
theorem owned_subperm (ws cid : String) (t : RecordTable) :
    (l.owned ws cid t).Subperm (l.rows t) := by
  have hbelonging : ∀ (owners : List String) (t : RecordTable),
      (l.belonging ws owners t).Subperm (l.rows t) := fun owners t =>
    ((List.perm_insertionSort _ _).subperm).trans List.filter_sublist.subperm
  cases t with
  | commitment => exact List.filter_sublist.subperm
  | _ => exact hbelonging _ _

theorem owned_distinct {ws cid : String} {t : RecordTable} {row : LedgerRow}
    (h : row ∈ l.owned ws cid t) : (t.value row).distinct = true :=
  l.rows_distinct t row ((owned_subperm ws cid t).subset h)

theorem owned_nodup (ws cid : String) (t : RecordTable) :
    ((l.owned ws cid t).map LedgerRow.id).Nodup := by
  obtain ⟨rows, hperm, hsub⟩ := owned_subperm (l := l) ws cid t
  exact (hperm.map _).nodup_iff.1 ((l.rows_nodup t).sublist (hsub.map _))

/-- There is one commitment with an id. -/
theorem owned_commitment {ws cid : String} {c : LedgerRow}
    (h : (l.owned ws cid .commitment).head? = some c) : l.owned ws cid .commitment = [c] := by
  have hnodup := owned_nodup (l := l) ws cid .commitment
  have hid : ∀ row ∈ l.owned ws cid .commitment, row.id = cid := fun row hrow => by
    have := (List.mem_filter.1 hrow).2
    simp only [decide_eq_true_eq] at this
    exact this.2
  cases hrows : l.owned ws cid .commitment with
  | nil => rw [hrows] at h; cases h
  | cons row rows =>
    rw [hrows] at h hnodup hid
    obtain rfl : row = c := Option.some_inj.1 h
    cases rows with
    | nil => rfl
    | cons next rows =>
      simp only [List.map_cons, List.nodup_cons, List.mem_cons, not_or] at hnodup
      exact absurd ((hid row (by simp)).trans (hid next (by simp)).symm) hnodup.1.1

theorem optionalText_distinct (o : Option String) : (optionalText o).distinct = true := by
  cases o <;> rfl

/-- What the view of an agreement is read from has no key twice, so the view has none. -/
theorem viewJson_distinct {offer : OfferRow} {acceptances : List OfferEvent}
    {termination activation : Option OfferEvent} (hoffer : offer.value.distinct = true)
    (hacceptances : ∀ e ∈ acceptances, (e.value "partyPrincipalId").distinct = true)
    (htermination : ∀ e ∈ termination, (e.value "action").distinct = true)
    (hactivation : ∀ e ∈ activation, (e.value "id").distinct = true)
    (supersededBy : Option String) (now : ℕ) :
    (OutcomeLedger.viewJson offer acceptances termination activation supersededBy now).distinct =
      true := by
  have hitems : distinctItems (acceptances.map (OfferEvent.value "partyPrincipalId")) = true := by
    rw [distinctItems_eq, List.all_map, List.all_eq_true]
    exact hacceptances
  have htermination :
      ((termination.map (OfferEvent.value "action")).getD .null).distinct = true := by
    cases termination with
    | none => rfl
    | some e => exact htermination e rfl
  have hactivation : ((activation.map (OfferEvent.value "id")).getD .null).distinct = true := by
    cases activation with
    | none => rfl
    | some e => exact hactivation e rfl
  simp [OutcomeLedger.viewJson, distinct, distinctFields, hoffer, hitems, htermination, hactivation,
    optionalText_distinct]

/-- STEP: a view is that of the offer asked for, and has no key twice. -/
theorem getAgreementView_spec {id ws : String} {now : ℕ} {a : String × Json}
    (h : l.getAgreementView id ws now = .ok (some a)) :
    a.1 = id ∧ a.2.distinct = true ∧ (l.offer? ws id).isSome := by
  unfold OutcomeLedger.getAgreementView at h
  split at h
  · simp at h
  · rename_i offer hoffer
    simp only [bind_eq_ok, pure_eq_ok, Option.some.injEq] at h
    obtain ⟨supersededBy, -, rfl⟩ := h
    have hfound := List.find?_some hoffer
    simp only [decide_eq_true_eq] at hfound
    refine ⟨hfound.2, viewJson_distinct (l.offers_distinct _ (List.mem_of_find?_eq_some hoffer))
      ?_ ?_ ?_ _ _, by rw [hoffer]; rfl⟩
    · intro e he
      exact l.acceptances_distinct e
        (List.mem_of_mem_filter ((List.perm_insertionSort _ _).mem_iff.1 he))
    · exact fun e he => l.terminations_distinct e (List.mem_of_find?_eq_some he)
    · exact fun e he => l.activations_distinct e (List.mem_of_find?_eq_some he)

/-- The ledger shows a value of the commitment at a time. -/
def Shows (l : OutcomeLedger) (ws cid : String) (now : ℕ) : RecordType → Json → Prop
  | .table t, v => ∃ row ∈ l.owned ws cid t, v = t.value row
  | .agreement, v => ∃ id a, l.getAgreementView id ws now = .ok (some a) ∧ v = agreementValue a

theorem Shows.entry {ws cid : String} {now : ℕ} {t : RecordType} {v : Json}
    (h : Shows l ws cid now t v) : ∃ id, IsEntry v id := by
  cases t with
  | agreement =>
    obtain ⟨id, a, ha, rfl⟩ := h
    obtain ⟨-, hdistinct, -⟩ := getAgreementView_spec ha
    refine ⟨a.1, agreementValue_id a, ?_⟩
    simp [agreementValue, distinct, distinctFields, hdistinct]
  | table t =>
    obtain ⟨row, hrow, rfl⟩ := h
    exact ⟨row.id, value_id t row, owned_distinct hrow⟩

/-- Two values with one id are one value. -/
theorem Shows.unique {ws cid : String} {now : ℕ} {t : RecordType} {v w : Json} {id : String}
    (hv : Shows l ws cid now t v) (hw : Shows l ws cid now t w) (hvid : IsEntry v id)
    (hwid : IsEntry w id) : v = w := by
  cases t with
  | agreement =>
    obtain ⟨i, a, ha, rfl⟩ := hv
    obtain ⟨j, b, hb, rfl⟩ := hw
    have hai := (getAgreementView_spec ha).1
    have hbj := (getAgreementView_spec hb).1
    have haid := Option.some_inj.1 ((agreementValue_id a).symm.trans hvid.id)
    have hbid := Option.some_inj.1 ((agreementValue_id b).symm.trans hwid.id)
    obtain rfl : i = j := by
      rw [← hai, ← hbj]
      simpa using haid.trans hbid.symm
    rw [ha] at hb
    simp only [Except.ok.injEq, Option.some.injEq] at hb
    rw [hb]
  | table t =>
    obtain ⟨row, hrow, rfl⟩ := hv
    obtain ⟨row', hrow', rfl⟩ := hw
    have hid := Option.some_inj.1 ((value_id t row).symm.trans hvid.id)
    have hid' := Option.some_inj.1 ((value_id t row').symm.trans hwid.id)
    rw [List.inj_on_of_nodup_map (owned_nodup ws cid t) hrow hrow'
      (by simpa using hid.trans hid'.symm)]

/-! ### Groups -/

/-- What the ledger shows of a commitment, with the agreement read beside it. -/
def entries (l : OutcomeLedger) (ws cid : String) (c : LedgerRow)
    (agreement : Option (String × Json)) : List (RecordType × Json) :=
  groups ⟨c, l.owned ws cid⟩ agreement

theorem mem_groupTables (t : RecordTable) : t ∈ groupTables ↔ t ≠ .commitment := by
  cases t <;> decide

section

variable {ws cid : String} {c : LedgerRow} {agreement : Option (String × Json)}
  (hc : (l.owned ws cid .commitment).head? = some c)

include hc

theorem table_mem_entries {t : RecordTable} {v : Json} :
    (.table t, v) ∈ entries l ws cid c agreement ↔ ∃ row ∈ l.owned ws cid t, v = t.value row := by
  have hcommitment := owned_commitment hc
  simp only [entries, groups, List.mem_append, List.mem_cons, List.mem_map, List.mem_flatMap,
    mem_groupTables, Prod.mk.injEq, RecordType.table.injEq, reduceCtorEq, false_and,
    and_false, exists_false, or_false]
  constructor
  · rintro (⟨rfl, rfl⟩ | ⟨t', -, row, hrow, rfl, rfl⟩)
    · exact ⟨c, by rw [hcommitment]; exact List.mem_singleton_self c, rfl⟩
    · exact ⟨row, hrow, rfl⟩
  · rintro ⟨row, hrow, rfl⟩
    by_cases ht : t = .commitment
    · subst ht
      rw [hcommitment, List.mem_singleton] at hrow
      exact .inl ⟨rfl, by rw [hrow]⟩
    · exact .inr ⟨t, ht, row, hrow, rfl, rfl⟩

omit hc in
theorem agreement_mem_entries {v : Json} :
    (.agreement, v) ∈ entries l ws cid c agreement ↔ ∃ a ∈ agreement, v = agreementValue a := by
  simp only [entries, groups, List.mem_append, List.mem_cons, List.mem_map, List.mem_flatMap,
    Prod.mk.injEq, reduceCtorEq, false_and, and_false, exists_false, or_false, false_or, true_and,
    Option.mem_toList, Option.mem_def, eq_comm]

/-- Every value of the groups is one that the ledger shows. -/
theorem shows_of_mem_entries {now : ℕ} {e : RecordType × Json}
    (hagreement : ∀ a ∈ agreement, ∃ id, l.getAgreementView id ws now = .ok (some a))
    (he : e ∈ entries l ws cid c agreement) : Shows l ws cid now e.1 e.2 := by
  obtain ⟨t, v⟩ := e
  cases t with
  | agreement =>
    obtain ⟨a, ha, rfl⟩ := agreement_mem_entries.1 he
    obtain ⟨id, hid⟩ := hagreement a ha
    exact ⟨id, a, hid, rfl⟩
  | table t => exact (table_mem_entries hc).1 he

omit hc in
/-- The keys of the groups are those of different records. -/
theorem entries_nodup :
    ((entries l ws cid c agreement).map fun e => (e.1, property e.2 "id")).Nodup := by
  have hagreement : ((agreement.toList.map fun a => (RecordType.agreement, agreementValue a)).map
      fun e => (e.1, property e.2 "id")).Nodup := by
    cases agreement with
    | none => exact List.nodup_nil
    | some a => exact List.nodup_singleton _
  have htables : ((groupTables.flatMap fun t => (l.owned ws cid t).map fun row =>
      (RecordType.table t, t.value row)).map fun e => (e.1, property e.2 "id")).Nodup := by
    rw [List.map_flatMap, List.nodup_flatMap]
    constructor
    · intro t _
      have hids := (owned_nodup (l := l) ws cid t).map
        (f := fun id => (RecordType.table t, some (Json.str id))) fun i j h => by simpa using h
      rw [List.map_map] at hids ⊢
      simpa only [Function.comp_def, value_id] using hids
    · have hnodup : groupTables.Nodup := by decide
      refine hnodup.imp fun hne => ?_
      simp only [Function.onFun, List.disjoint_left, List.mem_map]
      rintro key ⟨_, ⟨row, -, rfl⟩, rfl⟩ ⟨_, ⟨row', -, rfl⟩, hkey⟩
      simp only [Prod.mk.injEq, RecordType.table.injEq] at hkey
      exact hne hkey.1.symm
  rw [entries, groups, List.map_append, List.map_cons, List.nodup_append]
  refine ⟨List.nodup_cons.2 ⟨?_, hagreement⟩, htables, ?_⟩
  · simp
  · -- The tables of the groups have neither the commitment nor the agreement.
    intro key hkey key' hkey' heq
    subst heq
    simp only [List.map_flatMap, List.mem_flatMap, mem_groupTables, List.mem_map] at hkey'
    obtain ⟨t, ht, _, ⟨row, -, rfl⟩, rfl⟩ := hkey'
    simp only [List.mem_cons, List.mem_map, Prod.mk.injEq, RecordType.table.injEq] at hkey
    rcases hkey with ⟨rfl, -⟩ | ⟨_, ⟨a, -, rfl⟩, h, -⟩
    · exact ht rfl
    · cases h

end

/-! ### Records of values -/

/-- `revision` of a value. -/
def revisionOf (v : Json) : Option ℚ :=
  match property v "revision" with
  | some (.num q) => some q
  | _ => none

/-- The bytes that the digest of a record is taken of. -/
def recordBytes (t : RecordType) (v : Json) : List UInt8 :=
  domainBytes ("tasq.outcome-record." ++ t.text ++ ".v1") (serialize v)

/-- `id` of a value. -/
def entryId (v : Json) : String :=
  match property v "id" with
  | some (.str id) => id
  | _ => ""

theorem IsEntry.entryId {v : Json} {id : String} (h : IsEntry v id) : entryId v = id := by
  rw [Bundles.entryId, h.id]

/-- A value that a record can be made of. -/
def Recordable (v : Json) : Prop := entryId v ≠ "" ∧ Within effectLimits v

variable (rt : BundleRuntime)

/-- The record of a value. -/
def recordOf (e : RecordType × Json) : RecordReference :=
  ⟨e.1, entryId e.2, revisionOf e.2, digestBytes rt (recordBytes e.1 e.2), e.2⟩

/-- The records of a commitment in their order. -/
def recordsOf (es : List (RecordType × Json)) : List RecordReference :=
  sortBy (compareRecords rt) (es.map (recordOf rt))

variable {rt}

/-- EXACT: a record is made of a value with an id and a canonical text within limits. -/
theorem asRecord_eq_ok {t : RecordType} {v : Json} {id : String} (h : IsEntry v id)
    (r : RecordReference) :
    asRecord rt t v = .ok r ↔ Recordable v ∧ recordOf rt (t, v) = r := by
  simp only [asRecord, h.id, bind_eq_ok, refuse_eq_ok, digestValue, canonicalizeEffectJson,
    pure_eq_ok, Recordable, h.entryId, recordOf]
  constructor
  · rintro ⟨_, hid, _, ⟨_, htext, rfl⟩, rfl⟩
    split at htext
    · rename_i hwithin
      simp only [Except.ok.injEq] at htext
      subst htext
      exact ⟨⟨hid, hwithin⟩, rfl⟩
    · cases htext
  · rintro ⟨⟨hid, hwithin⟩, rfl⟩
    exact ⟨(), hid, _, ⟨_, if_pos hwithin, rfl⟩, rfl⟩

/-- EXACT: the records are those of the values, when every value has one. -/
theorem exactRecords_eq_ok {snapshot : Inspection} {agreement : Option (String × Json)}
    (h : ∀ e ∈ groups snapshot agreement, ∃ id, IsEntry e.2 id) (records : List RecordReference) :
    exactRecords rt snapshot agreement = .ok records ↔
      (∀ e ∈ groups snapshot agreement, Recordable e.2) ∧
        recordsOf rt (groups snapshot agreement) = records := by
  have hmap := fun ys => mapM_eq_ok (f := fun e : RecordType × Json => asRecord rt e.1 e.2)
    (P := fun e => Recordable e.2) (g := recordOf rt)
    (fun e he r => by
      obtain ⟨id, hid⟩ := h e he
      exact asRecord_eq_ok hid r) ys
  simp only [exactRecords, bind_eq_ok, pure_eq_ok, hmap, recordsOf]
  constructor
  · rintro ⟨_, ⟨hall, rfl⟩, rfl⟩
    exact ⟨hall, rfl⟩
  · rintro ⟨hall, rfl⟩
    exact ⟨_, ⟨hall, rfl⟩, rfl⟩

/-- EXACT: an inspection shows the commitment and what it owns. -/
theorem inspectCommitment_eq_ok {ws cid : String} {snapshot : Inspection} :
    inspectCommitment l cid ws = .ok (some snapshot) ↔ ¬ Blank ws ∧
      ∃ c, (l.owned ws cid .commitment).head? = some c ∧ ⟨c, l.owned ws cid⟩ = snapshot := by
  unfold inspectCommitment
  split
  · rename_i h
    simp [h]
  · rename_i h
    simp [h, Option.map_eq_some_iff]

/-! ### Bundles built -/

/-- The agreement read is one that the ledger shows. -/
theorem shows_of_readAgreement {c : LedgerRow} {ws : String} {now : ℕ}
    {agreement : Option (String × Json)} (h : readAgreement l c ws now = .ok agreement) :
    ∀ a ∈ agreement, l.getAgreementView a.1 ws now = .ok (some a) := by
  rintro a rfl
  unfold readAgreement at h
  split at h
  · rw [(getAgreementView_spec h).1]
    exact h
  · simp at h

/-- What a bundle says, of the records it has. -/
def contentOf (input : BundleInput) (c : LedgerRow) (agreement : Option (String × Json))
    (records : List RecordReference) : BundleContent :=
  ⟨input.workspaceId, input.commitmentId, input.generatedAt, records,
    sortBy (compareReferences rt) input.externalReferences,
    sortBy (compareOmissions rt)
      (discloseAgreement (agreementOfferId c) agreement input.omissions)⟩

variable (rt) in
/-- How a bundle was built: on which commitment, and with which agreement. -/
structure Built (l : OutcomeLedger) (input : BundleInput) (b : OutcomeBundle) (c : LedgerRow)
    (agreement : Option (String × Json)) : Prop where
  time : input.generatedAt ≤ maxSafeInteger
  workspace : ¬ Blank input.workspaceId
  commitment : (l.owned input.workspaceId input.commitmentId .commitment).head? = some c
  view : readAgreement l c input.workspaceId input.generatedAt = .ok agreement
  disclosed : validateDisclosures b.externalReferences b.omissions = .ok ()
  recordable : ∀ e ∈ entries l input.workspaceId input.commitmentId c agreement, Recordable e.2
  content : b.toBundleContent = @contentOf rt input c agreement
    (recordsOf rt (entries l input.workspaceId input.commitmentId c agreement))
  digest : contentDigest rt b.toBundleContent = .ok b.bundleDigest

theorem entries_isEntry {ws cid : String} {now : ℕ} {c : LedgerRow}
    {agreement : Option (String × Json)} (hc : (l.owned ws cid .commitment).head? = some c)
    (h : ∀ a ∈ agreement, l.getAgreementView a.1 ws now = .ok (some a))
    {e : RecordType × Json} (he : e ∈ entries l ws cid c agreement) : ∃ id, IsEntry e.2 id :=
  (shows_of_mem_entries hc (fun a ha => ⟨a.1, h a ha⟩) he).entry

/-- EXACT: when a bundle is built, and what it is. -/
theorem buildOutcomeBundle_eq_ok {input : BundleInput} {b : OutcomeBundle} :
    buildOutcomeBundle rt l input = .ok b ↔ ∃ c agreement, Built rt l input b c agreement := by
  unfold buildOutcomeBundle
  simp only [bind_eq_ok, refuse_eq_ok, demand_eq_ok, pure_eq_ok, not_not]
  constructor
  · rintro ⟨_, htime, _, hinspect, snapshot, rfl, agreement, hagreement, _, hvalid, records,
      hrecords, digest, hdigest, rfl⟩
    obtain ⟨hws, c, hc, rfl⟩ := inspectCommitment_eq_ok.1 hinspect
    obtain ⟨hall, rfl⟩ := (exactRecords_eq_ok fun e he =>
      entries_isEntry hc (shows_of_readAgreement hagreement) he) records |>.1 hrecords
    exact ⟨c, agreement, htime, hws, hc, hagreement, hvalid, hall, rfl, hdigest⟩
  · rintro ⟨c, agreement, h⟩
    obtain ⟨content, digest⟩ := b
    obtain ⟨htime, hws, hc, hagreement, hvalid, hall, hcontent, hdigest⟩ := h
    simp only at hcontent
    subst hcontent
    exact ⟨(), htime, _, inspectCommitment_eq_ok.2 ⟨hws, c, hc, rfl⟩, _, rfl, agreement, hagreement,
      (), hvalid, _, (exactRecords_eq_ok fun e he =>
        entries_isEntry hc (shows_of_readAgreement hagreement) he) _ |>.2 ⟨hall, rfl⟩, digest,
      hdigest, rfl⟩

/-! ### Records up to the order of keys -/

theorem isEntry_canonical {v : Json} {id : String} (h : IsEntry v id) :
    property v.canonical "id" = some (.str id) := by
  rw [property_canonical h.distinct, h.id]
  rfl

theorem entryId_canonical {v : Json} {id : String} (h : IsEntry v id) :
    entryId v.canonical = id := by
  rw [entryId, isEntry_canonical h]

theorem revisionOf_canonical {v : Json} (h : v.distinct = true) :
    revisionOf v.canonical = revisionOf v := by
  rw [revisionOf, revisionOf, property_canonical h]
  cases property v "revision" with
  | none => rfl
  | some a => cases a <;> rfl

theorem recordBytes_canonical {v : Json} (t : RecordType) (h : v.distinct = true) :
    recordBytes t v.canonical = recordBytes t v := by
  rw [recordBytes, recordBytes, serialize_canonical h]

theorem recordable_canonical {v : Json} {id : String} (h : IsEntry v id) :
    Recordable v.canonical ↔ Recordable v := by
  rw [Recordable, Recordable, within_canonical, h.entryId, entryId_canonical h]

/-- A record with its body in canonical form. -/
def RecordReference.canonical (r : RecordReference) : RecordReference :=
  { r with body := r.body.canonical }

/-- An entry with its value in canonical form. -/
def canonicalEntry (e : RecordType × Json) : RecordType × Json := (e.1, e.2.canonical)

theorem recordOf_canonical {e : RecordType × Json} {id : String} (h : IsEntry e.2 id) :
    (recordOf rt e).canonical = recordOf rt (canonicalEntry e) := by
  simp only [recordOf, RecordReference.canonical, canonicalEntry, revisionOf_canonical h.distinct,
    recordBytes_canonical e.1 h.distinct, h.entryId, entryId_canonical h]

theorem recordOf_injective : Function.Injective (recordOf rt) := fun e e' h => by
  simp only [recordOf, RecordReference.mk.injEq] at h
  exact Prod.ext h.1 h.2.2.2.2

/-- EXACT: records are the same, whatever their order, exactly when the values are. -/
theorem recordsOf_perm_iff {es es' : List (RecordType × Json)} (h : ∀ e ∈ es, ∃ id, IsEntry e.2 id)
    (h' : ∀ e ∈ es', ∃ id, IsEntry e.2 id) :
    ((recordsOf rt es).map RecordReference.canonical).Perm
        ((recordsOf rt es').map RecordReference.canonical) ↔
      (es.map canonicalEntry).Perm (es'.map canonicalEntry) := by
  have hmap : ∀ {es : List (RecordType × Json)}, (∀ e ∈ es, ∃ id, IsEntry e.2 id) →
      ((recordsOf rt es).map RecordReference.canonical).Perm
        ((es.map canonicalEntry).map (recordOf rt)) := fun {es} h => by
    refine ((sortBy_perm _).map _).trans ?_
    rw [List.map_map, List.map_map]
    refine List.Perm.of_eq (List.map_congr_left fun e he => ?_)
    obtain ⟨id, hid⟩ := h e he
    exact recordOf_canonical hid
  rw [← List.map_perm_map_iff (@recordOf_injective rt)]
  exact ⟨fun hp => ((hmap h).symm.trans hp).trans (hmap h'),
    fun hp => ((hmap h).trans hp).trans (hmap h').symm⟩

theorem mem_recordsOf {es : List (RecordType × Json)} {r : RecordReference} :
    r ∈ recordsOf rt es ↔ ∃ e ∈ es, recordOf rt e = r := by
  rw [recordsOf, (sortBy_perm _).mem_iff, List.mem_map]

/-! ### Keys -/

/-- The types of records. -/
def recordTypes : List RecordType := .agreement :: .table .commitment :: groupTables.map .table

theorem mem_recordTypes (t : RecordType) : t ∈ recordTypes := by
  cases t with
  | agreement => decide
  | table t => cases t <;> decide +kernel

theorem text_injective : Function.Injective RecordType.text := fun t t' h => by
  have hnodup : (recordTypes.map RecordType.text).Nodup := by decide
  exact List.inj_on_of_nodup_map hnodup (mem_recordTypes t) (mem_recordTypes t') h

/-- EXACT: a key names a type and an id. -/
theorem key_eq_iff {r r' : RecordReference} :
    r.key = r'.key ↔ r.recordType = r'.recordType ∧ r.id = r'.id := by
  constructor
  · intro h
    have htext : ∀ (t : RecordType) (cs : List Char),
        (t.text.toList ++ ':' :: cs).span (· ≠ ':') = (t.text.toList, ':' :: cs) := fun t cs => by
      have hall : t.text.toList.all (· ≠ ':') = true := by
        cases t with
        | agreement => rfl
        | table t => cases t <;> rfl
      rw [List.span_eq_takeWhile_dropWhile,
        List.takeWhile_append_of_pos (List.all_eq_true.1 hall),
        List.dropWhile_append_of_pos (List.all_eq_true.1 hall)]
      simp
    have hspan := congrArg (List.span (· ≠ ':')) h
    rw [RecordReference.key, RecordReference.key, htext, htext] at hspan
    simp only [Prod.mk.injEq, List.cons.injEq, true_and, String.toList_inj] at hspan
    exact ⟨text_injective hspan.1, hspan.2⟩
  · rintro ⟨ht, hid⟩
    rw [RecordReference.key, RecordReference.key, ht, hid]

/-! ### The later ledger -/

/-- The ledger still has the value, up to the order of keys. -/
def Keeps (l : OutcomeLedger) (ws cid : String) (now : ℕ) (t : RecordType) (v : Json) : Prop :=
  ∃ w, Shows l ws cid now t w ∧ w.canonical = v.canonical

/-- A record can be made of every row of the commitment. -/
def Writable (l : OutcomeLedger) (ws cid : String) : Prop :=
  ∀ t, ∀ row ∈ l.owned ws cid t, Recordable (t.value row)

/-- The ledger has a row for a record of the commitment, or the offer of its agreement. -/
def HasKey (l : OutcomeLedger) (ws cid : String) : RecordType → String → Prop
  | .table t, id => ∃ row ∈ l.owned ws cid t, row.id = id
  | .agreement, id => ∃ c, (l.owned ws cid .commitment).head? = some c ∧
      agreementOfferId c = some id ∧ (l.offer? ws id).isSome

/-- No two values of a type, one of each ledger, are texts on which the digests collide. -/
def CollisionFree (rt : BundleRuntime) (l l' : OutcomeLedger) (ws cid : String) (now : ℕ) : Prop :=
  ∀ t v w, Shows l ws cid now t v → Shows l' ws cid now t w →
    rt.sha256 (recordBytes t v) = rt.sha256 (recordBytes t w) → recordBytes t v = recordBytes t w

theorem digestBytes_injective {bytes bytes' : List UInt8}
    (h : digestBytes rt bytes = digestBytes rt bytes') : rt.sha256 bytes = rt.sha256 bytes' := by
  unfold digestBytes at h
  have hhex : Bytes.hex (rt.sha256 bytes) = Bytes.hex (rt.sha256 bytes') :=
    List.append_cancel_left (String.ofList_injective h)
  exact hex_injective hhex

theorem domainBytes_injective (domain : String) : Function.Injective (domainBytes domain) := by
  intro cs ds h
  rw [domainBytes, domainBytes] at h
  exact (List.cons.inj (List.append_cancel_left (utf8_injective h))).2

/-- EXACT: without collisions the digest of a record tells values apart. -/
theorem digest_eq_iff {l' : OutcomeLedger} {ws cid : String} {now : ℕ}
    (hsha : CollisionFree rt l l' ws cid now) {t : RecordType} {v w : Json}
    (hv : Shows l ws cid now t v) (hw : Shows l' ws cid now t w) (hvr : Recordable v)
    (hwr : Recordable w) :
    digestBytes rt (recordBytes t v) = digestBytes rt (recordBytes t w) ↔
      v.canonical = w.canonical := by
  obtain ⟨_, hve⟩ := hv.entry
  obtain ⟨_, hwe⟩ := hw.entry
  constructor
  · intro h
    have htext := domainBytes_injective _ (hsha t v w hv hw (digestBytes_injective h))
    exact (serialize_eq_iff hvr.2.1 hve.distinct hwr.2.1 hwe.distinct).1 htext
  · intro h
    rw [← recordBytes_canonical t hve.distinct, h, recordBytes_canonical t hwe.distinct]

section

variable {l' : OutcomeLedger} {input : BundleInput} {b : OutcomeBundle} {c : LedgerRow}
  {agreement : Option (String × Json)} (hb : Built rt l input b c agreement)

include hb

theorem Built.records : b.records =
    recordsOf rt (entries l input.workspaceId input.commitmentId c agreement) :=
  congrArg BundleContent.records hb.content

theorem Built.shows {e : RecordType × Json}
    (he : e ∈ entries l input.workspaceId input.commitmentId c agreement) :
    Shows l input.workspaceId input.commitmentId input.generatedAt e.1 e.2 :=
  shows_of_mem_entries hb.commitment
    (fun a ha => ⟨a.1, shows_of_readAgreement hb.view a ha⟩) he

/-- The verifier asks for the agreement that the bundle was built with. -/
theorem Built.bundleAgreement : bundleAgreement l' b =
    agreement.elim (.ok none) fun a =>
      l'.getAgreementView a.1 input.workspaceId input.generatedAt := by
  have hws : b.workspaceId = input.workspaceId := congrArg BundleContent.workspaceId hb.content
  have hnow : b.generatedAt = input.generatedAt := congrArg BundleContent.generatedAt hb.content
  have hmem : ∀ r ∈ b.records, r.recordType = .agreement →
      ∃ a ∈ agreement, r.id = a.1 := fun r hr ht => by
    rw [hb.records, mem_recordsOf] at hr
    obtain ⟨⟨t, v⟩, he, rfl⟩ := hr
    obtain rfl : t = .agreement := ht
    obtain ⟨a, ha, rfl⟩ := agreement_mem_entries.1 he
    exact ⟨a, ha, by rw [recordOf, entryId, agreementValue_id]⟩
  rw [Bundles.bundleAgreement, hws, hnow]
  cases hfind : b.records.find? fun r => r.recordType = .agreement with
  | some r =>
    have ht := List.find?_some hfind
    simp only [decide_eq_true_eq] at ht
    obtain ⟨a, rfl, hid⟩ := hmem r (List.mem_of_find?_eq_some hfind) ht
    simp only [hid, Option.elim_some]
  | none =>
    cases agreement with
    | none => rfl
    | some a =>
      have hr : recordOf rt (.agreement, agreementValue a) ∈ b.records := by
        rw [hb.records, mem_recordsOf]
        exact ⟨_, agreement_mem_entries.2 ⟨a, rfl, rfl⟩, rfl⟩
      have := List.find?_eq_none.1 hfind _ hr
      simp [recordOf] at this

/-! ### The answer of the verifier -/

omit hb in
theorem freshness_current {missing : List (RecordType × String)} {stale : List StaleRecord} :
    (freshness missing stale).outcome = .current ↔ missing = [] ∧ stale = [] := by
  unfold freshness
  split
  · rename_i h
    simp [h]
  · rename_i h
    split
    · rename_i hstale
      simp [hstale]
    · rename_i hstale
      simp [not_not.1 h, not_not.1 hstale]

omit hb in
/-- EXACT: nothing is missing or stale when every record is found with its digest. -/
theorem nothing_missing_iff {records current : List RecordReference} :
    missingRecords records current = [] ∧ staleRecords records current = [] ↔
      ∀ r ∈ records, ∃ found, currentRecord current r.key = some found ∧
        found.digest = r.digest := by
  simp only [missingRecords, staleRecords, List.filterMap_eq_nil_iff, ← forall₂_and]
  refine forall₂_congr fun r _ => ?_
  cases currentRecord current r.key with
  | none => simp
  | some found => simp

omit hb in
/-- EXACT: the record found is the one with the key, where no two of them have one key. -/
theorem currentRecord_eq_some {current : List RecordReference} {key : List Char}
    {found : RecordReference} (h : ∀ r ∈ current, ∀ r' ∈ current, r.key = r'.key → r = r') :
    currentRecord current key = some found ↔ found ∈ current ∧ found.key = key := by
  constructor
  · intro hfound
    have hkey := List.find?_some hfound
    exact ⟨List.mem_reverse.1 (List.mem_of_find?_eq_some hfound), by simpa using hkey⟩
  · rintro ⟨hmem, rfl⟩
    cases hcase : currentRecord current found.key with
    | none =>
      have := List.find?_eq_none.1 hcase found (List.mem_reverse.2 hmem)
      simp at this
    | some other =>
      have hkey := List.find?_some hcase
      have hother := List.mem_reverse.1 (List.mem_of_find?_eq_some hcase)
      rw [h other hother found hmem (by simpa using hkey)]

omit hb in
theorem records_unique {ws cid : String} {now : ℕ} {c' : LedgerRow}
    {agreement' : Option (String × Json)}
    (hshows : ∀ e ∈ entries l' ws cid c' agreement', Shows l' ws cid now e.1 e.2) :
    ∀ r ∈ recordsOf rt (entries l' ws cid c' agreement'),
      ∀ r' ∈ recordsOf rt (entries l' ws cid c' agreement'), r.key = r'.key → r = r' := by
  intro r hr r' hr' hkey
  obtain ⟨⟨t, v⟩, he, rfl⟩ := mem_recordsOf.1 hr
  obtain ⟨⟨t', v'⟩, he', rfl⟩ := mem_recordsOf.1 hr'
  obtain ⟨ht, hid⟩ := key_eq_iff.1 hkey
  obtain rfl : t = t' := ht
  have hv := hshows _ he
  have hv' := hshows _ he'
  obtain ⟨_, hve⟩ := hv.entry
  obtain ⟨_, hve'⟩ := hv'.entry
  have hids : entryId v = entryId v' := hid
  rw [hve.entryId, hve'.entryId] at hids
  subst hids
  have hvv : v = v' := hv.unique hv' hve hve'
  rw [hvv]

omit hb in
/-- The agreement that the verifier reads is one that the later ledger shows. -/
theorem shows_of_elim {ws : String} {now : ℕ} {agreement' : Option (String × Json)}
    (h : (agreement.elim (.ok none) fun a => l'.getAgreementView a.1 ws now) = .ok agreement') :
    ∀ a ∈ agreement', l'.getAgreementView a.1 ws now = .ok (some a) := by
  rintro a rfl
  cases agreement with
  | none => simp at h
  | some a' =>
    have h : l'.getAgreementView a'.1 ws now = .ok (some a) := h
    rw [(getAgreementView_spec h).1]
    exact h

/-- What a current answer comes from. -/
theorem Built.verifyRecords_current :
    (∃ f, verifyRecords rt l' b = .ok f ∧ f.outcome = .current) ↔ ∃ c' agreement',
      (l'.owned input.workspaceId input.commitmentId .commitment).head? = some c' ∧
      (agreement.elim (.ok none) fun a =>
        l'.getAgreementView a.1 input.workspaceId input.generatedAt) = .ok agreement' ∧
      (∀ e ∈ entries l' input.workspaceId input.commitmentId c' agreement', Recordable e.2) ∧
      ∀ r ∈ b.records, ∃ e ∈ entries l' input.workspaceId input.commitmentId c' agreement',
        (recordOf rt e).key = r.key ∧ (recordOf rt e).digest = r.digest := by
  have hws : b.workspaceId = input.workspaceId := congrArg BundleContent.workspaceId hb.content
  have hcid : b.commitmentId = input.commitmentId := congrArg BundleContent.commitmentId hb.content
  have hentry : ∀ {c' : LedgerRow} {agreement' : Option (String × Json)},
      (l'.owned input.workspaceId input.commitmentId .commitment).head? = some c' →
      (∀ a ∈ agreement',
        l'.getAgreementView a.1 input.workspaceId input.generatedAt = .ok (some a)) →
      ∀ e ∈ entries l' input.workspaceId input.commitmentId c' agreement',
        Shows l' input.workspaceId input.commitmentId input.generatedAt e.1 e.2 :=
    fun hc' ha' e he => shows_of_mem_entries hc' (fun a ha => ⟨a.1, ha' a ha⟩) he
  have hfound : ∀ {c' : LedgerRow} {agreement' : Option (String × Json)},
      (∀ e ∈ entries l' input.workspaceId input.commitmentId c' agreement',
        Shows l' input.workspaceId input.commitmentId input.generatedAt e.1 e.2) →
      ∀ r : RecordReference, (∃ found, currentRecord (recordsOf rt
          (entries l' input.workspaceId input.commitmentId c' agreement')) r.key = some found ∧
        found.digest = r.digest) ↔
      ∃ e ∈ entries l' input.workspaceId input.commitmentId c' agreement',
        (recordOf rt e).key = r.key ∧ (recordOf rt e).digest = r.digest := fun hshows r => by
    simp only [currentRecord_eq_some (records_unique hshows), mem_recordsOf]
    constructor
    · rintro ⟨_, ⟨⟨e, he, rfl⟩, hkey⟩, hdigest⟩
      exact ⟨e, he, hkey, hdigest⟩
    · rintro ⟨e, he, hkey, hdigest⟩
      exact ⟨_, ⟨⟨e, he, rfl⟩, hkey⟩, hdigest⟩
  simp only [verifyRecords, bind_eq_ok, hws, hcid, hb.bundleAgreement]
  constructor
  · rintro ⟨f, ⟨snapshot, hinspect, hf⟩, hcurrent⟩
    cases snapshot with
    | none =>
      obtain rfl := (pure_eq_ok _ _).1 hf
      cases hcurrent
    | some snapshot =>
      obtain ⟨-, c', hc', rfl⟩ := inspectCommitment_eq_ok.1 hinspect
      simp only [bind_eq_ok, pure_eq_ok] at hf
      obtain ⟨agreement', hagreement, records, hrecords, rfl⟩ := hf
      have hshows := hentry hc' (shows_of_elim hagreement)
      obtain ⟨hall, rfl⟩ :=
        (exactRecords_eq_ok fun e he => (hshows e he).entry) records |>.1 hrecords
      refine ⟨c', agreement', hc', hagreement, hall, fun r hr => ?_⟩
      exact (hfound hshows r).1 (nothing_missing_iff.1 (freshness_current.1 hcurrent) r hr)
  · rintro ⟨c', agreement', hc', hagreement, hall, hrecords⟩
    have hshows := hentry hc' (shows_of_elim hagreement)
    have hexact := (@exactRecords_eq_ok rt _ _ fun e he => (hshows e he).entry) _ |>.2
      ⟨hall, rfl⟩
    have hread := inspectCommitment_eq_ok.2 ⟨hb.workspace, c', hc', rfl⟩
    let current := recordsOf rt (entries l' input.workspaceId input.commitmentId c' agreement')
    refine ⟨freshness (missingRecords b.records current) (staleRecords b.records current),
      ⟨_, hread, ?_⟩, ?_⟩
    · simp only [bind_eq_ok, pure_eq_ok]
      exact ⟨agreement', hagreement, current, hexact, rfl⟩
    · exact freshness_current.2 (nothing_missing_iff.2 fun r hr =>
        (hfound hshows r).2 (hrecords r hr))

theorem Built.commitment_mem :
    (.table .commitment, RecordTable.commitment.value c) ∈
      entries l input.workspaceId input.commitmentId c agreement :=
  (table_mem_entries hb.commitment).2
    ⟨c, by rw [owned_commitment hb.commitment]; exact List.mem_singleton_self c, rfl⟩

/-- A ledger that keeps the values of a bundle has the commitment, with the same properties. -/
theorem Built.later_commitment
    (hkeeps : ∀ e ∈ entries l input.workspaceId input.commitmentId c agreement,
      Keeps l' input.workspaceId input.commitmentId input.generatedAt e.1 e.2) :
    ∃ c', (l'.owned input.workspaceId input.commitmentId .commitment).head? = some c' ∧
      (RecordTable.commitment.value c').canonical = (RecordTable.commitment.value c).canonical := by
  obtain ⟨_, ⟨c', hc', rfl⟩, hcanonical⟩ := hkeeps _ hb.commitment_mem
  cases hrows : l'.owned input.workspaceId input.commitmentId .commitment with
  | nil => rw [hrows] at hc'; exact absurd hc' List.not_mem_nil
  | cons row rows =>
    have hone := owned_commitment (l := l') (c := row) (by rw [hrows]; rfl)
    rw [hone, List.mem_singleton] at hc'
    exact ⟨row, rfl, by rw [← hc']; exact hcanonical⟩

/-- A ledger that keeps the values of a bundle shows the agreement of the bundle. -/
theorem Built.later_agreement
    (hkeeps : ∀ e ∈ entries l input.workspaceId input.commitmentId c agreement,
      Keeps l' input.workspaceId input.commitmentId input.generatedAt e.1 e.2) :
    ∀ a ∈ agreement, ∃ a',
      l'.getAgreementView a.1 input.workspaceId input.generatedAt = .ok (some a') ∧
      (agreementValue a').canonical = (agreementValue a).canonical := by
  rintro a ha
  have he : (RecordType.agreement, agreementValue a) ∈
      entries l input.workspaceId input.commitmentId c agreement :=
    agreement_mem_entries.2 ⟨a, ha, rfl⟩
  obtain ⟨_, hw, hcanonical⟩ := hkeeps _ he
  obtain ⟨_, hae⟩ := (hb.shows he).entry
  obtain ⟨_, hwe⟩ := hw.entry
  obtain ⟨id, a', ha', rfl⟩ := hw
  have hid : property (agreementValue a') "id" = some (.str a.1) :=
    property_text hae.distinct hwe.distinct hcanonical.symm (agreementValue_id a)
  rw [agreementValue_id] at hid
  have hid : a'.1 = a.1 := by simpa using hid
  rw [(getAgreementView_spec ha').1] at hid
  subst hid
  exact ⟨a', ha', hcanonical⟩

/-- Where the later ledger keeps the values of a bundle, and the same agreement is read beside them,
    it has an entry for each, and a record can be made of every entry it has. -/
theorem Built.later_entries
    (hkeeps : ∀ e ∈ entries l input.workspaceId input.commitmentId c agreement,
      Keeps l' input.workspaceId input.commitmentId input.generatedAt e.1 e.2)
    (hwritable : Writable l' input.workspaceId input.commitmentId) {c' : LedgerRow}
    (hc' : (l'.owned input.workspaceId input.commitmentId .commitment).head? = some c')
    {agreement' : Option (String × Json)}
    (hshown : ∀ a ∈ agreement',
      l'.getAgreementView a.1 input.workspaceId input.generatedAt = .ok (some a))
    (hids : agreement'.map Prod.fst = agreement.map Prod.fst) :
    (∀ e ∈ entries l' input.workspaceId input.commitmentId c' agreement', Recordable e.2) ∧
      ∀ e ∈ entries l input.workspaceId input.commitmentId c agreement,
        ∃ e' ∈ entries l' input.workspaceId input.commitmentId c' agreement',
          canonicalEntry e' = canonicalEntry e := by
  -- The two agreements are those of one offer, so one is kept as the other.
  have hagreement : ∀ a' ∈ agreement', ∀ a ∈ agreement,
      (agreementValue a').canonical = (agreementValue a).canonical := by
    rintro a' ha' a ha
    have hid : a'.1 = a.1 := by
      rw [Option.mem_def] at ha ha'
      simpa [ha, ha'] using hids
    obtain ⟨a'', hview, hcanonical⟩ := hb.later_agreement hkeeps a ha
    rw [← hid, hshown a' ha'] at hview
    simp only [Except.ok.injEq, Option.some.injEq] at hview
    rw [hview]
    exact hcanonical
  constructor
  · rintro ⟨t, v⟩ he
    cases t with
    | table t =>
      obtain ⟨row, hrow, rfl⟩ := (table_mem_entries hc').1 he
      exact hwritable t row hrow
    | agreement =>
      obtain ⟨a', ha', rfl⟩ := agreement_mem_entries.1 he
      obtain ⟨a, ha⟩ : ∃ a, agreement = some a := by
        rw [Option.mem_def] at ha'
        rw [ha'] at hids
        cases agreement with
        | none => simp at hids
        | some a => exact ⟨a, rfl⟩
      have hmem : (RecordType.agreement, agreementValue a) ∈
          entries l input.workspaceId input.commitmentId c agreement :=
        agreement_mem_entries.2 ⟨a, ha, rfl⟩
      obtain ⟨_, hentry⟩ := (hb.shows hmem).entry
      obtain ⟨_, hentry'⟩ := (shows_of_mem_entries hc' (fun a ha => ⟨a.1, hshown a ha⟩) he).entry
      rw [← recordable_canonical hentry', hagreement a' ha' a ha, recordable_canonical hentry]
      exact hb.recordable _ hmem
  · rintro ⟨t, v⟩ he
    cases t with
    | table t =>
      obtain ⟨w, ⟨row, hrow, rfl⟩, hcanonical⟩ := hkeeps _ he
      exact ⟨_, (table_mem_entries hc').2 ⟨row, hrow, rfl⟩, Prod.ext rfl hcanonical⟩
    | agreement =>
      obtain ⟨a, ha, rfl⟩ := agreement_mem_entries.1 he
      obtain ⟨a', ha'⟩ : ∃ a', agreement' = some a' := by
        rw [Option.mem_def] at ha
        rw [ha] at hids
        cases agreement' with
        | none => simp at hids
        | some a' => exact ⟨a', rfl⟩
      exact ⟨_, agreement_mem_entries.2 ⟨a', ha', rfl⟩, Prod.ext rfl (hagreement a' ha' a ha)⟩

/-- EXACT: the verifier answers current exactly when the ledger keeps every value of the bundle and
    a record can be made of every row it has. -/
theorem Built.current_iff
    (hsha : CollisionFree rt l l' input.workspaceId input.commitmentId input.generatedAt) :
    (∃ f, verifyRecords rt l' b = .ok f ∧ f.outcome = .current) ↔
      (∀ e ∈ entries l input.workspaceId input.commitmentId c agreement,
        Keeps l' input.workspaceId input.commitmentId input.generatedAt e.1 e.2) ∧
      Writable l' input.workspaceId input.commitmentId := by
  rw [hb.verifyRecords_current]
  constructor
  · rintro ⟨c', agreement', hc', hagreement, hall, hrecords⟩
    refine ⟨fun e he => ?_, fun t row hrow =>
      hall (.table t, t.value row) ((table_mem_entries hc').2 ⟨row, hrow, rfl⟩)⟩
    obtain ⟨e', he', hkey, hdigest⟩ := hrecords (recordOf rt e) (by
      rw [hb.records, mem_recordsOf]
      exact ⟨e, he, rfl⟩)
    obtain ⟨t, v⟩ := e
    obtain ⟨t', v'⟩ := e'
    obtain rfl : t' = t := (key_eq_iff.1 hkey).1
    have hshows' : Shows l' input.workspaceId input.commitmentId input.generatedAt t' v' :=
      shows_of_mem_entries hc' (fun a ha => ⟨a.1, shows_of_elim hagreement a ha⟩) he'
    exact ⟨v', hshows', ((digest_eq_iff hsha (hb.shows he) hshows' (hb.recordable _ he)
      (hall _ he')).1 hdigest.symm).symm⟩
  · rintro ⟨hkeeps, hwritable⟩
    obtain ⟨c', hc', -⟩ := hb.later_commitment hkeeps
    obtain ⟨agreement', hagreement, hids⟩ : ∃ agreement' : Option (String × Json),
        (agreement.elim (.ok none) fun a =>
          l'.getAgreementView a.1 input.workspaceId input.generatedAt) = .ok agreement' ∧
        agreement'.map Prod.fst = agreement.map Prod.fst := by
      cases agreement with
      | none => exact ⟨none, rfl, rfl⟩
      | some a =>
        obtain ⟨a', ha', -⟩ := hb.later_agreement hkeeps a rfl
        exact ⟨some a', ha', congrArg some (getAgreementView_spec ha').1⟩
    have hshown := shows_of_elim hagreement
    obtain ⟨hall, hkept⟩ := hb.later_entries hkeeps hwritable hc' hshown hids
    refine ⟨c', agreement', hc', hagreement, hall, fun r hr => ?_⟩
    rw [hb.records, mem_recordsOf] at hr
    obtain ⟨e, he, rfl⟩ := hr
    obtain ⟨e', he', hsame⟩ := hkept e he
    obtain ⟨_, hentry⟩ := (hb.shows he).entry
    obtain ⟨_, hentry'⟩ :=
      (shows_of_mem_entries hc' (fun a ha => ⟨a.1, hshown a ha⟩) he').entry
    have hrecord : (recordOf rt e').canonical = (recordOf rt e).canonical := by
      rw [recordOf_canonical hentry', recordOf_canonical hentry, hsame]
    simp only [RecordReference.canonical, RecordReference.mk.injEq] at hrecord
    exact ⟨e', he', key_eq_iff.2 ⟨hrecord.1, hrecord.2.1⟩, hrecord.2.2.2.1⟩

end

end Tasq.Bundles
