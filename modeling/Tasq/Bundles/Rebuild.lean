import Mathlib.Tactic
import Tasq.Bundles.Freshness

/-! Building a bundle again: when the records are the same, and when the bundle is.

    A bundle built anew has the records of the first one exactly when the later ledger keeps every
    value, can write every row, and has no row for a further record; the verifier does not ask the
    last of these, so records created since do not make a bundle stale. References and omissions may
    be given in any order as far as the sort can tell them apart: what ties keeps its order. -/

namespace Tasq.Bundles

open Text Outcome Json Bytes Sorted Custody

variable {rt : BundleRuntime} {l l' : OutcomeLedger} {input : BundleInput} {b b' : OutcomeBundle}

/-! ### The same records -/

/-- The bundles have the same records, whatever the order of records and of keys. -/
def SameRecords (b b' : OutcomeBundle) : Prop :=
  (b.records.map RecordReference.canonical).Perm (b'.records.map RecordReference.canonical)

/-- The bytes that the digest of a bundle is taken of. -/
def contentBytes (c : BundleContent) : List UInt8 :=
  domainBytes "tasq.outcome-bundle.v1" (serialize (.obj c.fields))

/-- EXACT: a content has a digest when its canonical text is within limits. -/
theorem contentDigest_eq_ok {content : BundleContent} {digest : String} :
    contentDigest rt content = .ok digest ↔
      Within effectLimits (.obj content.fields) ∧
        digestBytes rt (contentBytes content) = digest := by
  simp only [contentDigest, digestValue, canonicalizeEffectJson, bind_eq_ok, pure_eq_ok,
    contentBytes]
  constructor
  · rintro ⟨text, htext, rfl⟩
    split at htext
    · rename_i h
      simp only [Except.ok.injEq] at htext
      exact ⟨h, by rw [← htext]⟩
    · cases htext
  · rintro ⟨h, rfl⟩
    exact ⟨_, if_pos h, rfl⟩

theorem size_record (r : RecordReference) : size r.canonical.json = size r.json := by
  simp only [RecordReference.json, RecordReference.canonical, size_obj, List.map_cons,
    Prod.map_apply, id_eq, size_canonical]

/-- Contents with the same records are within limits together. -/
theorem within_of_sameRecords {content : BundleContent} {records : List RecordReference}
    (h : (content.records.map RecordReference.canonical).Perm
      (records.map RecordReference.canonical)) :
    Within effectLimits (.obj content.fields) ↔
      Within effectLimits (.obj { content with records }.fields) := by
  have hsizes : ∀ records : List RecordReference,
      (records.map RecordReference.json).map size =
        (records.map RecordReference.canonical).map fun r => size r.json := fun records => by
    simp only [List.map_map, Function.comp_def, size_record]
  have harr : size (.arr (content.records.map RecordReference.json)) =
      size (.arr (records.map RecordReference.json)) := by
    rw [size_arr, size_arr, hsizes, hsizes]
    exact sizeItems_perm (h.map _)
  refine within_of_size ?_
  simp only [size_obj, BundleContent.fields, List.map_cons, Prod.map_apply, id_eq, harr]

/-- There is no view only of an offer that is not there. -/
theorem getAgreementView_none {id ws : String} {now : ℕ}
    (h : l.getAgreementView id ws now = .ok none) : l.offer? ws id = none := by
  unfold OutcomeLedger.getAgreementView at h
  split at h
  · assumption
  · simp only [bind_eq_ok, pure_eq_ok] at h
    obtain ⟨_, -, h⟩ := h
    cases h

/-- A value that a bundle of the input has a record of. -/
def BundleValue (l : OutcomeLedger) (input : BundleInput) (e : RecordType × Json) : Prop :=
  ∃ c agreement, (l.owned input.workspaceId input.commitmentId .commitment).head? = some c ∧
    readAgreement l c input.workspaceId input.generatedAt = .ok agreement ∧
    e ∈ entries l input.workspaceId input.commitmentId c agreement

/-- The later ledger keeps every value of the bundle. -/
def Unchanged (l l' : OutcomeLedger) (input : BundleInput) : Prop :=
  ∀ e, BundleValue l input e →
    Keeps l' input.workspaceId input.commitmentId input.generatedAt e.1 e.2

/-- The later ledger has a row for a record that the bundle has not. -/
def Added (l l' : OutcomeLedger) (input : BundleInput) : Prop :=
  ∃ t id, HasKey l' input.workspaceId input.commitmentId t id ∧
    ∀ v, BundleValue l input (t, v) → entryId v ≠ id

/-- Every entry has its row. -/
theorem hasKey_of_mem {ws cid : String} {now : ℕ} {c : LedgerRow}
    {agreement : Option (String × Json)} (hc : (l.owned ws cid .commitment).head? = some c)
    (hview : readAgreement l c ws now = .ok agreement) {e : RecordType × Json}
    (he : e ∈ entries l ws cid c agreement) : HasKey l ws cid e.1 (entryId e.2) := by
  obtain ⟨t, v⟩ := e
  cases t with
  | table t =>
    obtain ⟨row, hrow, rfl⟩ := (table_mem_entries hc).1 he
    exact ⟨row, hrow, by rw [entryId, value_id]⟩
  | agreement =>
    obtain ⟨a, rfl, rfl⟩ := agreement_mem_entries.1 he
    unfold readAgreement at hview
    split at hview
    · rename_i id hid
      obtain ⟨hoffer, -, hsome⟩ := getAgreementView_spec hview
      refine ⟨c, hc, ?_, ?_⟩
      · rw [hid, entryId, agreementValue_id, hoffer]
      · rw [entryId, agreementValue_id, hoffer]
        exact hsome
    · simp at hview

/-- Entries are different, also in canonical form. -/
theorem canonicalEntry_nodup {ws cid : String} {c : LedgerRow} {agreement : Option (String × Json)}
    (h : ∀ e ∈ entries l ws cid c agreement, ∃ id, IsEntry e.2 id) :
    ((entries l ws cid c agreement).map canonicalEntry).Nodup := by
  refine List.Nodup.of_map (fun e : RecordType × Json => (e.1, property e.2 "id")) ?_
  rw [List.map_map]
  refine (List.map_congr_left fun e he => ?_) ▸
    @entries_nodup l ws cid c agreement
  obtain ⟨_, hentry⟩ := h e he
  simp only [Function.comp_apply, canonicalEntry, isEntry_canonical hentry, hentry.id]

section

variable {c : LedgerRow} {agreement : Option (String × Json)}
  (hb : Built rt l input b c agreement)

include hb

theorem Built.bundleValue_iff {e : RecordType × Json} :
    BundleValue l input e ↔ e ∈ entries l input.workspaceId input.commitmentId c agreement := by
  constructor
  · rintro ⟨c', agreement', hc', hview, he⟩
    obtain rfl := Option.some_inj.1 (hb.commitment.symm.trans hc')
    rw [hb.view] at hview
    obtain rfl : agreement = agreement' := by simpa using hview
    exact he
  · exact fun he => ⟨c, agreement, hb.commitment, hb.view, he⟩

/-- Every row of a commitment that a bundle is built of has its entry. -/
theorem Built.entry_of_hasKey {t : RecordType} {id : String}
    (h : HasKey l input.workspaceId input.commitmentId t id) :
    ∃ v, (t, v) ∈ entries l input.workspaceId input.commitmentId c agreement ∧ entryId v = id := by
  cases t with
  | table t =>
    obtain ⟨row, hrow, rfl⟩ := h
    exact ⟨_, (table_mem_entries hb.commitment).2 ⟨row, hrow, rfl⟩, by rw [entryId, value_id]⟩
  | agreement =>
    obtain ⟨c', hc', hid, hoffer⟩ := h
    obtain rfl := Option.some_inj.1 (hb.commitment.symm.trans hc')
    have hview := hb.view
    rw [readAgreement, hid] at hview
    cases agreement with
    | none =>
      rw [getAgreementView_none hview] at hoffer
      cases hoffer
    | some a =>
      refine ⟨_, agreement_mem_entries.2 ⟨a, rfl, rfl⟩, ?_⟩
      rw [entryId, agreementValue_id]
      exact (getAgreementView_spec hview).1

/-- A bundle built again with the same records: the later ledger keeps every value, can write every
    row, and has no further row. -/
theorem Built.of_same {c' : LedgerRow} {agreement' : Option (String × Json)}
    (hb' : Built rt l' input b' c' agreement') (hsame : SameRecords b b') :
    Unchanged l l' input ∧ Writable l' input.workspaceId input.commitmentId ∧
      ¬ Added l l' input := by
  rw [SameRecords, hb.records, hb'.records,
    recordsOf_perm_iff (fun e he => (hb.shows he).entry) (fun e he => (hb'.shows he).entry)]
    at hsame
  refine ⟨fun e he => ?_, fun t row hrow => ?_, ?_⟩
  · have hmem := hsame.mem_iff.1 (List.mem_map_of_mem (f := canonicalEntry)
      (hb.bundleValue_iff.1 he))
    obtain ⟨e', he', heq⟩ := List.mem_map.1 hmem
    simp only [canonicalEntry, Prod.mk.injEq] at heq
    exact ⟨e'.2, heq.1 ▸ hb'.shows he', heq.2⟩
  · exact hb'.recordable (.table t, t.value row)
      ((table_mem_entries hb'.commitment).2 ⟨row, hrow, rfl⟩)
  · rintro ⟨t, id, hkey, hnew⟩
    obtain ⟨v, hv, rfl⟩ := hb'.entry_of_hasKey hkey
    have hmem := hsame.mem_iff.2 (List.mem_map_of_mem (f := canonicalEntry) hv)
    obtain ⟨⟨t', w⟩, he, heq⟩ := List.mem_map.1 hmem
    simp only [canonicalEntry, Prod.mk.injEq] at heq
    obtain ⟨rfl, hcanonical⟩ := heq
    obtain ⟨_, hentry⟩ := (hb.shows he).entry
    obtain ⟨_, hentry'⟩ := (hb'.shows hv).entry
    refine hnew w (hb.bundleValue_iff.2 he) ?_
    rw [hentry.entryId, hentry'.entryId, ← entryId_canonical hentry, hcanonical,
      entryId_canonical hentry']

omit hb in
/-- Rows with the same properties name the same offer. -/
theorem agreementOfferId_eq {c c' : LedgerRow}
    (hc : (RecordTable.commitment.value c).distinct = true)
    (hc' : (RecordTable.commitment.value c').distinct = true)
    (h : (RecordTable.commitment.value c').canonical = (RecordTable.commitment.value c).canonical) :
    agreementOfferId c' = agreementOfferId c := by
  have hmetadata := congrArg (property · "metadata") h
  simp only [property_canonical hc, property_canonical hc'] at hmetadata
  unfold agreementOfferId
  cases hm : property (RecordTable.commitment.value c) "metadata" with
  | none =>
    rw [hm] at hmetadata
    rw [Option.map_eq_none_iff.1 hmetadata]
  | some m =>
    rw [hm] at hmetadata
    obtain ⟨m', hm', hcanonical⟩ := Option.map_eq_some_iff.1 hmetadata
    rw [hm']
    have hoffer := congrArg (property · "agreementOfferId") hcanonical
    simp only [property_canonical (property_distinct hc hm),
      property_canonical (property_distinct hc' hm')] at hoffer
    dsimp only
    cases ho : property m "agreementOfferId" with
    | none =>
      rw [ho] at hoffer
      rw [Option.map_eq_none_iff.1 hoffer]
    | some o =>
      rw [ho] at hoffer
      obtain ⟨o', ho', hoo⟩ := Option.map_eq_some_iff.1 hoffer
      rw [ho']
      cases o <;> cases o' <;> simp_all [Json.canonical]

/-- The agreement that a later ledger reads is the one of the bundle, where no other was added. -/
theorem Built.later_view (hkeeps : Unchanged l l' input) (hnew : ¬ Added l l' input)
    {c' : LedgerRow}
    (hc' : (l'.owned input.workspaceId input.commitmentId .commitment).head? = some c')
    (hoffer : agreementOfferId c' = agreementOfferId c) :
    ∃ agreement' : Option (String × Json),
      readAgreement l' c' input.workspaceId input.generatedAt = .ok agreement' ∧
      agreement'.map Prod.fst = agreement.map Prod.fst := by
  have hkeeps : ∀ e ∈ entries l input.workspaceId input.commitmentId c agreement,
      Keeps l' input.workspaceId input.commitmentId input.generatedAt e.1 e.2 :=
    fun e he => hkeeps e (hb.bundleValue_iff.2 he)
  have hview := hb.view
  unfold readAgreement at hview ⊢
  rw [hoffer]
  cases hid : agreementOfferId c with
  | none =>
    rw [hid] at hview
    obtain rfl : none = agreement := by simpa using hview
    exact ⟨none, rfl, rfl⟩
  | some id =>
    rw [hid] at hview
    cases agreement with
    | some a =>
      have haid : a.1 = id := (getAgreementView_spec hview).1
      obtain ⟨a', ha', -⟩ := hb.later_agreement hkeeps a rfl
      rw [haid] at ha'
      exact ⟨some a', ha', congrArg some ((getAgreementView_spec ha').1.trans haid.symm)⟩
    | none =>
      -- An offer that has come since would be a row of a further record.
      cases hfound : l'.offer? input.workspaceId id with
      | none => exact ⟨none, by simp [OutcomeLedger.getAgreementView, hfound], rfl⟩
      | some offer =>
        refine absurd ⟨.agreement, id, ⟨c', hc', hoffer.trans hid, by rw [hfound]; rfl⟩, ?_⟩ hnew
        intro v hv
        obtain ⟨a, ha, -⟩ := agreement_mem_entries.1 (hb.bundleValue_iff.1 hv)
        cases ha

/-- A later ledger that keeps every value, can write every row and has no further row builds a
    bundle with the same records. -/
theorem Built.rebuild (hkeeps : Unchanged l l' input)
    (hwritable : Writable l' input.workspaceId input.commitmentId) (hnew : ¬ Added l l' input) :
    ∃ b', buildOutcomeBundle rt l' input = .ok b' ∧ SameRecords b b' := by
  have hkept := fun e he => hkeeps e (hb.bundleValue_iff.2 he)
  obtain ⟨c', hc', hcanonical⟩ := hb.later_commitment hkept
  have hrow : c ∈ l.owned input.workspaceId input.commitmentId .commitment := by
    rw [owned_commitment hb.commitment]
    exact List.mem_singleton_self c
  have hrow' : c' ∈ l'.owned input.workspaceId input.commitmentId .commitment := by
    rw [owned_commitment hc']
    exact List.mem_singleton_self c'
  have hoffer := agreementOfferId_eq (owned_distinct hrow) (owned_distinct hrow') hcanonical
  obtain ⟨agreement', hview, hids⟩ := hb.later_view hkeeps hnew hc' hoffer
  have hshown := shows_of_readAgreement hview
  obtain ⟨hall, hin⟩ := hb.later_entries hkept hwritable hc' hshown hids
  have hshows' : ∀ e ∈ entries l' input.workspaceId input.commitmentId c' agreement',
      Shows l' input.workspaceId input.commitmentId input.generatedAt e.1 e.2 :=
    fun e he => shows_of_mem_entries hc' (fun a ha => ⟨a.1, hshown a ha⟩) he
  have hperm : ((entries l input.workspaceId input.commitmentId c agreement).map
      canonicalEntry).Perm ((entries l' input.workspaceId input.commitmentId c' agreement').map
        canonicalEntry) := by
    rw [List.perm_ext_iff_of_nodup (canonicalEntry_nodup fun e he => (hb.shows he).entry)
      (canonicalEntry_nodup fun e he => (hshows' e he).entry)]
    intro x
    simp only [List.mem_map]
    constructor
    · rintro ⟨e, he, rfl⟩
      exact hin e he
    · rintro ⟨⟨t, v'⟩, he', rfl⟩
      -- The row of the entry is not a further one, so the bundle has a value with its key.
      have hkey := hasKey_of_mem hc' hview he'
      obtain ⟨v, hv, hid⟩ : ∃ v, BundleValue l input (t, v) ∧ entryId v = entryId v' := by
        by_contra hnone
        exact hnew ⟨t, entryId v', hkey, fun v hv hid => hnone ⟨v, hv, hid⟩⟩
      have he := hb.bundleValue_iff.1 hv
      obtain ⟨⟨t'', v''⟩, he'', hsame⟩ := hin _ he
      obtain rfl : t'' = t := congrArg Prod.fst hsame
      have hcanonical : v''.canonical = v.canonical := congrArg Prod.snd hsame
      obtain ⟨id, hentry⟩ := (hb.shows he).entry
      obtain ⟨id', hentry'⟩ := (hshows' _ he').entry
      obtain ⟨id'', hentry''⟩ := (hshows' _ he'').entry
      have hids : id' = id'' := by
        rw [hentry.entryId, hentry'.entryId] at hid
        rw [← hid, ← entryId_canonical hentry, ← hcanonical, entryId_canonical hentry'']
      have heq : v'' = v' :=
        (hshows' _ he'').unique (hshows' _ he') hentry'' (hids ▸ hentry')
      exact ⟨(t'', v), he, by rw [← hsame, heq]⟩
  have hsame := (@recordsOf_perm_iff rt _ _ (fun e he => (hb.shows he).entry)
    fun e he => (hshows' e he).entry).2 hperm
  rw [← hb.records] at hsame
  let content : BundleContent := { b.toBundleContent with
    records := recordsOf rt (entries l' input.workspaceId input.commitmentId c' agreement') }
  have hcontent : content = @contentOf rt input c' agreement'
      (recordsOf rt (entries l' input.workspaceId input.commitmentId c' agreement')) := by
    have hnone : agreement'.isNone = agreement.isNone := by
      simpa only [Option.isNone_map] using congrArg Option.isNone hids
    simp only [content, hb.content, contentOf, discloseAgreement, hoffer, hnone]
  have hwithin := (within_of_sameRecords hsame).1 (contentDigest_eq_ok.1 hb.digest).1
  refine ⟨⟨content, digestBytes rt (contentBytes content)⟩, ?_, hsame⟩
  exact buildOutcomeBundle_eq_ok.2 ⟨c', agreement', hb.time, hb.workspace, hc', hview, hb.disclosed,
    hall, hcontent, contentDigest_eq_ok.2 ⟨hwithin, rfl⟩⟩

end

/-! ### The order of references and omissions -/

instance : Std.TransCmp (compareReferences rt) := by
  have := rt.localeOrder
  unfold compareReferences
  infer_instance

instance : Std.TransCmp (compareOmissions rt) := by
  have := rt.localeOrder
  unfold compareOmissions
  infer_instance

/-- Whether the agreement is disclosed does not depend on the order of the omissions. -/
theorem tiedWith_discloseAgreement {offerId : Option String} {agreement : Option (String × Json)}
    {omissions others : List OutcomeOmission} (h : others.Perm omissions) (x : OutcomeOmission) :
    tiedWith (compareOmissions rt) x (discloseAgreement offerId agreement omissions) =
        tiedWith (compareOmissions rt) x (discloseAgreement offerId agreement others) ↔
      tiedWith (compareOmissions rt) x omissions = tiedWith (compareOmissions rt) x others := by
  have hany : (others.any fun o => decide (o.category = none)) =
      omissions.any fun o => decide (o.category = none) := by
    rw [Bool.eq_iff_iff, List.any_eq_true, List.any_eq_true]
    simp only [h.mem_iff]
  unfold discloseAgreement
  rw [hany]
  split
  · rw [tiedWith_append, tiedWith_append, List.append_left_inj]
  · exact Iff.rfl

/-- References and omissions in another order, where what ties stands in one order, make the same
    bundle. -/
theorem Built.permuted {c : LedgerRow} {agreement : Option (String × Json)}
    (hb : Built rt l input b c agreement) {references : List ExternalReference}
    {omissions : List OutcomeOmission} (homissions : omissions.Perm input.omissions)
    (htied : ∀ x, tiedWith (compareReferences rt) x input.externalReferences =
      tiedWith (compareReferences rt) x references)
    (htied' : ∀ x, tiedWith (compareOmissions rt) x input.omissions =
      tiedWith (compareOmissions rt) x omissions) :
    buildOutcomeBundle rt l { input with externalReferences := references, omissions } = .ok b := by
  have hreferences := sortBy_eq_iff.2 htied
  have homitted : sortBy (compareOmissions rt)
      (discloseAgreement (agreementOfferId c) agreement input.omissions) =
        sortBy (compareOmissions rt) (discloseAgreement (agreementOfferId c) agreement omissions) :=
    sortBy_eq_iff.2 fun x => (tiedWith_discloseAgreement homissions x).2 (htied' x)
  refine buildOutcomeBundle_eq_ok.2 ⟨c, agreement, hb.time, hb.workspace, hb.commitment, hb.view,
    hb.disclosed, hb.recordable, ?_, hb.digest⟩
  rw [hb.content, contentOf, contentOf, hreferences, homitted]

/-! ### What the bundle records -/

/-- The verifier reads the ledger for a bundle whose digest is its own. -/
theorem Built.verify_eq {c : LedgerRow} {agreement : Option (String × Json)}
    (hb : Built rt l input b c agreement) :
    verifyOutcomeBundleFreshness rt l' b = verifyRecords rt l' b := by
  rw [verifyOutcomeBundleFreshness, hb.digest, ok_bind, if_pos rfl]

/-- EXACT: the check answers current when the later ledger keeps every value of the bundle and can
    write every row; building anew gives the same records when, besides, no row was added; and the
    order of what is disclosed makes no difference beyond what ties. -/
theorem freshness_exact (rt : BundleRuntime) (l : OutcomeLedger) (input : BundleInput)
    (b : OutcomeBundle) (hb : buildOutcomeBundle rt l input = .ok b) :
    (∀ l' : OutcomeLedger,
      CollisionFree rt l l' input.workspaceId input.commitmentId input.generatedAt →
      ((∃ f, verifyOutcomeBundleFreshness rt l' b = .ok f ∧ f.outcome = .current) ↔
        Unchanged l l' input ∧ Writable l' input.workspaceId input.commitmentId) ∧
      ((∃ b', buildOutcomeBundle rt l' input = .ok b' ∧ SameRecords b b') ↔
        (∃ f, verifyOutcomeBundleFreshness rt l' b = .ok f ∧ f.outcome = .current) ∧
          ¬ Added l l' input)) ∧
    (∀ (references : List ExternalReference) (omissions : List OutcomeOmission),
      references.Perm input.externalReferences → omissions.Perm input.omissions →
      (∀ x, tiedWith (compareReferences rt) x input.externalReferences =
        tiedWith (compareReferences rt) x references) →
      (∀ x, tiedWith (compareOmissions rt) x input.omissions =
        tiedWith (compareOmissions rt) x omissions) →
      buildOutcomeBundle rt l { input with externalReferences := references, omissions } =
        .ok b) := by
  obtain ⟨c, agreement, hb⟩ := buildOutcomeBundle_eq_ok.1 hb
  refine ⟨fun l' hsha => ?_, fun references omissions _ homissions htied htied' =>
    hb.permuted homissions htied htied'⟩
  have hkeeps : (∀ e ∈ entries l input.workspaceId input.commitmentId c agreement,
      Keeps l' input.workspaceId input.commitmentId input.generatedAt e.1 e.2) ↔
      Unchanged l l' input := forall_congr' fun e => by rw [hb.bundleValue_iff]
  have hcurrent : (∃ f, verifyOutcomeBundleFreshness rt l' b = .ok f ∧ f.outcome = .current) ↔
      Unchanged l l' input ∧ Writable l' input.workspaceId input.commitmentId := by
    rw [hb.verify_eq, hb.current_iff hsha, hkeeps]
  refine ⟨hcurrent, ?_⟩
  rw [hcurrent]
  constructor
  · rintro ⟨b', hb', hsame⟩
    obtain ⟨c', agreement', hb'⟩ := buildOutcomeBundle_eq_ok.1 hb'
    obtain ⟨hunchanged, hwritable, hnew⟩ := hb.of_same hb' hsame
    exact ⟨⟨hunchanged, hwritable⟩, hnew⟩
  · rintro ⟨⟨hunchanged, hwritable⟩, hnew⟩
    exact hb.rebuild hunchanged hwritable hnew

theorem utf16_order : Std.TransCmp (compareOn Text.utf16) := inferInstance

/-- A platform with a digest of one byte, and whose comparison is that of code units. -/
def plainBundleRuntime : BundleRuntime where
  sha256 bytes := [UInt8.ofNat (bytes.foldl (fun h b => (31 * h + b.toNat) % 251) 0)]
  localeCompare := compareOn Text.utf16
  localeOrder := utf16_order

/-- A ledger with one commitment and these artifacts of it. -/
def plainOutcomeLedger (artifacts : List String) (h : artifacts.Nodup) : OutcomeLedger where
  rows t := match t with
    | .commitment => [⟨"c", "w", "", 1, [("metadata", .obj [])]⟩]
    | .artifact => artifacts.map fun id => ⟨id, "w", "c", 2, []⟩
    | _ => []
  offers := []
  acceptances := []
  terminations := []
  activations := []
  rows_nodup t := by
    cases t with
    | commitment => exact List.nodup_singleton _
    | artifact => simpa [Function.comp_def] using h
    | _ => exact List.nodup_nil
  rows_distinct t row hrow := by
    cases t with
    | commitment =>
      obtain rfl := List.mem_singleton.1 hrow
      decide
    | artifact =>
      obtain ⟨id, -, rfl⟩ := List.mem_map.1 hrow
      simp [RecordTable.value, RecordTable.ownerKey, RecordTable.orderKey, distinct, distinctFields]
    | _ => exact absurd hrow List.not_mem_nil
  offers_distinct := by simp
  acceptances_distinct := by simp
  terminations_distinct := by simp
  activations_distinct := by simp

/-- An input that omits every category, one of them with these explanations. -/
def plainBundleInput (explanations : List String) : BundleInput where
  workspaceId := "w"
  commitmentId := "c"
  generatedAt := 5
  externalReferences := []
  omissions := explanations.map (⟨some .authority, "a", ·⟩) ++
    [⟨some .custody, "c", ""⟩, ⟨some .rawBytes, "r", ""⟩]

/-- The first ledger shows one value of each type, and so does the later one of that type. -/
theorem plain_collisionFree : CollisionFree plainBundleRuntime
    (plainOutcomeLedger [] List.nodup_nil) (plainOutcomeLedger ["a"] (List.nodup_singleton _))
    "w" "c" 5 := by
  intro t v w hv hw _
  cases t with
  | agreement =>
    obtain ⟨id, a, ha, -⟩ := hv
    simp [OutcomeLedger.getAgreementView, OutcomeLedger.offer?, plainOutcomeLedger] at ha
  | table t =>
    obtain ⟨row, hrow, rfl⟩ := hv
    obtain ⟨row', hrow', rfl⟩ := hw
    have hrow := (owned_subperm _ _ _).subset hrow
    have hrow' := (owned_subperm _ _ _).subset hrow'
    cases t with
    | commitment => rw [List.mem_singleton.1 hrow, List.mem_singleton.1 hrow']
    | _ => exact absurd hrow List.not_mem_nil

/-- Of one reason each, the omissions may stand in any order. -/
theorem plain_untied (x : OutcomeOmission) :
    tiedWith (compareOmissions plainBundleRuntime) x (plainBundleInput ["x"]).omissions =
      tiedWith (compareOmissions plainBundleRuntime) x
        (plainBundleInput ["x"]).omissions.reverse := by
  refine sortBy_eq_iff.1 ?_ x
  decide +kernel

/-- An artifact was added since: the check still answers current, and a bundle built anew has a
    further record. -/
theorem plain_added :
    Ends (buildOutcomeBundle plainBundleRuntime (plainOutcomeLedger [] List.nodup_nil)
      (plainBundleInput ["x"])) fun b =>
        verifyOutcomeBundleFreshness plainBundleRuntime
          (plainOutcomeLedger ["a"] (List.nodup_singleton _)) b =
            .ok ⟨.current, false, [], []⟩ ∧
        Ends (buildOutcomeBundle plainBundleRuntime
          (plainOutcomeLedger ["a"] (List.nodup_singleton _)) (plainBundleInput ["x"]))
          fun b' => b'.records.length ≠ b.records.length := by
  decide +kernel

/-- The records that the bundle includes are unchanged, one was added, and the omissions the other
    way round make the same bundle. -/
theorem freshness_exact_added :
    Ends (buildOutcomeBundle plainBundleRuntime (plainOutcomeLedger [] List.nodup_nil)
      (plainBundleInput ["x"])) fun b =>
        Unchanged (plainOutcomeLedger [] List.nodup_nil)
          (plainOutcomeLedger ["a"] (List.nodup_singleton _)) (plainBundleInput ["x"]) ∧
        Added (plainOutcomeLedger [] List.nodup_nil)
          (plainOutcomeLedger ["a"] (List.nodup_singleton _)) (plainBundleInput ["x"]) ∧
        buildOutcomeBundle plainBundleRuntime (plainOutcomeLedger [] List.nodup_nil)
          { plainBundleInput ["x"] with
            omissions := (plainBundleInput ["x"]).omissions.reverse } = .ok b := by
  obtain ⟨b, hb, hcurrent, b', hb', hmore⟩ := plain_added
  obtain ⟨hfresh, horder⟩ := freshness_exact _ _ _ _ hb
  obtain ⟨hcurrent_iff, hrebuilt_iff⟩ := hfresh _ plain_collisionFree
  have hf : ∃ f, verifyOutcomeBundleFreshness plainBundleRuntime
      (plainOutcomeLedger ["a"] (List.nodup_singleton _)) b = .ok f ∧ f.outcome = .current :=
    ⟨_, hcurrent, rfl⟩
  refine ⟨b, hb, (hcurrent_iff.1 hf).1, ?_, horder [] _ (.refl _) (List.reverse_perm _)
    (fun _ => rfl) plain_untied⟩
  by_contra hnone
  obtain ⟨b'', hb'', hsame⟩ := hrebuilt_iff.2 ⟨hf, hnone⟩
  obtain rfl : b' = b'' := by simpa using hb'.symm.trans hb''
  exact hmore (by simpa using hsame.length_eq.symm)

/-- NOT SO: beside an artifact that was added since, the check answers current, and a bundle built
    anew does not have the same records. -/
theorem freshness_misses :
    Ends (buildOutcomeBundle plainBundleRuntime (plainOutcomeLedger [] List.nodup_nil)
      (plainBundleInput ["x"])) fun b =>
        verifyOutcomeBundleFreshness plainBundleRuntime
          (plainOutcomeLedger ["a"] (List.nodup_singleton _)) b =
            .ok ⟨.current, false, [], []⟩ ∧
        Ends (buildOutcomeBundle plainBundleRuntime
          (plainOutcomeLedger ["a"] (List.nodup_singleton _)) (plainBundleInput ["x"]))
          fun b' => ¬ SameRecords b b' := by
  obtain ⟨b, hb, hcurrent, b', hb', hmore⟩ := plain_added
  exact ⟨b, hb, hcurrent, b', hb', fun hsame => hmore (by simpa using hsame.length_eq.symm)⟩

end Tasq.Bundles
